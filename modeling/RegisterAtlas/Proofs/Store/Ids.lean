import RegisterAtlas.Proofs.Store.Reachable
import RegisterAtlas.Proofs.Store.Search
/-!
# Ids in order

Every table keeps its rows in increasing id order. An insert numbers a row one past its table's
last id, and the replay of an opened file refuses an id that is not above its table's last; so
in every reachable store the ids of each table increase, and binary search on them finds what a
scan finds. In a store that takes inserts the ids are `1, 2, …`.

The increment is 64-bit arithmetic: one past the largest 64-bit id is the smallest. A store that
takes inserts never gets near it, but an opened file may hold the largest id, and the id an insert
then reports in its refusal has wrapped around.

* `Store.IdsInOrder`, `Store.Reachable.idsInOrder`: the ids of every table increase, and are
  `1, 2, …` in a store that takes inserts.
* `lookup_by_binary_search_is_scan`: in every reachable store, looking a row up by id answers as
  a scan of its table does.
* `Tables.nextId`, `next_id_above_iff_last_not_max`: the id of a table's next row is above all of
  the table's exactly when its last id is not the largest 64-bit id, which in a store that takes
  inserts it never is.
* `next_id_wraps_after_largest_id`: a file whose table ends at the largest id opens, and the id
  an insert then reports is the smallest 64-bit id.
-/

namespace RegisterAtlas

open Json

/-! ## Increasing ids -/

/-- Ids that increase stay so when an id above the last is appended. -/
theorem pairwise_append_of_last_lt {l : List RowId} {id : RowId} (h : l.Pairwise (· < ·))
    (hlast : ∀ last ∈ l.getLast?, last < id) : (l ++ [id]).Pairwise (· < ·) := by
  refine List.pairwise_append.2 ⟨h, List.pairwise_singleton _ _, fun x hx y hy => ?_⟩
  rw [List.mem_singleton.1 hy]
  cases hl : l.getLast? with
  | none => simp_all
  | some z =>
    have hz : z < id := hlast z hl
    obtain ⟨ys, rfl⟩ := List.getLast?_eq_some_iff.1 hl
    -- every id before the last is below it
    rcases List.mem_append.1 hx with hx | hx
    · exact lt_trans ((List.pairwise_append.1 h).2.2 x hx z List.mem_cons_self) hz
    · rw [List.mem_singleton.1 hx]
      exact hz

namespace Tables

/-- Appending a row whose id is above its table's last keeps every table's ids increasing. -/
theorem increasing_add {t : Tables} (h : ∀ tb, (t.ids tb).Pairwise (· < ·)) {id : RowId}
    {row : Row} (hlast : ∀ last ∈ (t.ids row.table).getLast?, last < id) (tb : Table) :
    ((t.add id row).ids tb).Pairwise (· < ·) := by
  by_cases htb : tb = row.table
  · subst htb
    rw [ids_add_self]
    exact pairwise_append_of_last_lt (h _) hlast
  · rw [ids_add_of_ne t id htb]
    exact h tb

end Tables

namespace Store

/-- The ids of every table increase, and in a store that takes inserts they are `1, 2, …`. -/
structure IdsInOrder (s : Store) : Prop where
  increasing : ∀ tb, (s.tables.ids tb).Pairwise (· < ·)
  numbered : s.Writable → s.tables.Numbered

/-- **Ids stay in order.** In every reachable store whose tables hold fewer rows than there are
positive 64-bit ids, the ids of every table increase: a file is opened only if its ids do, and an
insert numbers its row one past the last of `1, 2, …`, which such a table does not overflow. -/
theorem Reachable.idsInOrder {s : Store} (h : s.Reachable) (hsmall : s.tables.Small) :
    s.IdsInOrder := by
  refine Reachable.induction (P := fun s => s.tables.Small → s.IdsInOrder) ?_ ?_ ?_ h hsmall
  · intro s hempty _ _
    have hnum : s.tables.Numbered := by
      rw [hempty]
      exact Tables.numbered_empty
    exact ⟨hnum.increasing, fun _ => hnum⟩
  · intro p M s ho _
    obtain ⟨hro, bytes, hj⟩ := openFile_ok ho
    refine ⟨readJournal_induction (P := fun t => ∀ tb, (t.ids tb).Pairwise (· < ·))
      (fun tb => by cases tb <;> simp [Tables.ids])
      (fun t id row ht hlast => Tables.increasing_add ht hlast) hj,
      fun hw => absurd hro hw⟩
  · intro s row M ih hsmall'
    rcases insert_cases s row M with hsame | ⟨id, hid, htables⟩
    · rw [hsame] at hsmall'
      obtain ⟨hinc, hnum⟩ := ih hsmall'
      refine ⟨by rw [hsame]; exact hinc, fun hw => ?_⟩
      rw [hsame]
      exact hnum ((writable_insertRow s row M).1 hw)
    · -- the row was accepted, so the store takes inserts and its ids were `1, …, n`
      rw [htables] at hsmall'
      have hsmall₀ := Tables.Small.of_add hsmall'
      have hnum := (ih hsmall₀).numbered (writable_of_assignRow hid)
      have hnext : id = (s.tables.ids row.table).length + 1 := by
        rw [assignRow_ok hid]
        exact Tables.next_of_numbered (hnum row.table) (hsmall₀ row.table)
      have hnum' : ((insertRow s row).run M).1.2.tables.Numbered := by
        rw [htables, hnext]
        exact hnum.add row
      exact ⟨hnum'.increasing, fun _ => hnum'⟩

end Store

/-! ## Lookup by id -/

namespace Store

/-- Looking an id up in `α`'s table answers as a scan of the table's rows does: the first row
with the id, else the failure `<table> query failed for id <id>: no such row`. -/
def GetIsScan (α : Type) [Entity α] (s : Store) : Prop :=
  ∀ id : RowId, (s.get id : Except AtlasError (Stored α)) =
    match (s.select fun (_ : α) => true).find? (·.id = id) with
    | some r => .ok r
    | none => .error (.queryFailure (Entity.table α).name ("id " ++ toString id) "no such row")

theorem getIsScan_of_increasing [Entity α] {s : Store}
    (hs : Search.Increasing (Entity.rows s.tables : Array (Stored α)) (·.id)) : s.GetIsScan α := by
  intro id
  rw [get_eq_find hs, select, Array.filter_eq_self.2 fun _ _ => rfl]
  rfl

end Store

/-- **Lookup by binary search agrees with a scan.** In every reachable store whose tables hold
fewer rows than there are positive 64-bit ids, the ids of every table increase, so looking an id
up in any table by binary search gives the row a scan of the table finds, or the failure "no such
row" when there is none. -/
theorem lookup_by_binary_search_is_scan {s : Store} (h : s.Reachable) (hsmall : s.tables.Small) :
    (∀ tb, (s.tables.ids tb).Pairwise (· < ·)) ∧ s.GetIsScan MpuRow ∧ s.GetIsScan PeripheralRow ∧
      s.GetIsScan RegisterRow ∧ s.GetIsScan FieldRow := by
  have hinc := (h.idsInOrder hsmall).increasing
  exact ⟨hinc, Store.getIsScan_of_increasing (Search.increasing_iff.2 (hinc .mpus)),
    Store.getIsScan_of_increasing (Search.increasing_iff.2 (hinc .peripherals)),
    Store.getIsScan_of_increasing (Search.increasing_iff.2 (hinc .registers)),
    Store.getIsScan_of_increasing (Search.increasing_iff.2 (hinc .fields))⟩

/-- A file of two MPU rows under the sparse ids `-5` and `7` opens, and looking ids up in it
answers as a scan does. -/
theorem lookup_by_binary_search_is_scan_sparse :
    let a : Row := .mpu { name := "A" }
    let b : Row := .mpu { name := "B" }
    let bytes : List UInt8 := textBytes headerLine ++ [10] ++ (textBytes (entryLine (-5) a) ++ [10]) ++
      (textBytes (entryLine 7 b) ++ [10])
    let s : Store :=
      { tables := (({} : Tables).add (-5) a).add 7 b, backing := .readOnly, path := some "store.db" }
    ((Store.openFile "store.db" : Sim _).run (Machine.withStoreFile ⟨bytes.toArray⟩)).1 = .ok s ∧
      s.Reachable ∧ s.tables.Small ∧
      ((∀ tb, (s.tables.ids tb).Pairwise (· < ·)) ∧ s.GetIsScan MpuRow ∧ s.GetIsScan PeripheralRow ∧
        s.GetIsScan RegisterRow ∧ s.GetIsScan FieldRow) := by
  intro a b bytes s
  have hjournal : JournalOf "store.db" bytes s.tables :=
    ((journalOf_header "store.db").append (by decide) (by decide) (by decide)).append
      (by decide) (by decide) (by decide)
  have hopen : ((Store.openFile "store.db" : Sim _).run (Machine.withStoreFile ⟨bytes.toArray⟩)).1 =
      .ok s := hjournal.opens
  have hreach : s.Reachable := .opened hopen
  have hsmall : s.tables.Small := by decide
  exact ⟨hopen, hreach, hsmall, lookup_by_binary_search_is_scan hreach hsmall⟩

/-! ## The id of a new row -/

namespace Tables

/-- The id an insert gives the next row of a table: one past the table's last id, as 64-bit
arithmetic computes it, or 1 for an empty table. -/
def nextId (t : Tables) (tb : Table) : RowId :=
  match (t.ids tb).getLast? with
  | some x => x.next
  | none => 1

/-- Above every id of an increasing list exactly when its last id is not the largest. -/
theorem lt_next_iff {l : List RowId} (h : l.Pairwise (· < ·)) :
    (∀ x ∈ l, x < (match l.getLast? with
      | some x => x.next
      | none => 1)) ↔ l.getLast? ≠ some maxId := by
  cases hl : l.getLast? with
  | none =>
    rw [List.getLast?_eq_none_iff.1 hl]
    simp
  | some z =>
    obtain ⟨ys, rfl⟩ := List.getLast?_eq_some_iff.1 hl
    have hbelow : ∀ x ∈ ys, x < z := fun x hx =>
      (List.pairwise_append.1 h).2.2 x hx z List.mem_cons_self
    have hmin : minId < maxId := by decide
    by_cases hz : z = maxId
    · -- the last id is the largest: the next wraps to the smallest, below the last
      subst hz
      simp only [RowId.next, ne_eq, not_true_eq_false, iff_false, not_forall]
      exact ⟨maxId, List.mem_append_right _ List.mem_cons_self, not_lt.2 (le_of_lt hmin)⟩
    · simp only [RowId.next, ne_eq, Option.some.injEq, hz, not_false_eq_true,
        iff_true]
      intro x hx
      rcases List.mem_append.1 hx with hx | hx
      · exact lt_trans (hbelow x hx) (Int.lt_succ z)
      · rw [List.mem_singleton.1 hx]
        exact Int.lt_succ z

/-- The last id of numbered small tables is not the largest. -/
theorem Numbered.last_ne_max {t : Tables} (h : t.Numbered) (hsmall : t.Small) (tb : Table) :
    (t.ids tb).getLast? ≠ some maxId := by
  intro hlast
  have hnext := next_of_numbered (h tb) (hsmall tb)
  rw [hlast] at hnext
  -- one past the largest id is the smallest, which is no `n + 1`
  have hwrap : RowId.next maxId = minId := if_pos rfl
  have hmin : minId < 0 := by decide
  simp only [hwrap] at hnext
  omega

end Tables

namespace Store

section Fresh

variable [Entity α]

/-- A row passes the unique check of a store: no row of its table has its unique key. -/
def Fresh (s : Store) (row : α) : Prop :=
  ∀ key, Entity.uniqueKey row = some key →
    ∀ r ∈ (Entity.rows s.tables : Array (Stored α)), Entity.uniqueKey r.row ≠ some key

/-- A row that passes the unique check gets the next id, which a read-only store reports in its
refusal. -/
theorem assignId_of_fresh {s : Store} {row : α} (hkey : s.Fresh row) :
    s.assignId row = match s.backing with
      | .readOnly => .error (.rowFailure (Entity.table α).name (nextId α s)
          "store was opened read-only")
      | _ => .ok (nextId α s) := by
  simp only [assignId]
  cases hk : Entity.uniqueKey row with
  | none => cases s.backing <;> rfl
  | some key =>
    have hnone : ((Entity.rows s.tables : Array (Stored α)).any
        fun r => Entity.uniqueKey r.row == some key) = false :=
      Array.any_eq_false'.2 fun r hr => by simpa using hkey key hk r hr
    simp only [hnone]
    cases s.backing <;> rfl

theorem nextId_eq_getLast? (s : Store) :
    nextId α s = match ((Entity.rows s.tables : Array (Stored α)).toList.map (·.id)).getLast? with
      | some x => x.next
      | none => 1 := by
  simp only [nextId, List.getLast?_map, Array.getLast?_toList]
  cases Array.back? _ <;> rfl

end Fresh

/-- A row passes the unique check of the store, in its own table. -/
def PassesUnique (s : Store) : Row → Prop
  | .mpu r => s.Fresh r
  | .peripheral r => s.Fresh r
  | .register r => s.Fresh r
  | .field r => s.Fresh r

/-- **The id an insert computes.** A row that passes the unique check gets the id after its
table's last: a writable store returns it, a read-only one reports it in its refusal. -/
theorem assignRow_of_passes {s : Store} {row : Row} (hrow : s.PassesUnique row) :
    s.assignRow row = if s.backing = .readOnly then
      .error (.rowFailure row.table.name (s.tables.nextId row.table) "store was opened read-only")
    else .ok (s.tables.nextId row.table) := by
  cases row <;>
  · simp only [assignRow, PassesUnique] at hrow ⊢
    rw [assignId_of_fresh hrow, nextId_eq_getLast?]
    cases s.backing <;> rfl

end Store

/-- **The id of a new row is above its table's unless the last id is the largest.** In every
reachable store whose tables hold fewer rows than there are positive 64-bit ids, an insert of a
row that passes the unique check returns, or reports in a read-only store's refusal, the id after
its table's last; that id is above every id of the table exactly when the last id is not the
largest 64-bit id, and in a store that takes inserts it never is. -/
theorem next_id_above_iff_last_not_max {s : Store} (h : s.Reachable) (hsmall : s.tables.Small)
    {row : Row} (hrow : s.PassesUnique row) :
    s.assignRow row = (if s.backing = .readOnly then
      .error (.rowFailure row.table.name (s.tables.nextId row.table) "store was opened read-only")
      else .ok (s.tables.nextId row.table)) ∧
    ((∀ x ∈ s.tables.ids row.table, x < s.tables.nextId row.table) ↔
      (s.tables.ids row.table).getLast? ≠ some maxId) ∧
    (s.Writable → (s.tables.ids row.table).getLast? ≠ some maxId) := by
  have hord := h.idsInOrder hsmall
  exact ⟨Store.assignRow_of_passes hrow, Tables.lt_next_iff (hord.increasing _),
    fun hw => (hord.numbered hw).last_ne_max hsmall _⟩

/-- A journal holding one MPU, named `A`, at the largest 64-bit id. -/
theorem journalOf_largest_id :
    JournalOf "store.db"
      (textBytes headerLine ++ [10] ++ (textBytes (entryLine maxId (.mpu { name := "A" })) ++ [10]))
      (({} : Tables).add maxId (.mpu { name := "A" })) :=
  (journalOf_header "store.db").append (by decide) (by decide) (by decide)

/-- Beside that MPU, an MPU named `B` passes the unique check. -/
theorem passesUnique_beside_largest_id (b : Backing) (path : Option String) :
    ({ tables := ({} : Tables).add maxId (.mpu { name := "A" }), backing := b, path := path } :
      Store).PassesUnique (.mpu { name := "B" }) := by
  intro key hkey x hx
  simp [Tables.add, Tables.push, Entity.rows, Entity.setRows] at hx
  simp [hx, Entity.uniqueKey] at hkey ⊢
  rw [← hkey]
  decide

/-- At the store a file whose MPU table ends at the largest 64-bit id opens as, the id a new MPU
gets is not above the table's, its last id being the largest. -/
theorem next_id_not_above_at_largest_id :
    let b : Row := .mpu { name := "B" }
    let s : Store :=
      { tables := ({} : Tables).add maxId (.mpu { name := "A" }), backing := .readOnly,
        path := some "store.db" }
    s.Reachable ∧ s.tables.Small ∧ s.PassesUnique b ∧
      (s.assignRow b = (if s.backing = .readOnly then
        .error (.rowFailure b.table.name (s.tables.nextId b.table) "store was opened read-only")
        else .ok (s.tables.nextId b.table)) ∧
      ((∀ x ∈ s.tables.ids b.table, x < s.tables.nextId b.table) ↔
        (s.tables.ids b.table).getLast? ≠ some maxId) ∧
      (s.Writable → (s.tables.ids b.table).getLast? ≠ some maxId)) ∧
      ¬ ∀ x ∈ s.tables.ids b.table, x < s.tables.nextId b.table := by
  intro b s
  have hreach : s.Reachable := .opened journalOf_largest_id.opens
  have hsmall : s.tables.Small := by decide
  have hfresh : s.PassesUnique b := passesUnique_beside_largest_id _ _
  have h := next_id_above_iff_last_not_max hreach hsmall hfresh
  exact ⟨hreach, hsmall, hfresh, h, fun hall => h.2.1.1 hall rfl⟩

/-- A file whose MPU table ends at the largest 64-bit id opens; an MPU row with a new name then
gets, in the read-only store's refusal, the smallest 64-bit id, below the id already there. -/
theorem next_id_wraps_after_largest_id :
    let a : Row := .mpu { name := "A" }
    let b : Row := .mpu { name := "B" }
    let bytes : List UInt8 := textBytes headerLine ++ [10] ++ (textBytes (entryLine maxId a) ++ [10])
    let s : Store :=
      { tables := ({} : Tables).add maxId a, backing := .readOnly, path := some "store.db" }
    ((Store.openFile "store.db" : Sim _).run (Machine.withStoreFile ⟨bytes.toArray⟩)).1 = .ok s ∧
      s.tables.ids .mpus = [maxId] ∧ s.PassesUnique b ∧
      s.assignRow b = .error (.rowFailure "mpus" minId "store was opened read-only") ∧
      minId < maxId := by
  intro a b bytes s
  have hfresh : s.PassesUnique b := passesUnique_beside_largest_id _ _
  refine ⟨journalOf_largest_id.opens, rfl, hfresh, ?_, by decide⟩
  rw [Store.assignRow_of_passes hfresh, if_pos rfl]
  rfl

end RegisterAtlas
