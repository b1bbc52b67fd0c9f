import RegisterAtlas.Proofs.Store.Journal
import RegisterAtlas.Proofs.Store.Insert
import RegisterAtlas.Proofs.Disk.Resolve
import RegisterAtlas.Bench
/-!
# A journal store and a memory store agree

A store created in a file and a store kept in memory, given the same inserts on a machine that
refuses no write, answer every insert alike, and the file then opens as the tables of the memory
store. The journal writes each accepted row as an entry line, and flushes it, before the row
joins its table; reopening the file replays the lines. A machine that refuses the write leaves
the tables as they were and the line in the journal's buffer.

The agreement is carried by `Mirror`: the two stores hold the same tables, the journal's file is
where its path leads and, as long as every table holds fewer rows than there are positive 64-bit
ids, its ids are `1, 2, …` in each table and its file reads back as those tables. Past that
many rows an id wraps around to the smallest 64-bit number and the journal can no longer be
replayed; no store comes near it.

* `insertRow_cases`: an insert is refused by its check, refused by the machine under a journal,
  or accepted; only the last changes the tables.
* `insertRow_refused_keeps_line`: a line the machine refuses stays in the journal's buffer, and
  the next row of its table gets its id.
* `Mirror.after_insertRow`: one insert keeps the mirror and answers alike on both stores.
* `Mirror.after_insertAll`: so does a whole sequence of inserts, refused ones included.
* `mirror_create`: a store just created mirrors an empty memory store.
* `Mirror.openFile`: the file of a mirroring journal store opens as the memory store's tables.
-/

namespace RegisterAtlas

open Json

/-! ## Numbered tables -/

/-- The id after a 64-bit id is a 64-bit id. -/
theorem RowId.next_fits {x : RowId} (h : x.Fits) : x.next.Fits := by
  unfold RowId.next
  split
  · exact ⟨Int.le_refl _, by decide⟩
  · rename_i hne
    have hmax : maxId = 9223372036854775807 := by decide
    rw [hmax] at hne
    rw [fits_iff] at h ⊢
    -- row ids are integers under another name, which `omega` does not see through
    have hstep : ∀ y : Int, -9223372036854775808 ≤ y ∧ y ≤ 9223372036854775807 →
        y ≠ 9223372036854775807 → -9223372036854775808 ≤ y + 1 ∧ y + 1 ≤ 9223372036854775807 := by
      intro y hy hne
      omega
    exact hstep x h hne

namespace Tables

variable {t : Tables}

theorem ids_add_self (t : Tables) (id : RowId) (row : Row) :
    (t.add id row).ids row.table = t.ids row.table ++ [id] := by
  cases row <;> simp [add, ids, Row.table, push, Entity.rows, Entity.setRows]

theorem ids_add_of_ne (t : Tables) (id : RowId) {row : Row} {tb : Table} (h : tb ≠ row.table) :
    (t.add id row).ids tb = t.ids tb := by
  cases row <;> cases tb <;> simp_all [add, ids, Row.table, push, Entity.rows, Entity.setRows]

/-- Every table holds fewer rows than there are positive 64-bit ids. -/
def Small (t : Tables) : Prop := ∀ tb, ((t.ids tb).length : Int) < maxId

instance (t : Tables) : Decidable t.Small :=
  @decidable_of_iff _ _ ⟨fun h tb => h tb (by cases tb <;> simp), fun h tb _ => h tb⟩
    (List.decidableBAll (fun tb => ((t.ids tb).length : Int) < maxId)
      [.mpus, .peripherals, .registers, .fields])

/-- The ids of every table are `1, 2, …` in order. -/
def Numbered (t : Tables) : Prop :=
  ∀ tb, t.ids tb = (List.range (t.ids tb).length).map fun (k : Nat) => (k : Int) + 1

/-- Tables only grow: tables that are small after an insert were small before it. -/
theorem Small.of_add {id : RowId} {row : Row} (h : (t.add id row).Small) : t.Small := by
  intro tb
  by_cases htb : tb = row.table
  · have hlen := h tb
    subst htb
    rw [ids_add_self, List.length_append] at hlen
    simp at hlen
    omega
  · rw [← ids_add_of_ne t id htb]
    exact h tb

theorem numbered_empty : ({} : Tables).Numbered := by
  intro tb
  cases tb <;> rfl

/-- The id that follows the ids `1, …, n` of a table with fewer than `maxId` rows is `n + 1`. -/
theorem next_of_numbered {xs : List RowId}
    (hnum : xs = (List.range xs.length).map fun (k : Nat) => (k : Int) + 1)
    (hsmall : (xs.length : Int) < maxId) :
    (match xs.getLast? with
      | some x => x.next
      | none => 1) = (xs.length : Int) + 1 := by
  rw [hnum, List.getLast?_map, List.getLast?_range, List.length_map, List.length_range]
  by_cases hn : xs.length = 0
  · simp [hn]
  · have hlast : ((xs.length - 1 : Nat) : Int) + 1 = xs.length := by omega
    have hmax : (xs.length : Int) ≠ maxId := by omega
    simp only [hn, if_false, Option.map_some, RowId.next, hlast]
    rw [if_neg hmax]

/-- A row numbered one past its table keeps the tables numbered. -/
theorem Numbered.add (h : t.Numbered) (row : Row) :
    (t.add ((t.ids row.table).length + 1) row).Numbered := by
  intro tb
  by_cases htb : tb = row.table
  · subst htb
    rw [ids_add_self, List.length_append, List.length_singleton, List.range_succ, List.map_append,
      ← h row.table]
    simp
  · rw [ids_add_of_ne t _ htb]
    exact h tb

/-- The ids of a numbered table are below the next one. -/
theorem Numbered.lt_next (h : t.Numbered) (tb : Table) :
    ∀ x ∈ t.ids tb, x < (t.ids tb).length + 1 := by
  intro x hx
  rw [h tb] at hx
  obtain ⟨k, hk, rfl⟩ := List.mem_map.1 hx
  have hlt := List.mem_range.1 hk
  -- the ids are integers under the name of row ids, which `omega` does not unfold
  show (k : Int) + 1 < ((t.ids tb).length : Int) + 1
  omega

/-- The ids `1, 2, …` of a numbered table increase. -/
theorem Numbered.increasing (h : t.Numbered) (tb : Table) : (t.ids tb).Pairwise (· < ·) := by
  rw [h tb, List.pairwise_map]
  exact List.pairwise_lt_range.imp fun {a b : Nat} (hab : a < b) =>
    show (a : Int) + 1 < (b : Int) + 1 by omega

end Tables

/-! ## Inserting a row of any table -/

namespace Store

/-- The check and the numbering of a row of any table. -/
def assignRow (s : Store) : Row → Except AtlasError RowId
  | .mpu r => s.assignId r
  | .peripheral r => s.assignId r
  | .register r => s.assignId r
  | .field r => s.assignId r

theorem assignRow_congr {s s' : Store} (row : Row) (ht : s.tables = s'.tables) (hs : s.Writable)
    (hs' : s'.Writable) : s.assignRow row = s'.assignRow row := by
  cases row <;>
  · simp only [assignRow]
    exact assignId_congr _ ht hs hs'

/-- An accepted row gets the id after its table's last. -/
theorem assignRow_ok {s : Store} {row : Row} {id : RowId} (h : s.assignRow row = .ok id) :
    id = match (s.tables.ids row.table).getLast? with
      | some x => x.next
      | none => 1 := by
  cases row <;>
  · simp only [assignRow] at h
    rw [eq_nextId_of_assignId h]
    simp only [nextId, Tables.ids, Row.table, List.getLast?_map, Array.getLast?_toList]
    cases Array.back? _ <;> rfl

theorem writable_of_assignRow {s : Store} {row : Row} {id : RowId} (h : s.assignRow row = .ok id) :
    s.Writable := by
  cases row <;>
  · simp only [assignRow] at h
    exact writable_of_assignId h

end Store

/-- An insert into a memory store: the machine is untouched. -/
theorem insertRow_memory (s : Store) (row : Row) (M : Machine) (h : s.backing = .memory) :
    (insertRow s row).run M =
      (match s.assignRow row with
        | .error e => (.error e, s)
        | .ok id => (.ok id, { s with tables := s.tables.add id row }), M) := by
  cases row <;> exact Store.insert_run_memory _ _ M h

/-- An insert into a journal store: the row's entry line goes through the writer first. -/
theorem insertRow_journal (s : Store) (row : Row) (M : Machine) {w : Writer}
    (h : s.backing = .journal w) :
    (insertRow s row).run M =
      match s.assignRow row with
      | .error e => ((.error e, s), M)
      | .ok id =>
        match (w.appendLine (entryLine id row).toUTF8 : Sim _).run M with
        | ((.error e, w'), M') => ((.error (.io e), { s with backing := .journal w' }), M')
        | ((.ok (), w'), M') =>
          ((.ok id, { s with tables := s.tables.add id row, backing := .journal w' }), M') := by
  cases row <;> exact Store.insert_run_journal _ _ M h

/-- A row its check refuses leaves the store and the machine as they were. -/
theorem insertRow_of_error {s : Store} {row : Row} {e : AtlasError} (h : s.assignRow row = .error e)
    (M : Machine) : (insertRow s row).run M = ((.error e, s), M) := by
  cases row <;>
  · simp only [Store.assignRow] at h
    exact Store.insert_run_of_error h M

/-- **What an insert does.** Refused by its check, it answers the check's error and leaves the
store and the machine as they were. Refused by the machine, which befalls only a journal store
whose check passed, it answers the machine's error and keeps the tables. Accepted, it answers
the id the check gave and appends the row under it. -/
theorem insertRow_cases (s : Store) (row : Row) (M : Machine) :
    (∃ e, s.assignRow row = .error e ∧ (insertRow s row).run M = ((.error e, s), M)) ∨
    (∃ id e w, s.assignRow row = .ok id ∧ s.backing = .journal w ∧
      ((insertRow s row).run M).1.1 = .error (.io e) ∧
      ((insertRow s row).run M).1.2.tables = s.tables) ∨
    (∃ id, s.assignRow row = .ok id ∧ ((insertRow s row).run M).1.1 = .ok id ∧
      ((insertRow s row).run M).1.2.tables = s.tables.add id row) := by
  cases ha : s.assignRow row with
  | error e => exact .inl ⟨e, rfl, insertRow_of_error ha M⟩
  | ok id =>
    right
    cases hb : s.backing with
    | memory =>
      rw [insertRow_memory s row M hb, ha]
      exact .inr ⟨id, rfl, rfl, rfl⟩
    | journal w =>
      rw [insertRow_journal s row M hb, ha]
      dsimp only
      rcases (w.appendLine (entryLine id row).toUTF8 : Sim _).run M with ⟨⟨e | _, w'⟩, M'⟩
      · exact .inl ⟨id, e, w, rfl, rfl, rfl, rfl⟩
      · exact .inr ⟨id, rfl, rfl, rfl⟩
    | readOnly => exact absurd hb (Store.writable_of_assignRow ha)

/-- **Inserts append.** An accepted insert appends the row to its table, under the id after the
table's last, whatever the store keeps its rows in. -/
theorem insertRow_ok {s : Store} {row : Row} {M : Machine} {id : RowId}
    (h : ((insertRow s row).run M).1.1 = .ok id) :
    s.assignRow row = .ok id ∧ ((insertRow s row).run M).1.2.tables = s.tables.add id row := by
  rcases insertRow_cases s row M with ⟨e, -, hrun⟩ | ⟨id', e, w, -, -, herr, -⟩ | ⟨id', hid, hok, ht⟩
  · rw [hrun] at h
    cases h
  · rw [herr] at h
    cases h
  · rw [hok] at h
    cases h
    exact ⟨hid, ht⟩

/-- A refused insert keeps the tables, whether its check or the machine refused it. -/
theorem insertRow_error {s : Store} {row : Row} {M : Machine} {e : AtlasError}
    (h : ((insertRow s row).run M).1.1 = .error e) :
    ((insertRow s row).run M).1.2.tables = s.tables := by
  rcases insertRow_cases s row M with ⟨e', -, hrun⟩ | ⟨-, -, -, -, -, -, ht⟩ | ⟨id, -, hok, -⟩
  · rw [hrun]
  · exact ht
  · rw [hok] at h
    cases h

/-- **A refused journal line stays behind.** When the machine refuses to write a row's line, the
insert answers the machine's error and keeps the tables, and the line stays in the writer's
buffer, to go to the file with the next flush. The store still checks rows against the same
tables, so the next row of that table it accepts gets the refused row's id: the two lines the
next flush writes carry one id. -/
theorem insertRow_refused_keeps_line {s : Store} {row : Row} {id : RowId} {w : Writer}
    {M M' : Machine} {e : OsError} (hb : s.backing = .journal w) (hw : w.pending = .empty)
    (hid : s.assignRow row = .ok id) (hshort : (entryLine id row).toUTF8.size < bufferCapacity)
    (hM : M.nextFault = (some e, M')) :
    let kept : Writer := { w with pending := (entryLine id row).toUTF8 ++ "\n".toUTF8 }
    (insertRow s row).run M = ((.error (.io e), { s with backing := .journal kept }), M') ∧
    ∀ {row' : Row} {id' : RowId}, row'.table = row.table →
      ({ s with backing := .journal kept } : Store).assignRow row' = .ok id' → id' = id := by
  intro kept
  refine ⟨?_, fun htable hid' => ?_⟩
  · rw [insertRow_journal s row M hb, hid]
    dsimp only
    rw [Writer.appendLine_refused hw hshort hM]
  · rw [Store.assignRow_ok hid', Store.assignRow_ok hid, htable]

/-! ## The kind of a store -/

/-- Two backings of one kind: both in memory, both journals (whatever their writers hold), or
both read-only. -/
def Backing.Like : Backing → Backing → Prop
  | .memory, .memory => True
  | .journal _, .journal _ => True
  | .readOnly, .readOnly => True
  | _, _ => False

namespace Backing.Like

theorem refl : ∀ b : Backing, b.Like b
  | .memory => trivial
  | .journal _ => trivial
  | .readOnly => trivial

theorem trans {a b c : Backing} (hab : a.Like b) (hbc : b.Like c) : a.Like c := by
  cases a <;> cases b <;> cases c <;> simp_all [Backing.Like]

theorem readOnly_iff {a b : Backing} (h : a.Like b) : a = .readOnly ↔ b = .readOnly := by
  cases a <;> cases b <;> simp_all [Backing.Like]

theorem memory_iff {a b : Backing} (h : a.Like b) : a = .memory ↔ b = .memory := by
  cases a <;> cases b <;> simp_all [Backing.Like]

theorem journal_iff {a b : Backing} (h : a.Like b) :
    (∃ w, a = .journal w) ↔ ∃ w, b = .journal w := by
  cases a <;> cases b <;> simp_all [Backing.Like]

end Backing.Like

/-- An insert keeps the kind of its store: how it keeps its rows, and its path. -/
theorem insertRow_like (s : Store) (row : Row) (M : Machine) :
    ((insertRow s row).run M).1.2.backing.Like s.backing ∧
      ((insertRow s row).run M).1.2.path = s.path := by
  cases ha : s.assignRow row with
  | error e =>
    rw [insertRow_of_error ha M]
    exact ⟨Backing.Like.refl _, rfl⟩
  | ok id =>
    cases hb : s.backing with
    | memory =>
      rw [insertRow_memory s row M hb, ha]
      exact ⟨by rw [hb]; trivial, rfl⟩
    | journal w =>
      rw [insertRow_journal s row M hb, ha]
      dsimp only
      rcases (w.appendLine (entryLine id row).toUTF8 : Sim _).run M with ⟨⟨e | _, w'⟩, M'⟩ <;>
        exact ⟨trivial, rfl⟩
    | readOnly => exact absurd hb (Store.writable_of_assignRow ha)

/-- A store takes inserts after an insert exactly when it took them before. -/
theorem writable_insertRow (s : Store) (row : Row) (M : Machine) :
    ((insertRow s row).run M).1.2.Writable ↔ s.Writable :=
  not_congr ((insertRow_like s row M).1.readOnly_iff)

/-- Insert rows one after another: the answer to each insert, and the store at the end. -/
def insertAll (s : Store) : List Row → Sim (List (Except AtlasError RowId) × Store)
  | [] => pure ([], s)
  | row :: rows => do
    let (r, s) ← insertRow s row
    let (answers, s) ← insertAll s rows
    pure (r :: answers, s)

theorem insertAll_cons_run (s : Store) (row : Row) (rows : List Row) (M : Machine) :
    (insertAll s (row :: rows)).run M =
      let r := (insertRow s row).run M
      let rest := (insertAll r.1.2 rows).run r.2
      ((r.1.1 :: rest.1.1, rest.1.2), rest.2) := by
  simp only [insertAll, StateT.run_bind]
  rfl

/-! ## The mirror -/

/-- A journal store on a machine that refuses no write and a memory store holding the same
tables: the journal's writer stands, with nothing buffered, at the end of the file its path
leads to, and while every table is small the tables are numbered and the file reads back as
them. -/
structure Mirror (p : String) (j : Store × Machine) (m : Store) : Prop where
  tables : j.1.tables = m.tables
  memory : m.backing = .memory
  steady : j.2.faults = []
  fit : ∀ tb, ∀ x ∈ m.tables.ids tb, x.Fits
  file : ∃ l B, j.1.backing = .journal { path := p, offset := B.size } ∧
    j.2.disk.resolve j.2.cwd p = .ok (l, some (.file B)) ∧
    (m.tables.Small → m.tables.Numbered ∧ JournalOf p B.data.toList m.tables)

theorem textBytes_lineFeed (s : String) :
    (s.toUTF8 ++ "\n".toUTF8).data.toList = textBytes s ++ [10] := by
  rw [ByteArray.toList_data_append]
  rfl

/-- The id a mirrored store gives a row is a 64-bit id: one past a 64-bit id, or 1. -/
theorem Mirror.assigned_fits {p : String} {j : Store × Machine} {sm : Store} (hm : Mirror p j sm)
    {row : Row} {id : RowId} (hid : sm.assignRow row = .ok id) : id.Fits := by
  rw [Store.assignRow_ok hid]
  cases hlast : (sm.tables.ids row.table).getLast? with
  | none => exact ⟨by decide, by decide⟩
  | some x => exact RowId.next_fits (hm.fit row.table x (List.mem_of_getLast? hlast))

/-- An accepted insert keeps the mirror: the row joins both tables, and its entry line the end of
the file, which keeps reading back as long as the tables stay small. -/
theorem Mirror.accept {p : String} {sj sm : Store} {Mj : Machine} (hm : Mirror p (sj, Mj) sm)
    {l : Location} {B : ByteArray} (hres : Mj.disk.resolve Mj.cwd p = .ok (l, some (.file B)))
    {row : Row} (hfit : row.Fits)
    {id : RowId} (hid : sm.assignRow row = .ok id) :
    Mirror p ({ sj with
        tables := sj.tables.add id row
        backing := .journal ⟨p, (B ++ (entryLine id row).toUTF8 ++ "\n".toUTF8).size, .empty⟩ },
      { Mj with disk := Mj.disk.set l (some (.file (B ++ (entryLine id row).toUTF8 ++ "\n".toUTF8))) })
      { sm with tables := sm.tables.add id row } := by
  -- the mirror's file is the one the path leads to
  obtain ⟨l₀, B₀, -, hres₀, hread⟩ := hm.file
  obtain ⟨rfl, rfl⟩ : l = l₀ ∧ B = B₀ := by
    have h := hres.symm.trans hres₀
    simp only [Except.ok.injEq, Prod.mk.injEq, Option.some.injEq, Entry.file.injEq] at h
    exact h
  have htables : sj.tables = sm.tables := hm.tables
  have hfits : id.Fits := hm.assigned_fits hid
  refine ⟨by simp [htables], hm.memory, hm.steady, ?_, l, _, rfl, ?_, ?_⟩
  · intro tb x hx
    by_cases htb : tb = row.table
    · subst htb
      rw [Tables.ids_add_self] at hx
      rcases List.mem_append.1 hx with hx | hx
      · exact hm.fit _ x hx
      · rw [List.mem_singleton.1 hx]
        exact hfits
    · rw [Tables.ids_add_of_ne _ _ htb] at hx
      exact hm.fit tb x hx
  · -- the path still leads to the file, which now ends with the line
    exact Disk.resolve_set_file hres (by simp) (Disk.endsWith_of_resolve_file hres) _
  · -- while the tables stay small the id is one past the table's last, so the line replays
    intro hsmall
    obtain ⟨hnum, hjournal⟩ := hread hsmall.of_add
    have hnext : id = (sm.tables.ids row.table).length + 1 := by
      rw [Store.assignRow_ok hid]
      exact Tables.next_of_numbered (hnum row.table) (hsmall.of_add row.table)
    subst hnext
    refine ⟨hnum.add row, ?_⟩
    rw [ByteArray.append_assoc, ByteArray.toList_data_append, textBytes_lineFeed]
    exact hjournal.append hfits hfit (hnum.lt_next row.table)

/-- **One insert on both stores.** A journal store and the memory store it mirrors answer an
insert alike, and the stores the insert leaves mirror each other. -/
theorem Mirror.after_insertRow {p : String} {sj sm : Store} {Mj : Machine}
    (hm : Mirror p (sj, Mj) sm) {row : Row} (hfit : row.Fits) (Mm : Machine) :
    ((insertRow sj row).run Mj).1.1 = ((insertRow sm row).run Mm).1.1 ∧
      Mirror p (((insertRow sj row).run Mj).1.2, ((insertRow sj row).run Mj).2)
        ((insertRow sm row).run Mm).1.2 := by
  obtain ⟨l, B, hback, hres, -⟩ := hm.file
  have hsame : sj.assignRow row = sm.assignRow row :=
    Store.assignRow_congr row hm.tables (Store.writable_journal hback)
      (Store.writable_memory hm.memory)
  rw [insertRow_journal sj row Mj hback, insertRow_memory sm row Mm hm.memory, hsame]
  cases hid : sm.assignRow row with
  | error e => exact ⟨rfl, hm⟩
  | ok id =>
    -- the line goes to the end of the file, on a machine that refuses nothing
    dsimp only
    rw [Writer.appendLine_run_at_end rfl _ hm.steady hres rfl]
    exact ⟨rfl, hm.accept hres hfit hid⟩

/-- **Inserts on both stores.** A journal store and the memory store it mirrors answer a whole
sequence of inserts alike, refused ones included, and end mirroring each other. -/
theorem Mirror.after_insertAll {p : String} {rows : List Row} (hfit : ∀ r ∈ rows, r.Fits) :
    ∀ {sj sm : Store} {Mj : Machine} (Mm : Machine), Mirror p (sj, Mj) sm →
      ((insertAll sj rows).run Mj).1.1 = ((insertAll sm rows).run Mm).1.1 ∧
      Mirror p (((insertAll sj rows).run Mj).1.2, ((insertAll sj rows).run Mj).2)
        ((insertAll sm rows).run Mm).1.2 := by
  induction rows with
  | nil =>
    intro sj sm Mj Mm hm
    exact ⟨rfl, hm⟩
  | cons row rows ih =>
    intro sj sm Mj Mm hm
    obtain ⟨hanswer, hnext⟩ := hm.after_insertRow (hfit row List.mem_cons_self) Mm
    obtain ⟨hrest, hend⟩ := ih (fun r hr => hfit r (List.mem_cons_of_mem _ hr)) _ hnext
    rw [insertAll_cons_run, insertAll_cons_run]
    dsimp only
    exact ⟨by rw [hanswer, hrest], hend⟩

/-! ## Creating and opening the file -/

theorem createFile_run (M : Machine) (p : String) :
    (FileSystem.createFile p : Sim _).run M =
      match M.disk.createFile M.cwd p with
      | .ok d => (.ok (), { M with disk := d })
      | .error e => (.error e, M) := by
  show (do
    let m ← get
    match m.disk.createFile m.cwd p with
    | .ok d => set { m with disk := d }; return (.ok () : Except OsError Unit)
    | .error e => return (.error e : Except OsError Unit) : Sim _).run M = _
  rcases h : M.disk.createFile M.cwd p with e | d <;> simp [h] <;> rfl

theorem readFile_run (M : Machine) (p : String) :
    (FileSystem.readFile p : Sim _).run M = (M.disk.read M.cwd p, M) := rfl

theorem logAt_run (M : Machine) (level : Level) (message : String) :
    (logAt level message : Sim Unit).run M = ((), { M with logs := M.logs.push ⟨level, message⟩ }) :=
  rfl

/-- On a machine that refuses nothing, a store created where a file can be created writes its
header line into the new file in one write, and its writer stands at the file's end with nothing
buffered. -/
theorem create_run_steady {M : Machine} (hM : M.faults = []) {p : String} {d : Disk}
    (hc : M.disk.createFile M.cwd p = .ok d) :
    (Store.create p : Sim _).run M =
      (.ok { backing := .journal { path := p, offset := (headerLine.toUTF8 ++ "\n".toUTF8).size },
             path := some p },
        let M₁ := ({ M with disk := d } : Machine).wrote p 0 (headerLine.toUTF8 ++ "\n".toUTF8)
        { M₁ with logs := M₁.logs.push ⟨.debug, "Created store " ++ p⟩ }) := by
  have hshort : headerLine.toUTF8.size < bufferCapacity := by decide
  obtain ⟨hline, hfeed⟩ := Writer.writeAll_line_feed p 0 hshort
    ({ M with disk := d } : Machine)
  unfold Store.create
  rw [sim_run_bind, createFile_run, hc]
  dsimp only
  rw [sim_run_bind, hline]
  dsimp only
  rw [sim_run_bind, hfeed]
  dsimp only
  have hM' : ({ M with disk := d } : Machine).faults = [] := hM
  rw [sim_run_bind, Writer.flush_run, Writer.isEmpty_append_lineFeed, if_neg Bool.false_ne_true,
    Machine.nextFault_of_faults_nil hM']
  dsimp only
  rw [sim_run_bind, logAt_run]
  rfl

/-- A new store file holds the header line alone: on a machine that refuses nothing, the store
created mirrors an empty memory store. -/
theorem mirror_create {M : Machine} (hM : M.faults = []) (hsound : M.disk.Sound M.cwd) {p : String}
    {sj : Store} {Mj : Machine} (h : (Store.create p : Sim _).run M = (.ok sj, Mj)) :
    Mirror p (sj, Mj) Store.inMemory := by
  rcases hc : M.disk.createFile M.cwd p with e | d
  · -- a file that cannot be created gives no store
    exfalso
    have hfail : ((Store.create p : Sim _).run M).1 ≠ .ok sj := by
      unfold Store.create
      rw [sim_run_bind, createFile_run, hc]
      cases e <;> simp
    exact hfail (by rw [h])
  · obtain ⟨l, -, rfl, hres⟩ := Disk.resolve_createFile hsound hc
    rw [create_run_steady hM hc] at h
    obtain ⟨hs, rfl⟩ := Prod.mk.inj h
    cases hs
    -- the header goes into the empty file the path now leads to
    have hend := Machine.wrote_at_end (M := { M with disk := M.disk.set l (some (.file .empty)) })
      hres (headerLine.toUTF8 ++ "\n".toUTF8)
    rw [ByteArray.empty_append] at hend
    refine ⟨rfl, rfl, by simpa using hM, fun tb x hx => by cases tb <;> simp [Tables.ids, Store.inMemory] at hx,
      l, headerLine.toUTF8 ++ "\n".toUTF8, rfl, ?_, ?_⟩
    · rw [show (0 : Nat) = ByteArray.empty.size from rfl, hend.1]
      exact hend.2
    · intro _
      refine ⟨Tables.numbered_empty, ?_⟩
      rw [textBytes_lineFeed]
      exact journalOf_header p

/-- **The file opens as the memory store.** The file of a journal store that mirrors a memory
store with small tables opens, read-only, as the memory store's tables. -/
theorem Mirror.openFile {p : String} {sj sm : Store} {Mj : Machine} (hm : Mirror p (sj, Mj) sm)
    (hsmall : sm.tables.Small) :
    ((Store.openFile p : Sim _).run Mj).1 =
      .ok { tables := sm.tables, backing := .readOnly, path := some p } := by
  obtain ⟨l, B, -, hres, hread⟩ := hm.file
  have hbytes := readJournal_of_journalOf (hread hsmall).2
  have hfile := Disk.read_of_resolve hres
  simp only at hfile
  simp [Store.openFile, sim_run_bind, -StateT.run_bind, readFile_run, hfile, hbytes, logAt_run]
  rfl

end RegisterAtlas
