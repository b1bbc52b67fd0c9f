import RegisterAtlas.Proofs.Store.Ids
/-!
# Unique names

The MPU and peripheral tables declare their names unique, and `Store.assignId` refuses a row
whose name its table already holds. That check runs on the insert path only: replaying a journal
appends rows with any names, checking only that ids increase. So names stay unique in every store
built by inserts, while a file whose lines repeat a name opens, read-only, with both rows.

* `Store.passesUnique_of_assignRow`: an accepted row passes the unique check.
* `Tables.NamesUnique.add`: appending a row that passes the check keeps names unique.
* `names_unique_unless_opened`: every reachable store has unique names or is a file store
  opened read-only, unchanged since.
* `opened_file_repeats_name`: a file with two MPUs of one name opens.
-/

namespace RegisterAtlas

open Json

namespace Store

variable [Entity α]

/-- An accepted row passes the unique check: a row of its table with its key is a clash. -/
theorem fresh_of_assignId {s : Store} {row : α} {id : RowId} (h : s.assignId row = .ok id) :
    s.Fresh row := by
  intro key hkey r hr hclash
  have hany : ((Entity.rows s.tables : Array (Stored α)).any
      fun r => Entity.uniqueKey r.row == some key) = true :=
    Array.any_eq_true'.2 ⟨r, hr, by simp [hclash]⟩
  simp [assignId, hkey, hany] at h

theorem passesUnique_of_assignRow {s : Store} {row : Row} {id : RowId}
    (h : s.assignRow row = .ok id) : s.PassesUnique row := by
  cases row <;> exact fresh_of_assignId h

end Store

namespace Tables

/-- No two MPUs share a name, and no two peripherals. -/
def NamesUnique (t : Tables) : Prop :=
  (t.mpus.toList.map (·.row.name)).Nodup ∧ (t.peripherals.toList.map (·.row.name)).Nodup

theorem namesUnique_empty : ({} : Tables).NamesUnique :=
  ⟨List.nodup_nil, List.nodup_nil⟩

/-- A name new to a table stays unique when it joins the table's names. -/
theorem nodup_push_name {β : Type} {rows : Array (Stored β)} (name : β → String)
    (h : (rows.toList.map (name ·.row)).Nodup) {r : Stored β}
    (hfresh : ∀ x ∈ rows, name x.row ≠ name r.row) :
    ((rows.push r).toList.map (name ·.row)).Nodup := by
  rw [Array.toList_push, List.map_append, List.map_singleton, List.nodup_append]
  refine ⟨h, List.nodup_singleton _, ?_⟩
  intro a ha b hb
  obtain ⟨x, hx, rfl⟩ := List.mem_map.1 ha
  rw [List.mem_singleton.1 hb]
  exact hfresh x (Array.mem_toList_iff.1 hx)

/-- **Appending keeps names unique.** A row that passes the unique check of a store brings a name
new to its table; rows of the other tables leave both tables of names as they were. -/
theorem NamesUnique.add {s : Store} (h : s.tables.NamesUnique) {row : Row}
    (hrow : s.PassesUnique row) (id : RowId) : (s.tables.add id row).NamesUnique := by
  obtain ⟨hmpus, hperipherals⟩ := h
  cases row with
  | mpu r =>
    refine ⟨nodup_push_name MpuRow.name hmpus fun x hx => ?_, hperipherals⟩
    simpa [Entity.uniqueKey] using hrow r.name rfl x hx
  | peripheral r =>
    refine ⟨hmpus, nodup_push_name PeripheralRow.name hperipherals fun x hx => ?_⟩
    simpa [Entity.uniqueKey] using hrow r.name rfl x hx
  | register r => exact ⟨hmpus, hperipherals⟩
  | field r => exact ⟨hmpus, hperipherals⟩

end Tables

/-- **Names are unique unless a file repeated them.** Every reachable store has unique MPU and
peripheral names, or is a store file opened read-only and left as it opened: inserts check names
and refuse to change a read-only store, and only replaying a file adds rows unchecked. -/
theorem names_unique_unless_opened {s : Store} (h : s.Reachable) :
    s.tables.NamesUnique ∨
      s.backing = .readOnly ∧ ∃ p M, ((Store.openFile p : Sim _).run M).1 = .ok s := by
  refine Store.Reachable.induction (P := fun s => s.tables.NamesUnique ∨
    s.backing = .readOnly ∧ ∃ p M, ((Store.openFile p : Sim _).run M).1 = .ok s) ?_ ?_ ?_ h
  · intro s hempty _
    left
    rw [hempty]
    exact Tables.namesUnique_empty
  · intro p M s hopen
    exact .inr ⟨(Store.openFile_ok hopen).1, p, M, hopen⟩
  · intro s row M ih
    rcases ih with hnames | ⟨hread, hopened⟩
    · -- an insert is refused, or appends a row that passed the check
      rcases Store.insert_cases s row M with hsame | ⟨id, hid, htables⟩
      · rw [hsame]
        exact .inl hnames
      · rw [htables]
        exact .inl (hnames.add (Store.passesUnique_of_assignRow hid) id)
    · -- a read-only store refuses every insert
      rw [Store.insert_readOnly hread]
      exact .inr ⟨hread, hopened⟩

/-- Two inserts of an MPU of one name into a store in memory. -/
theorem names_unique_after_repeated_insert :
    let step : Store → Row → Store := fun s row => ((insertRow s row).run default).1.2
    let s := step (step Store.inMemory (.mpu { name := "M" })) (.mpu { name := "M" })
    s.Reachable ∧ (s.tables.NamesUnique ∨
      s.backing = .readOnly ∧ ∃ p M, ((Store.openFile p : Sim _).run M).1 = .ok s) := by
  intro step s
  have hreach : s.Reachable := .inserted _ _ (.inserted _ _ .inMemory)
  exact ⟨hreach, names_unique_unless_opened hreach⟩

/-- A file whose two MPU lines name the same MPU opens, with both rows. -/
theorem opened_file_repeats_name :
    let a : Row := .mpu { name := "M" }
    let bytes : List UInt8 := textBytes headerLine ++ [10] ++ (textBytes (entryLine 1 a) ++ [10]) ++
      (textBytes (entryLine 2 a) ++ [10])
    let s : Store :=
      { tables := (({} : Tables).add 1 a).add 2 a, backing := .readOnly, path := some "store.db" }
    ((Store.openFile "store.db" : Sim _).run (Machine.withStoreFile ⟨bytes.toArray⟩)).1 = .ok s ∧
      s.tables.mpus.toList.map (·.row.name) = ["M", "M"] ∧ ¬ s.tables.NamesUnique := by
  intro a bytes s
  have hjournal : JournalOf "store.db" bytes s.tables :=
    ((journalOf_header "store.db").append (by decide) (by decide) (by decide)).append
      (by decide) (by decide) (by decide)
  have hnames : s.tables.mpus.toList.map (·.row.name) = ["M", "M"] := rfl
  refine ⟨hjournal.opens, hnames, fun hunique => ?_⟩
  have hnodup := hunique.1
  rw [hnames] at hnodup
  exact absurd hnodup (by decide)

end RegisterAtlas
