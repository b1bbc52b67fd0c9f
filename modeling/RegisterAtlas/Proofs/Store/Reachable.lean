import RegisterAtlas.Proofs.Ingest.Exec
import RegisterAtlas.Proofs.Store.Links
/-!
# The stores the API hands out

A store is made new in memory, created as a file or opened from a file, and is then changed only
by inserts and ingestions. An ingestion changes its store only through inserts, so every store is
reached from a new, created or opened one by inserts alone; and an insert either leaves its store
as it was or appends one row. The tables of every store are therefore built by appending rows to
empty tables: on insert, and when the lines of an opened file are replayed.

* `Store.insert_cases`: an insert leaves the store as it was, or appends the row under the id
  the check gave it.
* `Store.Inserts`, `ingest_inserts`: the stores a run of inserts reaches; an ingestion leaves one.
* `readJournal_induction`: the tables of a journal file are built row by row, each row's id above
  the last of its table.
* `Store.Reachable`, `Store.Reachable.induction`: the stores the API hands out, and induction over
  them with one case for new stores, one for opened files and one for an insert.
* `Tables.Built`, `Store.Reachable.built`: tables built by appending rows, as every store's are.
* `Store.openFile_of_read`, `Machine.withStoreFile`: a file that reads as some tables opens as
  them; a machine holding one store file, and `JournalOf.opens`: a journal file there opens as
  the tables its lines replay to.
-/

namespace RegisterAtlas

/-! ## One insert -/

namespace Store

/-- **What an insert leaves.** The tables as they were, when the row is refused; else the tables
with the row appended under the id the check gave it. -/
theorem insert_cases (s : Store) (row : Row) (M : Machine) :
    ((insertRow s row).run M).1.2.tables = s.tables ∨
      ∃ id, s.assignRow row = .ok id ∧
        ((insertRow s row).run M).1.2.tables = s.tables.add id row := by
  rcases insertRow_cases s row M with ⟨e, -, hrun⟩ | ⟨-, -, -, -, -, -, htables⟩ |
      ⟨id, hid, -, htables⟩
  · left
    rw [hrun]
  · exact .inl htables
  · exact .inr ⟨id, hid, htables⟩

/-- A store that refuses inserts is left as it is by one. -/
theorem insert_readOnly {s : Store} (hs : s.backing = .readOnly) (row : Row) (M : Machine) :
    ((insertRow s row).run M).1.2 = s := by
  cases ha : s.assignRow row with
  | error e => rw [insertRow_of_error ha M]
  | ok id => exact absurd hs (writable_of_assignRow ha)

/-- One insert of a row of any table, on any machine. -/
def InsertStep (s s' : Store) : Prop := ∃ (row : Row) (M : Machine), s' = ((insertRow s row).run M).1.2

/-- The stores a run of inserts reaches, refused inserts included. -/
def Inserts : Store → Store → Prop := Relation.ReflTransGen InsertStep

theorem Inserts.refl (s : Store) : Inserts s s := Relation.ReflTransGen.refl

theorem Inserts.trans {s s' s'' : Store} (h : Inserts s s') (h' : Inserts s' s'') : Inserts s s'' :=
  Relation.ReflTransGen.trans h h'

theorem Inserts.single (s : Store) (row : Row) (M : Machine) :
    Inserts s ((insertRow s row).run M).1.2 :=
  Relation.ReflTransGen.single ⟨row, M, rfl⟩

/-- What every insert keeps, a run of inserts keeps. -/
theorem Inserts.preserves {P : Store → Prop}
    (hstep : ∀ s row M, P s → P ((insertRow s row).run M).1.2) {s s' : Store}
    (h : Inserts s s') (hs : P s) : P s' := by
  induction h with
  | refl => exact hs
  | tail _ step ih =>
    obtain ⟨row, M, rfl⟩ := step
    exact hstep _ row M ih

end Store

/-! ## An ingestion is a run of inserts -/

/-- A step of an ingestion that leaves a store a run of inserts reaches from the one it started
from, whatever it answers. -/
def Grows (x : IngestM Sim α) : Prop := ∀ (s : Store) (M : Machine), Store.Inserts s (x.exec s M).1.2

namespace Grows

theorem pure (a : α) : Grows (pure a : IngestM Sim α) := fun s _ => Store.Inserts.refl s

theorem throw (e : AtlasError) : Grows (throw e : IngestM Sim α) := fun s _ => Store.Inserts.refl s

theorem note (level : Level) (message : String) : Grows (RegisterAtlas.note level message) :=
  fun s _ => Store.Inserts.refl s

theorem bind {x : IngestM Sim α} {f : α → IngestM Sim β} (hx : Grows x) (hf : ∀ a, Grows (f a)) :
    Grows (x >>= f) := by
  intro s M
  have hfirst := hx s M
  rw [IngestM.exec_bind]
  rcases hxr : x.exec s M with ⟨⟨_ | a, s'⟩, M'⟩
  · rw [hxr] at hfirst
    exact hfirst
  · rw [hxr] at hfirst
    exact hfirst.trans (hf a s' M')

theorem map {x : IngestM Sim α} (hx : Grows x) (g : α → β) : Grows (g <$> x) := by
  intro s M
  rw [IngestM.exec_map]
  exact hx s M

theorem ite {c : Prop} [Decidable c] {x y : IngestM Sim α} (hx : c → Grows x) (hy : ¬ c → Grows y) :
    Grows (if c then x else y) := by
  by_cases h : c
  · rw [if_pos h]
    exact hx h
  · rw [if_neg h]
    exact hy h

theorem foldlM {γ : Type} {f : α → γ → IngestM Sim α} (hf : ∀ a c, Grows (f a c)) :
    ∀ (xs : List γ) (init : α), Grows (xs.foldlM f init)
  | [], init => pure init
  | c :: cs, init => by
    rw [List.foldlM_cons]
    exact bind (hf init c) fun a => foldlM hf cs a

/-- Entering a row is one insert. -/
theorem enter [Entity α] (row : α)
    (hrow : ∀ s : Store, (s.insert row : Sim _) = insertRow s (Entity.toRow row)) :
    Grows (RegisterAtlas.enter row) := by
  intro s M
  rw [IngestM.exec_enter, hrow s]
  exact Store.Inserts.single s _ M

end Grows

theorem grows_enterField (registerId : RowId) (r : Register) (f : BitField) (sum : Summary) :
    Grows (enterField registerId r f sum : IngestM Sim Summary) := by
  unfold enterField
  split
  · exact Grows.throw _
  · dsimp only
    refine Grows.ite (fun _ => Grows.bind (Grows.note _ _) fun _ => ?_) fun _ => ?_
    all_goals
      refine Grows.bind (Grows.map (Grows.enter _ (by exact fun _ => rfl)) _) fun _ => Grows.pure _

theorem grows_enterRegister (peripheralId : RowId) (r : Register) (sum : Summary) :
    Grows (enterRegister peripheralId r sum : IngestM Sim Summary) := by
  unfold enterRegister
  refine Grows.bind (Grows.note _ _) fun _ => Grows.bind (Grows.enter _ (by exact fun _ => rfl)) ?_
  exact fun id => Grows.foldlM (fun acc f => grows_enterField id r f acc) _ _

theorem grows_enterPeripheral (mpuId : RowId) (acc : PeripheralIds × Summary) (per : Peripheral) :
    Grows (enterPeripheral mpuId acc per : IngestM Sim _) := by
  obtain ⟨ids, sum⟩ := acc
  unfold enterPeripheral
  refine Grows.bind (Grows.note _ _) fun _ => ?_
  extract_lets sum' jp
  -- the rest of the step, from the id of the peripheral it derives from: the peripheral, and the
  -- registers of one that is not derived
  have hjp : ∀ derived : Option RowId, Grows (jp derived) := by
    intro derived
    simp only [jp]
    refine Grows.bind (Grows.enter _ (by exact fun _ => rfl)) fun id => ?_
    split
    · exact Grows.ite (fun _ => Grows.bind (Grows.note _ _) fun _ => Grows.pure _)
        fun _ => Grows.pure _
    · exact Grows.bind (Grows.foldlM (fun acc r => grows_enterRegister id r acc) _ _)
        fun _ => Grows.pure _
  -- the lookup of the peripheral derived from enters nothing
  split
  · split
    · exact Grows.bind (Grows.pure _) hjp
    · exact Grows.bind (Grows.throw _) hjp
  · exact Grows.bind (Grows.pure _) hjp

/-- **An ingestion is a run of inserts.** Whatever it answers, an ingestion leaves a store that
inserts reach from the one it started from. -/
theorem ingest_inserts (s : Store) (d : Device) (M : Machine) :
    Store.Inserts s ((ingest s d : Sim _).run M).1.2 := by
  rw [ingest_run]
  unfold enterDevice
  refine Grows.bind (Grows.enter _ (by exact fun _ => rfl)) (fun mpuId => Grows.bind
    (Grows.foldlM (fun acc per => grows_enterPeripheral mpuId acc per) _ _) fun _ =>
      Grows.bind (Grows.note _ _) fun _ => Grows.pure _) s M

/-! ## Opened files -/

namespace Tables

/-- A replayed entry is appended to its table, its id above the table's last. -/
theorem replay_ok [Entity α] {t t' : Tables} {id : RowId} {r : α} (h : t.replay id r = .ok t') :
    t' = t.push (⟨id, r⟩ : Stored α) ∧
      ∀ last ∈ (Entity.rows t : Array (Stored α)).back?, last.id < id := by
  unfold Tables.replay at h
  split at h
  · rename_i last hlast
    split at h
    · cases h
    · rename_i hlt
      cases h
      refine ⟨rfl, fun x hx => ?_⟩
      rw [hlast] at hx
      cases hx
      exact Int.not_le.1 hlt
  · rename_i hnone
    cases h
    refine ⟨rfl, fun x hx => ?_⟩
    rw [hnone] at hx
    cases hx

/-- The last id of a table is the id of its last row. -/
theorem lt_of_back? {xs : Array (Stored α)} {id : RowId} (h : ∀ last ∈ xs.back?, last.id < id) :
    ∀ x ∈ (xs.toList.map (·.id)).getLast?, x < id := by
  intro x hx
  simp only [List.getLast?_map, Array.getLast?_toList, Option.mem_def,
    Option.map_eq_some_iff] at hx
  obtain ⟨last, hmem, rfl⟩ := hx
  exact h last hmem

/-- A replayed entry appends a row to its table, with an id above the table's last. -/
theorem replayEntry_ok {t t' : Tables} {e : JournalEntry} (h : t.replayEntry e = .ok t') :
    ∃ row : Row, t' = t.add e.id row ∧ ∀ last ∈ (t.ids row.table).getLast?, last < e.id := by
  unfold Tables.replayEntry at h
  split at h
  · cases h
  · obtain ⟨rfl, hlast⟩ := replay_ok h
    exact ⟨.mpu _, rfl, lt_of_back? hlast⟩
  · obtain ⟨rfl, hlast⟩ := replay_ok h
    exact ⟨.peripheral _, rfl, lt_of_back? hlast⟩
  · obtain ⟨rfl, hlast⟩ := replay_ok h
    exact ⟨.register _, rfl, lt_of_back? hlast⟩
  · obtain ⟨rfl, hlast⟩ := replay_ok h
    exact ⟨.field _, rfl, lt_of_back? hlast⟩

end Tables

/-- What appending a row whose id is above its table's last keeps, replaying lines keeps. -/
theorem replayLines_induction {P : Tables → Prop}
    (hstep : ∀ t id (row : Row), P t → (∀ last ∈ (t.ids row.table).getLast?, last < id) →
      P (t.add id row)) (p : String) :
    ∀ (ls : List (List UInt8)) (t : Tables) (n : Nat) {t' : Tables},
      P t → replayLines p t n ls = .ok t' → P t'
  | [], t, n, t', ht, h => by
    cases h
    exact ht
  | line :: rest, t, n, t', ht, h => by
    simp only [replayLines] at h
    split at h
    · cases h
    · split at h
      · exact replayLines_induction hstep p rest t (n + 1) ht h
      · split at h
        · cases h
        · split at h
          · cases h
          · rename_i t₁ hentry
            obtain ⟨row, rfl, hlast⟩ := Tables.replayEntry_ok hentry
            exact replayLines_induction hstep p rest _ (n + 1) (hstep t _ row ht hlast) h

/-- **A journal file's tables are built row by row.** What holds of empty tables and is kept by
appending a row whose id is above its table's last holds of the tables a journal file reads as. -/
theorem readJournal_induction {P : Tables → Prop} (hempty : P {})
    (hstep : ∀ t id (row : Row), P t → (∀ last ∈ (t.ids row.table).getLast?, last < id) →
      P (t.add id row)) {p : String} {bytes : List UInt8} {t : Tables}
    (h : readJournal p bytes = .ok t) : P t := by
  unfold readJournal at h
  split at h
  · cases h
  · split at h
    · cases h
    · split at h
      · exact replayLines_induction hstep p _ {} 2 hempty h
      · cases h

namespace Store

/-- A store file created holds no rows and takes inserts: every other answer of `create` is an
error. -/
theorem create_ok {p : String} {M : Machine} {s : Store}
    (h : ((Store.create p : Sim _).run M).1 = .ok s) : s.tables = {} ∧ s.Writable := by
  suffices hs : ∃ w, s = { backing := .journal w, path := some p } by
    obtain ⟨w, rfl⟩ := hs
    exact ⟨rfl, writable_journal rfl⟩
  unfold Store.create at h
  rw [sim_run_bind] at h
  split at h
  · cases h
  · cases h
  -- the header line, its line feed and the flush: a refusal of any of them is an error
  rw [sim_run_bind] at h
  split at h
  · rw [sim_run_bind] at h
    cases h
  rw [sim_run_bind] at h
  split at h
  · rw [sim_run_bind] at h
    cases h
  rw [sim_run_bind] at h
  split at h
  · rw [sim_run_bind] at h
    cases h
  rw [sim_run_bind] at h
  cases h
  exact ⟨_, rfl⟩

/-- A store file opened refuses inserts and holds the tables its file reads as. -/
theorem openFile_ok {p : String} {M : Machine} {s : Store}
    (h : ((Store.openFile p : Sim _).run M).1 = .ok s) :
    s.backing = .readOnly ∧ ∃ bytes, readJournal p bytes = .ok s.tables := by
  simp only [Store.openFile, sim_run_bind, readFile_run] at h
  rcases hr : M.disk.read M.cwd p with e | bytes
  · rw [hr] at h
    rcases e with e | e <;> simp at h
  · rw [hr] at h
    rcases hj : readJournal p bytes.data.toList with e | t
    · simp [hj] at h
    · simp [hj, logAt_run] at h
      injection h with hs
      rw [← hs]
      exact ⟨rfl, bytes.data.toList, hj⟩

/-- A file that reads as some tables opens, read-only, as those tables. -/
theorem openFile_of_read {p : String} {M : Machine} {B : ByteArray} {t : Tables}
    (hread : M.disk.read M.cwd p = .ok B) (hj : readJournal p B.data.toList = .ok t) :
    ((Store.openFile p : Sim _).run M).1 =
      .ok { tables := t, backing := .readOnly, path := some p } := by
  simp [Store.openFile, sim_run_bind, -StateT.run_bind, readFile_run, hread, hj, logAt_run]
  rfl

/-! ## Reachable stores -/

/-- The stores the API hands out: a new memory store, a store file just created or opened (of
whatever file open accepts), and what an insert or an ingestion leaves of one of them, whether it
was accepted or refused, finished or stopped at an error. -/
inductive Reachable : Store → Prop
  | inMemory : Reachable inMemory
  | created {p : String} {M : Machine} {s : Store} :
      ((Store.create p : Sim _).run M).1 = .ok s → Reachable s
  | opened {p : String} {M : Machine} {s : Store} :
      ((Store.openFile p : Sim _).run M).1 = .ok s → Reachable s
  | inserted {s : Store} (row : Row) (M : Machine) :
      Reachable s → Reachable ((insertRow s row).run M).1.2
  | ingested {s : Store} (d : Device) (M : Machine) :
      Reachable s → Reachable ((ingest s d : Sim _).run M).1.2

/-- **Induction over reachable stores.** A property of stores that holds of every new store
(empty tables, taking inserts) and of every store file opened, and that every insert keeps, holds
of every reachable store: an ingestion is a run of inserts. -/
theorem Reachable.induction {P : Store → Prop} (hnew : ∀ s, s.tables = {} → s.Writable → P s)
    (hopen : ∀ p M s, ((Store.openFile p : Sim _).run M).1 = .ok s → P s)
    (hinsert : ∀ s row M, P s → P ((insertRow s row).run M).1.2) {s : Store}
    (h : Reachable s) : P s := by
  induction h with
  | inMemory => exact hnew _ rfl (writable_memory rfl)
  | created hc =>
    obtain ⟨hempty, hw⟩ := create_ok hc
    exact hnew _ hempty hw
  | opened ho => exact hopen _ _ _ ho
  | inserted row M _ ih => exact hinsert _ row M ih
  | ingested d M _ ih => exact (ingest_inserts _ d M).preserves hinsert ih

end Store

/-- A machine whose disk holds the root directory and the file `store.db` in it, with the given
bytes, the working directory being the root. -/
def Machine.withStoreFile (B : ByteArray) : Machine :=
  { disk := ⟨[(["store.db"], .file B), ([], .dir)]⟩, cwd := [] }

theorem Machine.read_withStoreFile (B : ByteArray) :
    (Machine.withStoreFile B).disk.read (Machine.withStoreFile B).cwd "store.db" = .ok B := by
  have hsplit : splitPath "store.db" = ["store.db"] := by decide +kernel
  have hnul : "store.db".contains '\x00' = false := by simp
  have hend : "store.db".endsWith "/" = false := by decide +kernel
  have hstart : "store.db".startsWith "/" = false := by simp
  simp [withStoreFile, Disk.read, Disk.resolve, hsplit, hnul, hend, hstart, Disk.walk, Disk.entry]

/-- A journal file alone on a machine opens, read-only, as the tables its lines replay to. -/
theorem JournalOf.opens {bytes : List UInt8} {t : Tables} (h : JournalOf "store.db" bytes t) :
    ((Store.openFile "store.db" : Sim _).run (Machine.withStoreFile ⟨bytes.toArray⟩)).1 =
      .ok { tables := t, backing := .readOnly, path := some "store.db" } :=
  Store.openFile_of_read (Machine.read_withStoreFile _) (readJournal_of_journalOf h)

/-! ## Built tables -/

/-- Tables reached from empty tables by appending rows. -/
inductive Tables.Built : Tables → Prop
  | empty : Built {}
  | add {t : Tables} (id : RowId) (row : Row) : Built t → Built (t.add id row)

/-- **Every store's tables are built by appending rows.** -/
theorem Store.Reachable.built {s : Store} (h : s.Reachable) : s.tables.Built := by
  refine Store.Reachable.induction (P := fun s => s.tables.Built) ?_ ?_ ?_ h
  · intro s hempty _
    rw [hempty]
    exact .empty
  · intro p M s ho
    obtain ⟨-, bytes, hj⟩ := Store.openFile_ok ho
    exact readJournal_induction .empty (fun t id row ht _ => .add id row ht) hj
  · intro s row M hs
    rcases Store.insert_cases s row M with hsame | ⟨id, -, htables⟩
    · rw [hsame]
      exact hs
    · rw [htables]
      exact .add id row hs

end RegisterAtlas
