import RegisterAtlas.Proofs.Ingest.Exec
/-!
# Converting a description into a store file

`convert` reads a description file whole, creates the store file and ingests the description into
it. Ingesting into the new file and ingesting into a memory store go step for step alike: every
row is entered through the same insert, which answers alike on both stores (`Mirror`), and
everything else an ingestion does is logging, which touches no file.

* `Mirrored`: a step of an ingestion that answers alike from mirrored stores and leaves them
  mirrored; `Mirrored.bind`, `Mirrored.foldlM` and friends put such steps together.
* `mirrored_enterDevice`: a whole ingestion is mirrored.
* `convert_unreadable`: a source that cannot be read leaves the machine as it was.
* `convert_mirrors_ingest`: otherwise the store file opens as the memory store's tables.
* `store_file_replays_memory`: a store file answers inserts as a memory store and opens as its
  tables, and so does the file a conversion writes.
-/

namespace RegisterAtlas

/-! ## Mirrored steps -/

/-- A step of an ingestion that answers alike from a journal store and a memory store that
mirror each other, leaves them mirroring each other, and whose answer, when it has one,
satisfies `Q`. -/
def Mirrored (p : String) (x : IngestM Sim α) (Q : α → Prop) : Prop :=
  ∀ ⦃sj sm : Store⦄ ⦃Mj : Machine⦄ (Mm : Machine), Mirror p (sj, Mj) sm →
    (x.exec sj Mj).1.1 = (x.exec sm Mm).1.1 ∧
      Mirror p ((x.exec sj Mj).1.2, (x.exec sj Mj).2) (x.exec sm Mm).1.2 ∧
      ∀ a, (x.exec sm Mm).1.1 = .ok a → Q a

namespace Mirrored

variable {p : String} {Q R : α → Prop}

theorem pure {a : α} (h : Q a) : Mirrored p (pure a) Q := by
  intro sj sm Mj Mm hm
  refine ⟨rfl, hm, ?_⟩
  intro b hb
  cases hb
  exact h

theorem throw (e : AtlasError) : Mirrored p (throw e : IngestM Sim α) Q := by
  intro sj sm Mj Mm hm
  refine ⟨rfl, hm, ?_⟩
  intro b hb
  cases hb

theorem mono {x : IngestM Sim α} (hx : Mirrored p x Q) (h : ∀ a, Q a → R a) :
    Mirrored p x R := by
  intro sj sm Mj Mm hm
  obtain ⟨hans, hmir, hpost⟩ := hx Mm hm
  exact ⟨hans, hmir, fun a ha => h a (hpost a ha)⟩

/-- Mirrored steps one after another are mirrored: the second starts from the mirrored stores
the first leaves, with the answer the first gave on both. -/
theorem bind {x : IngestM Sim α} {f : α → IngestM Sim β} {R : β → Prop} (hx : Mirrored p x Q)
    (hf : ∀ a, Q a → Mirrored p (f a) R) : Mirrored p (x >>= f) R := by
  intro sj sm Mj Mm hm
  obtain ⟨hans, hmir, hpost⟩ := hx Mm hm
  rw [IngestM.exec_bind, IngestM.exec_bind]
  rcases hx' : x.exec sj Mj with ⟨⟨rj, sj'⟩, Mj'⟩
  rcases hm' : x.exec sm Mm with ⟨⟨rm, sm'⟩, Mm'⟩
  rw [hx', hm'] at hans hmir
  rw [hm'] at hpost
  simp only at hans hmir hpost
  subst hans
  cases rj with
  | error e => exact ⟨rfl, hmir, fun b hb => by cases hb⟩
  | ok a => exact hf a (hpost a rfl) Mm' hmir

theorem map {x : IngestM Sim α} (hx : Mirrored p x Q) (g : α → β) :
    Mirrored p (g <$> x) (fun _ => True) := by
  intro sj sm Mj Mm hm
  obtain ⟨hans, hmir, -⟩ := hx Mm hm
  rw [IngestM.exec_map, IngestM.exec_map]
  exact ⟨by rw [hans], hmir, fun _ _ => trivial⟩

theorem ite {c : Prop} [Decidable c] {x y : IngestM Sim α} (hx : c → Mirrored p x Q)
    (hy : ¬ c → Mirrored p y Q) : Mirrored p (if c then x else y) Q := by
  by_cases h : c
  · rw [if_pos h]
    exact hx h
  · rw [if_neg h]
    exact hy h

theorem note (level : Level) (message : String) :
    Mirrored p (RegisterAtlas.note level message : IngestM Sim Unit) (fun _ => True) := by
  intro sj sm Mj Mm hm
  refine ⟨rfl, ?_, fun _ _ => trivial⟩
  obtain ⟨l, B, hback, hres, hread⟩ := hm.file
  -- a log record touches no file
  exact ⟨hm.tables, hm.memory, hm.steady, hm.fit, l, B, hback, hres, hread⟩

/-- Entering a row whose ids fit is mirrored, and its answer is a 64-bit id. -/
theorem enter [Entity α] (row : α)
    (hrow : ∀ s : Store, (s.insert row : Sim _) = insertRow s (Entity.toRow row))
    (hfit : (Entity.toRow row).Fits) : Mirrored p (RegisterAtlas.enter row) RowId.Fits := by
  intro sj sm Mj Mm hm
  obtain ⟨hans, hmir⟩ := hm.after_insertRow hfit Mm
  rw [IngestM.exec_enter, IngestM.exec_enter, hrow sj, hrow sm]
  exact ⟨hans, hmir, fun id hid => hm.assigned_fits (insertRow_ok hid).1⟩

/-- A fold of mirrored steps keeping an invariant of its accumulator is mirrored. -/
theorem foldlM {γ : Type} {I : α → Prop} {f : α → γ → IngestM Sim α}
    (hf : ∀ a c, I a → Mirrored p (f a c) I) :
    ∀ {xs : List γ} {init : α}, I init → Mirrored p (xs.foldlM f init) I := by
  intro xs
  induction xs with
  | nil =>
    intro init hinit
    exact Mirrored.pure hinit
  | cons c cs ih =>
    intro init hinit
    rw [List.foldlM_cons]
    exact bind (hf init c hinit) fun a ha => ih ha

end Mirrored

/-! ## Ingestion is mirrored -/

variable {p : String}

theorem mirrored_enterField {registerId : RowId} (hid : registerId.Fits) (r : Register)
    (f : BitField) (sum : Summary) :
    Mirrored p (enterField registerId r f sum : IngestM Sim Summary) (fun _ => True) := by
  unfold enterField
  split
  · exact Mirrored.throw _
  · dsimp only
    -- a field past the register's width is warned about before its row is entered
    refine Mirrored.ite (fun _ => Mirrored.bind (Mirrored.note _ _) fun _ _ => ?_) fun _ => ?_
    all_goals
      exact Mirrored.bind (Mirrored.map (Mirrored.enter _ (fun _ => rfl) (by exact hid)) _)
        fun _ _ => Mirrored.pure trivial

theorem mirrored_enterRegister {peripheralId : RowId} (hid : peripheralId.Fits) (r : Register)
    (sum : Summary) :
    Mirrored p (enterRegister peripheralId r sum : IngestM Sim Summary) (fun _ => True) := by
  unfold enterRegister
  refine Mirrored.bind (Mirrored.note _ _) fun _ _ => ?_
  refine Mirrored.bind (Mirrored.enter _ (fun _ => rfl) (by exact hid)) fun id hfit => ?_
  exact Mirrored.foldlM (fun acc f _ => mirrored_enterField hfit r f acc) trivial

/-- Entering a peripheral is mirrored and keeps every id it has recorded a 64-bit id. -/
theorem mirrored_enterPeripheral {mpuId : RowId} (hmpu : mpuId.Fits) (acc : PeripheralIds × Summary)
    (hacc : ∀ x ∈ acc.1, x.2.Fits) (per : Peripheral) :
    Mirrored p (enterPeripheral mpuId acc per : IngestM Sim _) (fun acc' => ∀ x ∈ acc'.1, x.2.Fits) := by
  obtain ⟨ids, sum⟩ := acc
  unfold enterPeripheral
  refine Mirrored.bind (Mirrored.note _ _) fun _ _ => ?_
  extract_lets sum' jp
  -- the rest of the step, from the id of the peripheral it derives from, if any
  have hjp : ∀ derived : Option RowId, (∀ i ∈ derived, i.Fits) →
      Mirrored p (jp derived) fun acc' => ∀ x ∈ acc'.1, x.2.Fits := by
    intro derived hderived
    simp only [jp]
    refine Mirrored.bind (Mirrored.enter _ (fun _ => rfl) (by exact ⟨hmpu, hderived⟩))
      fun id hid => ?_
    have hids : ∀ x ∈ (per.name, id) :: ids, x.2.Fits := by
      intro x hx
      rcases List.mem_cons.1 hx with rfl | hx
      · exact hid
      · exact hacc x hx
    split
    · -- a derived peripheral's own registers are only noted
      exact Mirrored.ite (fun _ => Mirrored.bind (Mirrored.note _ _) fun _ _ => Mirrored.pure hids)
        fun _ => Mirrored.pure hids
    · exact Mirrored.bind (Mirrored.foldlM (fun s r _ => mirrored_enterRegister hid r s) trivial)
        fun _ _ => Mirrored.pure hids
  -- the row a derived peripheral points at was recorded before, so its id fits
  split
  · split
    · rename_i id hl
      obtain ⟨l₁, l₂, rfl, -⟩ := List.lookup_eq_some_iff.1 hl
      refine Mirrored.bind (Mirrored.pure ?_) fun derived hderived => hjp derived hderived
      intro i hi
      cases hi
      exact hacc _ (List.mem_append_right _ List.mem_cons_self)
    · exact Mirrored.bind (Mirrored.throw _) fun derived hderived => hjp derived hderived
  · refine Mirrored.bind (Mirrored.pure ?_) fun derived hderived => hjp derived hderived
    intro i hi
    cases hi

/-- **A whole ingestion is mirrored.** -/
theorem mirrored_enterDevice (d : Device) :
    Mirrored p (enterDevice d : IngestM Sim Summary) (fun _ => True) := by
  unfold enterDevice
  refine Mirrored.bind (Mirrored.enter _ (fun _ => rfl) trivial) fun mpuId hmpu => ?_
  -- the peripherals recorded so far all have 64-bit ids, so derived rows fit
  refine Mirrored.bind (Mirrored.foldlM (fun acc per hacc => mirrored_enterPeripheral hmpu acc hacc per)
    (by simp)) fun acc _ => ?_
  exact Mirrored.bind (Mirrored.note _ _) fun _ _ => Mirrored.pure trivial

/-! ## Converting -/

/-- Reading the source only reads: the machine stays as it was. -/
theorem readSource_machine (src : String) (M : Machine) :
    ((readSource src : Sim _).run M).2 = M := by
  unfold readSource
  rw [sim_run_bind, readFile_run]
  dsimp only
  split
  · rfl
  · rfl
  · split <;> rfl

/-- A conversion reads the source, then creates the store file, ingests into it and drops it. -/
theorem convert_run (src out : String) (M : Machine) :
    (convert src out : Sim _).run M =
      match ((readSource src : Sim _).run M).1 with
      | .error e => (.error (.source e), M)
      | .ok d =>
        match (Store.create out : Sim _).run M with
        | (.error e, M') => (.error e, M')
        | (.ok s, M') =>
          let r := (ingest s d : Sim _).run M'
          (r.1.1, ((r.1.2.release : Sim Unit).run r.2).2) := by
  have hmachine := readSource_machine src M
  unfold convert
  rw [sim_run_bind, hmachine]
  rcases ((readSource src : Sim _).run M).1 with e | d
  · rfl
  · dsimp only
    rw [sim_run_bind]
    rcases (Store.create out : Sim _).run M with ⟨_ | s, M'⟩
    · rfl
    · dsimp only
      rw [sim_run_bind, sim_run_bind]
      rfl

/-- Dropping a mirrored journal store writes nothing: its buffer is empty. -/
theorem Mirror.release {p : String} {sj sm : Store} {Mj : Machine} (hm : Mirror p (sj, Mj) sm) :
    (sj.release : Sim Unit).run Mj = ((), Mj) := by
  obtain ⟨l, B, hback, -, -⟩ := hm.file
  have hjournal : sj.backing = .journal { path := p, offset := B.size } := hback
  unfold Store.release
  rw [hjournal]
  rfl

/-- A source that cannot be read or parsed leaves the machine as it was: no store file is
created. -/
theorem convert_unreadable {src : String} {M : Machine} {e : SourceError}
    (h : ((readSource src : Sim _).run M).1 = .error e) (out : String) :
    (convert src out : Sim _).run M = (.error (.source e), M) := by
  rw [convert_run, h]

/-- A conversion into a store file that can be created answers as ingesting into a memory store,
and the file opens as that memory store's tables, also after an ingestion that stopped
midway. -/
theorem convert_mirrors_ingest {M : Machine} (hM : M.faults = []) (hsound : M.disk.Sound M.cwd)
    {out : String} {sj : Store} {Mj : Machine} (hcreate : (Store.create out : Sim _).run M = (.ok sj, Mj))
    {src : String} {d : Device} (hread : ((readSource src : Sim _).run M).1 = .ok d) (Mm : Machine)
    (hsmall : ((ingest Store.inMemory d : Sim _).run Mm).1.2.tables.Small) :
    ((convert src out : Sim _).run M).1 = ((ingest Store.inMemory d : Sim _).run Mm).1.1 ∧
      ((Store.openFile out : Sim _).run ((convert src out : Sim _).run M).2).1 =
        .ok { tables := ((ingest Store.inMemory d : Sim _).run Mm).1.2.tables,
              backing := .readOnly, path := some out } := by
  obtain ⟨hans, hmir, -⟩ := mirrored_enterDevice d Mm (mirror_create hM hsound hcreate)
  rw [ingest_run] at hsmall ⊢
  rw [convert_run, hread, hcreate]
  simp only [ingest_run]
  rw [hmir.release]
  exact ⟨hans, hmir.openFile hsmall⟩

/-! ## The store file replays the memory store -/

/-- On a machine that refuses no write, a store file is created wherever its file can be. -/
theorem create_of_createFile {M : Machine} (hM : M.faults = []) {p : String}
    (h : (M.disk.createFile M.cwd p).isOk) :
    ∃ sj, (Store.create p : Sim _).run M = (.ok sj, ((Store.create p : Sim _).run M).2) := by
  rcases hc : M.disk.createFile M.cwd p with e | d
  · rw [hc] at h
    cases h
  · exact ⟨_, by rw [create_run_steady hM hc]⟩

/-- **A store file replays the memory store.** A conversion whose source cannot be read creates
no file. On a machine that refuses no write, with a sound tree where the store file at `p` can
be created, the store created there and a memory store answer every insert alike, and the file
then opens as the memory store's tables; and a conversion into `p` answers as ingesting into a
memory store, the file opening as that store's tables, also after an ingestion that stopped
midway. The tables are small (fewer rows than there are positive 64-bit ids) and the rows' ids
are 64-bit ids. -/
theorem store_file_replays_memory (M Mm : Machine) (p : String) :
    (∀ src e, ((readSource src : Sim _).run M).1 = .error e →
        (convert src p : Sim _).run M = (.error (.source e), M)) ∧
    (M.faults = [] → M.disk.Sound M.cwd → (M.disk.createFile M.cwd p).isOk →
      ∃ sj, ((Store.create p : Sim _).run M).1 = .ok sj ∧
        (∀ rows : List Row, (∀ r ∈ rows, r.Fits) →
          ((insertAll Store.inMemory rows).run Mm).1.2.tables.Small →
          ((insertAll sj rows).run ((Store.create p : Sim _).run M).2).1.1 =
              ((insertAll Store.inMemory rows).run Mm).1.1 ∧
            ((Store.openFile p : Sim _).run
                ((insertAll sj rows).run ((Store.create p : Sim _).run M).2).2).1 =
              .ok { tables := ((insertAll Store.inMemory rows).run Mm).1.2.tables,
                    backing := .readOnly, path := some p }) ∧
        (∀ src d, ((readSource src : Sim _).run M).1 = .ok d →
          ((ingest Store.inMemory d : Sim _).run Mm).1.2.tables.Small →
          ((convert src p : Sim _).run M).1 = ((ingest Store.inMemory d : Sim _).run Mm).1.1 ∧
            ((Store.openFile p : Sim _).run ((convert src p : Sim _).run M).2).1 =
              .ok { tables := ((ingest Store.inMemory d : Sim _).run Mm).1.2.tables,
                    backing := .readOnly, path := some p })) := by
  refine ⟨fun src e h => convert_unreadable h p, fun hM hsound hnew => ?_⟩
  obtain ⟨sj, hcreate⟩ := create_of_createFile hM hnew
  refine ⟨sj, by rw [hcreate], ?_, ?_⟩
  · -- the inserts, from the mirror the creation starts
    intro rows hfit hsmall
    obtain ⟨hans, hmir⟩ := Mirror.after_insertAll hfit Mm (mirror_create hM hsound hcreate)
    exact ⟨hans, hmir.openFile hsmall⟩
  · intro src d hread hsmall
    exact convert_mirrors_ingest hM hsound hcreate hread Mm hsmall

/-- The replay on a tree holding the root and one description file, with the store file created
at the root. The rows interleave three tables, and the second MPU named `m` is refused; the
description's ingestion stops at a field with no bits, after its MPU, peripheral and register. -/
theorem store_file_replays_memory_at_root :
    let M : Machine :=
      { disk := ⟨[(["s.svd"], .file ("<device><name>d</name><peripherals><peripheral><name>P" ++
          "</name><baseAddress>0</baseAddress><registers><register><name>R</name><addressOffset>" ++
          "0</addressOffset><fields><field><name>F</name></field></fields></register></registers>" ++
          "</peripheral></peripherals></device>").toUTF8), ([], .dir)]⟩,
        cwd := [] }
    let rows : List Row :=
      [.mpu { name := "m" }, .peripheral { mpuId := 1, name := "P", baseAddress := "0" },
        .mpu { name := "m" }, .register { peripheralId := 1, name := "R", addressOffset := "0" },
        .peripheral { mpuId := 1, name := "Q", baseAddress := "4" }]
    let d : Device :=
      { name := "d",
        peripherals := [
          { name := "P", baseAddress := "0",
            registers := [{ name := "R", addressOffset := "0", fields := [{ name := "F" }] }] }] }
    M.faults = [] ∧ M.disk.Sound M.cwd ∧ (M.disk.createFile M.cwd "a.db").isOk ∧
      (∀ r ∈ rows, r.Fits) ∧ ((insertAll Store.inMemory rows).run M).1.2.tables.Small ∧
      ((readSource "s.svd" : Sim _).run M).1 = .ok d ∧
      ((ingest Store.inMemory d : Sim _).run M).1.2.tables.Small ∧
      ((insertAll Store.inMemory rows).run M).1.1 =
        [.ok 1, .ok 1, .error (.queryFailure "mpus" "m" "UNIQUE constraint failed: mpus.name"),
          .ok 1, .ok 2] ∧
      ((ingest Store.inMemory d : Sim _).run M).1.1 = .error (.malformedField "R" "F" .missing) ∧
      ∃ sj, ((Store.create "a.db" : Sim _).run M).1 = .ok sj ∧
        ((insertAll sj rows).run ((Store.create "a.db" : Sim _).run M).2).1.1 =
          ((insertAll Store.inMemory rows).run M).1.1 ∧
        ((Store.openFile "a.db" : Sim _).run
            ((insertAll sj rows).run ((Store.create "a.db" : Sim _).run M).2).2).1 =
          .ok { tables := ((insertAll Store.inMemory rows).run M).1.2.tables,
                backing := .readOnly, path := some "a.db" } ∧
        ((convert "s.svd" "a.db" : Sim _).run M).1 = ((ingest Store.inMemory d : Sim _).run M).1.1 ∧
        ((Store.openFile "a.db" : Sim _).run ((convert "s.svd" "a.db" : Sim _).run M).2).1 =
          .ok { tables := ((ingest Store.inMemory d : Sim _).run M).1.2.tables,
                backing := .readOnly, path := some "a.db" } := by
  intro M rows d
  have hM : M.faults = [] := rfl
  have hsound : M.disk.Sound M.cwd := by
    refine ⟨rfl, rfl, fun l e h => ?_⟩
    -- the root is the parent of both named locations
    have hl : l = ["s.svd"] ∨ l = [] := by
      simp [M, Disk.entry, List.find?] at h
      grind
    rcases hl with rfl | rfl <;> rfl
  have hnew : (M.disk.createFile M.cwd "a.db").isOk := by
    simp [M, Disk.createFile, Disk.resolveNew, Disk.resolve]
    decide +kernel
  have hfit : ∀ r ∈ rows, r.Fits := by decide
  have hsmall : ((insertAll Store.inMemory rows).run M).1.2.tables.Small := by decide +kernel
  have hread : ((readSource "s.svd" : Sim _).run M).1 = .ok d := by
    have h : ((readSource "s.svd" : Sim _).run M).1.toOption = some d := by
      simp [M, readSource, sim_run_bind, -StateT.run_bind, readFile_run, Disk.read, Disk.resolve]
      decide +kernel
    revert h
    cases ((readSource "s.svd" : Sim _).run M).1 <;> simp [Except.toOption]
  have hsmall' : ((ingest Store.inMemory d : Sim _).run M).1.2.tables.Small := by decide +kernel
  have hanswers : ((insertAll Store.inMemory rows).run M).1.1 =
      [.ok 1, .ok 1, .error (.queryFailure "mpus" "m" "UNIQUE constraint failed: mpus.name"),
        .ok 1, .ok 2] := by decide +kernel
  have hstop : ((ingest Store.inMemory d : Sim _).run M).1.1 =
      .error (.malformedField "R" "F" .missing) := by decide +kernel
  obtain ⟨sj, hsj, hrows, hconv⟩ := (store_file_replays_memory M M "a.db").2 hM hsound hnew
  obtain ⟨hans, hopen⟩ := hrows rows hfit hsmall
  obtain ⟨hans', hopen'⟩ := hconv "s.svd" d hread hsmall'
  exact ⟨hM, hsound, hnew, hfit, hsmall, hread, hsmall', hanswers, hstop, sj, hsj, hans, hopen,
    hans', hopen'⟩

end RegisterAtlas
