import RegisterAtlas.Proofs.Query.Owner
import RegisterAtlas.Proofs.Query.Chain
import RegisterAtlas.Proofs.Query.Like
import RegisterAtlas.Proofs.Sorting
/-!
# The dump of a store

The dump writes the store's MPU, then every peripheral in ascending name order: a derived
peripheral with the name of the peripheral its link names, any other with its registers and
fields. It reads a derived peripheral's link once, without following the chain on, and it
resolves only peripherals without a link, which never fails. So in every store the API hands out,
a hand-edited file with cycles of links included, the dump fails exactly when the store has no
MPU or a link names a missing row; a cycle does not stop it.

* `fetchPeripherals_perm`, `fetchPeripherals_sorted`: `%` accepts every name
  (`Like.accepts_percent`), so the listing holds every peripheral once, in ascending name order.
* `Store.mem_of_get_ok`, `Store.get_ok_iff`: an id fetches a row of the table with that id, and on
  increasing ids it fetches one exactly when a row has it.
* `dumpEntry`, `dump_eq`: the dump is its header and one entry per peripheral;
  `dumpEntry_ok_iff`: an entry fails exactly at a link to a missing row; `DumpShows`: what an
  entry shows.
* `dump_ok_iff_mpu_and_links`: the dump succeeds exactly when there is an MPU and every link names
  a row, and then shows every peripheral once, by name.
-/

namespace RegisterAtlas

/-! ## Runs of steps over a list -/

section Runs

variable {β γ ε : Type} {f : β → Except ε γ}

/-- A run of a step over a list succeeds with the values exactly when each item's step succeeds
with its value. -/
theorem mapM_eq_ok_iff {l : List β} {ys : List γ} :
    l.mapM f = .ok ys ↔ List.Forall₂ (fun x y => f x = .ok y) l ys := by
  induction l generalizing ys with
  | nil => cases ys <;> simp [pure, Except.pure]
  | cons x l ih =>
    rw [List.mapM_cons]
    cases ys with
    | nil => cases f x <;> cases l.mapM f <;> simp [bind, Except.bind, pure, Except.pure]
    | cons y ys =>
      rw [List.forall₂_cons, ← ih]
      cases f x <;> cases l.mapM f <;> simp [bind, Except.bind, pure, Except.pure]

theorem exists_of_forall₂ {R : β → γ → Prop} {l : List β} {ys : List γ}
    (h : List.Forall₂ R l ys) : ∀ x ∈ l, ∃ y, R x y := by
  induction h with
  | nil => simp
  | cons hxy _ ih =>
    intro x hx
    rcases List.mem_cons.1 hx with rfl | hx
    · exact ⟨_, hxy⟩
    · exact ih x hx

/-- A run of a step over a list succeeds exactly when every item's step does. -/
theorem exists_mapM_ok_iff {l : List β} :
    (∃ ys, l.mapM f = .ok ys) ↔ ∀ x ∈ l, ∃ y, f x = .ok y :=
  ⟨fun ⟨_, h⟩ => exists_of_forall₂ (mapM_eq_ok_iff.1 h), mapM_ok⟩

end Runs

/-! ## Reading the tables -/

variable {s : Store}

/-- The peripherals listed by name are the rows of the table, each once. -/
theorem fetchPeripherals_perm : (fetchPeripherals s).Perm s.tables.peripherals.toList := by
  have hall : (s.select fun (p : PeripheralRow) => Like.accepts "%" p.name) =
      s.tables.peripherals := by
    simp [Store.select, Like.accepts_percent, Entity.rows]
  rw [fetchPeripherals, fetchPeripheralsLike, hall]
  exact List.mergeSort_perm _ _

theorem fetchPeripherals_sorted :
    (fetchPeripherals s).Pairwise fun a b => a.row.name ≤ b.row.name :=
  sorted_mergeSort_name (fun p : Stored PeripheralRow => p.row.name) _

namespace Store

/-- Whatever the order of the ids, what an id fetches is a row of the table with that id. -/
theorem mem_of_get_ok [Entity α] {id : RowId} {q : Stored α} (h : s.get id = .ok q) :
    q ∈ (Entity.rows s.tables : Array (Stored α)) ∧ q.id = id := by
  unfold get at h
  dsimp only at h
  split at h
  · rename_i i hfound
    cases h
    exact ⟨Array.getElem_mem _, Search.key_of_byKey hfound⟩
  · cases h

/-- On increasing ids, an id fetches a row exactly when some row of the table has it. -/
theorem get_ok_iff [Entity α]
    (hs : Search.Increasing (Entity.rows s.tables : Array (Stored α)) (·.id)) (id : RowId) :
    (∃ q, (s.get id : Except AtlasError (Stored α)) = .ok q) ↔
      ∃ q ∈ (Entity.rows s.tables : Array (Stored α)), q.id = id := by
  constructor
  · rintro ⟨q, hq⟩
    exact ⟨q, mem_of_get_ok hq⟩
  · rintro ⟨q, hq, rfl⟩
    exact ⟨q, get_of_mem hs hq⟩

end Store

theorem mpuName_eq_ok_iff {name : String} :
    mpuName s = .ok name ↔ ∃ m, s.tables.mpus[0]? = some m ∧ m.row.name = name := by
  unfold mpuName
  simp only [Store.all, Entity.rows]
  cases s.tables.mpus[0]? <;> simp

theorem exists_mpuName_ok_iff : (∃ name, mpuName s = .ok name) ↔ s.tables.mpus ≠ #[] := by
  simp only [mpuName_eq_ok_iff]
  constructor
  · rintro ⟨_, m, hm, -⟩ hempty
    simp [hempty] at hm
  · intro hne
    have hpos : 0 < s.tables.mpus.size := Array.size_pos_iff.2 hne
    exact ⟨_, s.tables.mpus[0], Array.getElem?_eq_getElem hpos, rfl⟩

/-! ## One entry per peripheral -/

/-- What the dump writes for one peripheral row: its line and the name of the row its link names,
or, for a row without a link, its resolution; then a blank line. -/
def dumpEntry (s : Store) (p : Stored PeripheralRow) : Except AtlasError String :=
  match p.row.derivedFromId with
  | some target => do
    let t ← (s.get target : Except AtlasError (Stored PeripheralRow))
    return "Peripheral: " ++ p.row.name ++ ", base address: " ++ p.row.baseAddress ++ "\n" ++
      "  Registers the same as " ++ t.row.name ++ "\n\n"
  | none => do
    return dumpPeripheral (← resolvePeripheral s p) ++ "\n"

/-- The dump is its header followed by the entries of the peripherals in name order. -/
theorem dump_eq (s : Store) :
    dump s = (do
      let header := "MPU: " ++ (← mpuName s) ++ "\nDatabase Dump:\n"
      let parts ← (fetchPeripherals s).mapM (dumpEntry s)
      return header ++ String.join parts) := rfl

theorem dump_eq_ok_iff {text : String} :
    dump s = .ok text ↔ ∃ name parts, mpuName s = .ok name ∧
      (fetchPeripherals s).mapM (dumpEntry s) = .ok parts ∧
      text = "MPU: " ++ name ++ "\nDatabase Dump:\n" ++ String.join parts := by
  rw [dump_eq]
  cases mpuName s <;> cases (fetchPeripherals s).mapM (dumpEntry s) <;>
    simp [bind, Except.bind, pure, Except.pure, eq_comm]

/-- A peripheral row without a link is its own owner. -/
theorem registerOwner_of_unlinked {p : Stored PeripheralRow} (hd : p.row.derivedFromId = none) :
    registerOwner s p = .ok p := by
  simp only [registerOwner]
  exact walk_end hd

/-- A resolved peripheral keeps the name and base address of its row. -/
theorem resolvePeripheral_line {p : Stored PeripheralRow} {rp : ResolvedPeripheral}
    (h : resolvePeripheral s p = .ok rp) :
    rp.name = p.row.name ∧ rp.baseAddress = p.row.baseAddress := by
  unfold resolvePeripheral at h
  cases ho : registerOwner s p with
  | error e => simp [ho, bind, Except.bind] at h
  | ok o =>
    simp only [ho, bind, Except.bind, pure, Except.pure, Except.ok.injEq] at h
    rw [← h]
    exact ⟨rfl, rfl⟩

theorem dumpEntry_of_link {p : Stored PeripheralRow} {t : RowId}
    (hd : p.row.derivedFromId = some t) {part : String} :
    dumpEntry s p = .ok part ↔ ∃ q : Stored PeripheralRow, s.get t = .ok q ∧ part = "Peripheral: " ++ p.row.name ++
      ", base address: " ++ p.row.baseAddress ++ "\n" ++ "  Registers the same as " ++
      q.row.name ++ "\n\n" := by
  simp only [dumpEntry, hd]
  cases (s.get t : Except AtlasError (Stored PeripheralRow)) <;>
    simp [bind, Except.bind, pure, Except.pure, eq_comm]

/-- A peripheral row without a link resolves. -/
theorem resolvePeripheral_of_unlinked {p : Stored PeripheralRow}
    (hd : p.row.derivedFromId = none) : ∃ rp, resolvePeripheral s p = .ok rp := by
  simp [resolvePeripheral, registerOwner_of_unlinked hd, bind, Except.bind, pure, Except.pure]

theorem dumpEntry_of_unlinked {p : Stored PeripheralRow} (hd : p.row.derivedFromId = none) :
    ∃ rp, resolvePeripheral s p = .ok rp ∧ dumpEntry s p = .ok (dumpPeripheral rp ++ "\n") := by
  obtain ⟨rp, hrp⟩ := resolvePeripheral_of_unlinked hd
  refine ⟨rp, hrp, ?_⟩
  simp [dumpEntry, hd, hrp, bind, Except.bind, pure, Except.pure]

theorem dumpPeripheral_line (rp : ResolvedPeripheral) : ∃ body, dumpPeripheral rp =
    "Peripheral: " ++ rp.name ++ ", base address: " ++ rp.baseAddress ++ "\n" ++ body :=
  ⟨_, rfl⟩

/-- An entry succeeds exactly when the peripheral's link, if it has one, names a row. -/
theorem dumpEntry_ok_iff (hinc : Search.Increasing s.tables.peripherals (·.id))
    (p : Stored PeripheralRow) :
    (∃ part, dumpEntry s p = .ok part) ↔
      ∀ t, p.row.derivedFromId = some t → ∃ q ∈ s.tables.peripherals, q.id = t := by
  cases hd : p.row.derivedFromId with
  | none =>
    obtain ⟨rp, -, hpart⟩ := dumpEntry_of_unlinked hd
    simp only [reduceCtorEq, false_implies, implies_true, iff_true]
    exact ⟨_, hpart⟩
  | some t =>
    have hget := Store.get_ok_iff (α := PeripheralRow) hinc t
    simp only [Option.some.injEq, forall_eq']
    constructor
    · rintro ⟨part, hpart⟩
      obtain ⟨q, hq, -⟩ := (dumpEntry_of_link hd).1 hpart
      exact hget.1 ⟨q, hq⟩
    · intro hrow
      obtain ⟨q, hq⟩ := hget.2 hrow
      exact ⟨_, (dumpEntry_of_link hd).2 ⟨q, hq, rfl⟩⟩

/-- The dump shows the peripheral row `p` as `part`: a line with its name and base address, then,
for a row with a link, the name of the row the link names and a blank line, and for a row without
one, the rest of what its resolution shows, registers and fields, and a blank line. -/
def DumpShows (s : Store) (p : Stored PeripheralRow) (part : String) : Prop :=
  ∃ body, part = "Peripheral: " ++ p.row.name ++ ", base address: " ++ p.row.baseAddress ++ "\n" ++
      body ∧
    match p.row.derivedFromId with
    | some t => ∃ q ∈ s.tables.peripherals, q.id = t ∧
        body = "  Registers the same as " ++ q.row.name ++ "\n\n"
    | none => ∃ rp, resolvePeripheral s p = .ok rp ∧ part = dumpPeripheral rp ++ "\n"

theorem dumpShows_of_dumpEntry {p : Stored PeripheralRow} {part : String}
    (h : dumpEntry s p = .ok part) : DumpShows s p part := by
  unfold DumpShows
  cases hd : p.row.derivedFromId with
  | some t =>
    obtain ⟨q, hq, rfl⟩ := (dumpEntry_of_link hd).1 h
    obtain ⟨hmem, hid⟩ := Store.mem_of_get_ok hq
    refine ⟨_, ?_, q, hmem, hid, rfl⟩
    simp only [String.append_assoc]
  | none =>
    obtain ⟨rp, hrp, hentry⟩ := dumpEntry_of_unlinked hd
    obtain rfl : part = dumpPeripheral rp ++ "\n" := Except.ok.inj (h.symm.trans hentry)
    -- the resolution keeps the row's name and base address, which open what it shows
    obtain ⟨hname, hbase⟩ := resolvePeripheral_line hrp
    obtain ⟨body, hbody⟩ := dumpPeripheral_line rp
    refine ⟨body ++ "\n", ?_, rp, hrp, rfl⟩
    rw [hbody, hname, hbase]
    simp only [String.append_assoc]

/-! ## The dump -/

/-- **The dump fails exactly on a missing MPU or a dangling link.** In every store the API hands
out (with fewer rows per table than there are positive 64-bit ids), links that form cycles
included, the dump succeeds exactly when the store has an MPU and every peripheral's link, when it
has one, names a row of the table. Its text is then the first MPU's line, followed by one part per
peripheral, every row of the table once, in ascending name order, each part opening with that
peripheral's line. -/
theorem dump_ok_iff_mpu_and_links (hs : s.Reachable) (hsmall : s.tables.Small) :
    ((∃ text, dump s = .ok text) ↔ s.tables.mpus ≠ #[] ∧
        ∀ p ∈ s.tables.peripherals, ∀ t, p.row.derivedFromId = some t →
          ∃ q ∈ s.tables.peripherals, q.id = t) ∧
    ∀ text, dump s = .ok text → ∃ (m : Stored MpuRow) (ps : List (Stored PeripheralRow))
      (parts : List String), s.tables.mpus[0]? = some m ∧
      ps.Perm s.tables.peripherals.toList ∧ ps.Pairwise (fun a b => a.row.name ≤ b.row.name) ∧
      List.Forall₂ (DumpShows s) ps parts ∧
      text = "MPU: " ++ m.row.name ++ "\nDatabase Dump:\n" ++ String.join parts := by
  have hinc : Search.Increasing s.tables.peripherals (·.id) :=
    Search.increasing_iff.2 ((hs.idsInOrder hsmall).increasing .peripherals)
  -- the listing holds exactly the rows of the table
  have hlisted : ∀ p, p ∈ fetchPeripherals s ↔ p ∈ s.tables.peripherals := fun _ =>
    fetchPeripherals_perm.mem_iff.trans Array.mem_toList_iff
  refine ⟨⟨?_, ?_⟩, fun text h => ?_⟩
  · rintro ⟨text, h⟩
    obtain ⟨name, parts, hname, hparts, -⟩ := dump_eq_ok_iff.1 h
    refine ⟨exists_mpuName_ok_iff.1 ⟨name, hname⟩, fun p hp => ?_⟩
    exact (dumpEntry_ok_iff hinc p).1 (exists_mapM_ok_iff.1 ⟨parts, hparts⟩ p ((hlisted p).2 hp))
  · rintro ⟨hmpu, hlinks⟩
    obtain ⟨name, hname⟩ := exists_mpuName_ok_iff.2 hmpu
    obtain ⟨parts, hparts⟩ := exists_mapM_ok_iff.2 fun p hp =>
      (dumpEntry_ok_iff hinc p).2 (hlinks p ((hlisted p).1 hp))
    exact ⟨_, dump_eq_ok_iff.2 ⟨name, parts, hname, hparts, rfl⟩⟩
  · obtain ⟨name, parts, hname, hparts, rfl⟩ := dump_eq_ok_iff.1 h
    obtain ⟨m, hm, rfl⟩ := mpuName_eq_ok_iff.1 hname
    refine ⟨m, fetchPeripherals s, parts, hm, fetchPeripherals_perm, fetchPeripherals_sorted, ?_,
      rfl⟩
    exact List.Forall₂.imp (fun _ _ => dumpShows_of_dumpEntry) (mapM_eq_ok_iff.1 hparts)

/-- A store in memory with an MPU and peripherals `B` and `A` derived from each other, and `C`
derived from nothing; the cycle does not keep it from dumping. -/
theorem dump_ok_iff_mpu_and_links_on_cycle :
    let per : String → Option RowId → Row := fun name d =>
      .peripheral { mpuId := 1, derivedFromId := d, name := name, baseAddress := "0x0" }
    let step : Store → Row → Store := fun s row => ((insertRow s row).run default).1.2
    let s := step (step (step (step Store.inMemory (.mpu { name := "M" })) (per "B" (some 2)))
      (per "A" (some 1))) (per "C" none)
    s.Reachable ∧ s.tables.Small ∧
    (((∃ text, dump s = .ok text) ↔ s.tables.mpus ≠ #[] ∧
        ∀ p ∈ s.tables.peripherals, ∀ t, p.row.derivedFromId = some t →
          ∃ q ∈ s.tables.peripherals, q.id = t) ∧
    ∀ text, dump s = .ok text → ∃ (m : Stored MpuRow) (ps : List (Stored PeripheralRow))
      (parts : List String), s.tables.mpus[0]? = some m ∧
      ps.Perm s.tables.peripherals.toList ∧ ps.Pairwise (fun a b => a.row.name ≤ b.row.name) ∧
      List.Forall₂ (DumpShows s) ps parts ∧
      text = "MPU: " ++ m.row.name ++ "\nDatabase Dump:\n" ++ String.join parts) := by
  intro per step s
  have hreach : s.Reachable := .inserted _ _ (.inserted _ _ (.inserted _ _ (.inserted _ _ .inMemory)))
  have hsmall : s.tables.Small := by decide +kernel
  exact ⟨hreach, hsmall, dump_ok_iff_mpu_and_links hreach hsmall⟩

end RegisterAtlas
