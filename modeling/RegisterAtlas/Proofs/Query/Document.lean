import RegisterAtlas.Proofs.Ingest.Contents
import RegisterAtlas.Proofs.Query.Owner
import RegisterAtlas.Proofs.Query.Like
import RegisterAtlas.Proofs.Store.Index
/-!
# Resolving an ingested description

A successful ingestion into a new store in memory leaves the rows `Contents.ofPeripherals` gives,
each peripheral `Admitted` after those before it. This module reads those rows back. A peripheral
of a description takes its registers from the end of its chain of `derivedFrom` names
(`OwnerIn`); the walk over derivation links from its row follows that chain, the registers under a
row are its peripheral's, after the registers of the peripherals before, and the fields under a
register's row are its fields. So resolving a peripheral's row gives the description back:
its own name, base address and description, and the registers of its chain's end by name, each
with its fields by bit offset.

* `filter_numberedFrom_flatMap`: the rows under one parent, among rows entered block by block.
* `Admits.exists_ownerIn`: every derivation chain of an admitted description ends.
* `registerOwner_of_ownerIn`: the walk from a peripheral's row ends at its chain's end.
* `resolvePeripheral_reproduces`: a peripheral's row resolves to the peripheral.
* `resolve_eq_of_first`: resolving a peripheral's name resolves its row when no earlier name
  matches.
* `ingest_then_resolve_reproduces`: the whole round trip.
-/

namespace RegisterAtlas

/-! ## Rows entered block by block -/

section Blocks

variable {α β : Type}

/-- A row of the blocks of entries numbered after `m` is under an id above `m`. -/
theorem parent_of_mem_blocks {g : RowId → α → List β} {parent : β → Option RowId}
    (hg : ∀ id x, ∀ y ∈ g id x, parent y = some id) {xs : List α} {m n : Nat} {y : Stored β}
    (hy : y ∈ numberedFrom n ((numberedFrom m xs).flatMap fun x => g x.id x.row)) :
    ∃ id, (m : RowId) < id ∧ parent y.row = some id := by
  obtain ⟨x, hx, hyx⟩ := List.mem_flatMap.1 (row_mem_of_mem_numberedFrom hy)
  exact ⟨x.id, lt_id_of_mem_numberedFrom hx, hg _ _ _ hyx⟩

/-- Rows of blocks laid one after another, each block's rows under the id of its entry: the rows
under the id of one entry are that entry's block, numbered after the blocks before it. -/
theorem filter_numberedFrom_flatMap (g : RowId → α → List β) (parent : β → Option RowId)
    (hg : ∀ id x, ∀ y ∈ g id x, parent y = some id) :
    ∀ (xs : List α) (m n k : Nat) (hk : k < xs.length),
      (numberedFrom n ((numberedFrom m xs).flatMap fun x => g x.id x.row)).filter
          (fun y => parent y.row == some ((m + k + 1 : Nat) : RowId)) =
        numberedFrom (n + ((numberedFrom m (xs.take k)).flatMap fun x => g x.id x.row).length)
          (g ((m + k + 1 : Nat) : RowId) xs[k])
  | [], _, _, _, hk => absurd hk (Nat.not_lt_zero _)
  | x :: xs, m, n, k, hk => by
    rw [numberedFrom, List.flatMap_cons, numberedFrom_append, List.filter_append]
    cases k with
    | zero =>
      -- the first block is all under the first id, the later ones under later ids
      have hfirst : (numberedFrom n (g ((m + 1 : Nat) : RowId) x)).filter
          (fun y => parent y.row == some ((m + 0 + 1 : Nat) : RowId)) =
            numberedFrom n (g ((m + 1 : Nat) : RowId) x) := by
        refine List.filter_eq_self.2 fun y hy => ?_
        simp [hg _ _ _ (row_mem_of_mem_numberedFrom hy)]
      have hrest : (numberedFrom (n + (g ((m + 1 : Nat) : RowId) x).length)
          ((numberedFrom (m + 1) xs).flatMap fun x => g x.id x.row)).filter
            (fun y => parent y.row == some ((m + 0 + 1 : Nat) : RowId)) = [] := by
        refine List.filter_eq_nil_iff.2 fun y hy hparent => ?_
        obtain ⟨id, hlt, hid⟩ := parent_of_mem_blocks hg hy
        rw [hid, beq_iff_eq, Option.some.injEq] at hparent
        rw [hparent] at hlt
        exact absurd hlt (lt_irrefl _)
      rw [hfirst, hrest, List.append_nil]
      rfl
    | succ k =>
      -- the first block is under the first id, and the rest is the same question one entry on
      have hfirst : (numberedFrom n (g ((m + 1 : Nat) : RowId) x)).filter
          (fun y => parent y.row == some ((m + (k + 1) + 1 : Nat) : RowId)) = [] := by
        refine List.filter_eq_nil_iff.2 fun y hy hparent => ?_
        rw [hg _ _ _ (row_mem_of_mem_numberedFrom hy), beq_iff_eq, Option.some.injEq] at hparent
        have hid : ((m + 1 : Nat) : Int) = ((m + (k + 1) + 1 : Nat) : Int) := hparent
        omega
      have hrest := filter_numberedFrom_flatMap g parent hg xs (m + 1)
        (n + (g ((m + 1 : Nat) : RowId) x).length) k (Nat.lt_of_succ_lt_succ hk)
      rw [show m + 1 + k + 1 = m + (k + 1) + 1 by omega] at hrest
      rw [hfirst, List.nil_append, hrest, List.take_succ_cons, numberedFrom, List.flatMap_cons,
        List.length_append, Nat.add_assoc]
      rfl

end Blocks

/-! ## Derivation chains of a description -/

/-- `R` is the peripheral whose registers `P` has in the description `ps`: `P` itself when it is
not derived, else the one reached by following the names `derivedFrom` gives through `ps` to a
peripheral that is not derived. -/
inductive OwnerIn (ps : List Peripheral) : Peripheral → Peripheral → Prop
  | own {P : Peripheral} : P.derivedFrom = none → OwnerIn ps P P
  | derived {P Q R : Peripheral} {t : String} : P.derivedFrom = some t → Q ∈ ps →
      Q.name = t → OwnerIn ps Q R → OwnerIn ps P R

theorem OwnerIn.not_derived {ps : List Peripheral} {P R : Peripheral} (h : OwnerIn ps P R) :
    R.derivedFrom = none := by
  induction h with
  | own hP => exact hP
  | derived _ _ _ _ ih => exact ih

/-- A peripheral that is not derived owns its registers. -/
theorem OwnerIn.eq_of_not_derived {ps : List Peripheral} {P R : Peripheral} (h : OwnerIn ps P R)
    (hP : P.derivedFrom = none) : R = P := by
  cases h with
  | own _ => rfl
  | derived hd _ _ _ => rw [hP] at hd; cases hd

theorem lookup_peripheralIds {qs : List Peripheral} {t : String} {id : RowId}
    (h : List.lookup t (Contents.peripheralIds qs) = some id) :
    ∃ j, ∃ hj : j < qs.length, qs[j].name = t ∧ id = ((j + 1 : Nat) : RowId) := by
  induction qs using List.reverseRecOn with
  | nil => cases h
  | append_singleton qs Q ih =>
    rw [Contents.peripheralIds_concat, List.lookup_cons] at h
    by_cases hname : t = Q.name
    · have hbeq : (t == Q.name) = true := beq_iff_eq.2 hname
      simp only [hbeq] at h
      cases h
      exact ⟨qs.length, by simp, by simp [hname], rfl⟩
    · have hbeq : (t == Q.name) = false := beq_false_of_ne hname
      simp only [hbeq] at h
      obtain ⟨j, hj, hjname, rfl⟩ := ih h
      exact ⟨j, by simp; omega, by rw [List.getElem_append_left hj]; exact hjname, rfl⟩

namespace Admits

variable {ps : List Peripheral}

/-- The peripherals of an admitted description have distinct names. -/
theorem nodup_names (h : Admits ps) : (ps.map (·.name)).Nodup := by
  induction h with
  | nil => exact List.nodup_nil
  | snoc _ hP ih =>
    rw [List.map_append, List.map_singleton, List.nodup_append]
    refine ⟨ih, List.nodup_singleton _, fun a ha b hb hab => ?_⟩
    obtain ⟨Q, hQ, rfl⟩ := List.mem_map.1 ha
    rw [List.mem_singleton.1 hb] at hab
    exact hP.1 Q hQ hab

/-- Each peripheral of an admitted description is admitted after those before it. -/
theorem admitted (h : Admits ps) (k : Nat) (hk : k < ps.length) : Admitted (ps.take k) ps[k] := by
  induction h with
  | nil => cases hk
  | snoc _ hP ih =>
    rename_i qs Q _
    rw [List.length_append, List.length_singleton] at hk
    rcases Nat.lt_succ_iff_lt_or_eq.1 hk with hlt | rfl
    · rw [List.take_append_of_le_length (le_of_lt hlt), List.getElem_append_left hlt]
      exact ih hlt
    · rw [List.take_left, List.getElem_append_right (le_refl _)]
      simpa using hP

/-- A peripheral of an admitted description is the one of its name. -/
theorem eq_of_name (h : Admits ps) {Q : Peripheral} (hQ : Q ∈ ps) {j : Nat} (hj : j < ps.length)
    (hname : ps[j].name = Q.name) : Q = ps[j] :=
  List.inj_on_of_nodup_map h.nodup_names hQ (List.getElem_mem hj) hname.symm

/-- Two peripherals of an admitted description with one name are at one position. -/
theorem index_eq_of_name (h : Admits ps) {r k : Nat} (hr : r < ps.length) (hk : k < ps.length)
    (hname : ps[r].name = ps[k].name) : r = k :=
  (List.Nodup.of_map _ h.nodup_names).getElem_inj_iff.1
    (List.inj_on_of_nodup_map h.nodup_names (List.getElem_mem hr) (List.getElem_mem hk) hname)

/-- The peripheral a derived peripheral of an admitted description names is before it. -/
theorem derived_before (h : Admits ps) {k : Nat} (hk : k < ps.length) {t : String}
    (ht : ps[k].derivedFrom = some t) :
    ∃ j, ∃ hj : j < k, ps[j].name = t ∧
      List.lookup t (Contents.peripheralIds (ps.take k)) = some ((j + 1 : Nat) : RowId) := by
  obtain ⟨-, hfound, -⟩ := h.admitted k hk
  obtain ⟨id, hid⟩ := Option.isSome_iff_exists.1 (hfound t ht)
  obtain ⟨j, hj, hjname, rfl⟩ := lookup_peripheralIds hid
  rw [List.length_take, lt_min_iff] at hj
  exact ⟨j, hj.1, by simpa [List.getElem_take] using hjname, hid⟩

/-- **Derivation chains end.** Following the names `derivedFrom` gives from a peripheral of an
admitted description reaches a peripheral that is not derived. -/
theorem exists_ownerIn (h : Admits ps) : ∀ k (hk : k < ps.length), ∃ R, OwnerIn ps ps[k] R := by
  intro k
  induction k using Nat.strong_induction_on with
  | _ k ih =>
    intro hk
    cases ht : ps[k].derivedFrom with
    | none => exact ⟨_, .own ht⟩
    | some t =>
      -- the peripheral it names comes earlier, and its chain ends
      obtain ⟨j, hjk, hjname, -⟩ := h.derived_before hk ht
      obtain ⟨R, hR⟩ := ih j hjk (by omega)
      exact ⟨R, .derived ht (List.getElem_mem _) hjname hR⟩

end Admits

/-! ## The rows of an ingested description -/

/-- The row the `k`-th peripheral of `ps` is stored as, entered after the peripherals before it. -/
def Contents.peripheralAt (ps : List Peripheral) (k : Nat) (hk : k < ps.length) :
    Stored PeripheralRow :=
  ⟨((k + 1 : Nat) : RowId), peripheralRow (ps.take k) ps[k]⟩

section Stored

variable {s : Store} {mpu : MpuRow} {ps : List Peripheral}

theorem getElem?_peripherals (ht : s.tables.Hold (Contents.ofPeripherals mpu ps)) {k : Nat}
    (hk : k < ps.length) :
    s.tables.peripherals.toList[k]? = some (Contents.peripheralAt ps k hk) := by
  rw [ht.2.1, getElem?_numberedFrom]
  simp [Contents.ofPeripherals, Contents.peripheralAt, hk]

theorem peripheralAt_mem (ht : s.tables.Hold (Contents.ofPeripherals mpu ps)) {k : Nat}
    (hk : k < ps.length) : Contents.peripheralAt ps k hk ∈ s.tables.peripherals :=
  Array.mem_toList_iff.1 (List.mem_of_getElem? (getElem?_peripherals ht hk))

theorem count_peripherals (ht : s.tables.Hold (Contents.ofPeripherals mpu ps)) :
    s.count PeripheralRow = ps.length := by
  have hlen := congrArg List.length ht.2.1
  simp only [Array.length_toList, length_numberedFrom] at hlen
  simpa [Store.count, Entity.rows, Contents.ofPeripherals] using hlen

/-- The id of a peripheral's row fetches it. -/
theorem get_peripheralAt (ht : s.tables.Hold (Contents.ofPeripherals mpu ps)) {k : Nat}
    (hk : k < ps.length) : s.get ((k + 1 : Nat) : RowId) = .ok (Contents.peripheralAt ps k hk) :=
  Store.get_of_mem (Search.increasing_iff.2 (ht.numbered.increasing .peripherals))
    (peripheralAt_mem ht hk)

/-- **The walk follows the description.** From the row of a peripheral of an admitted description,
the walk to the owner of its registers follows the names its chain of `derivedFrom` gives, and
ends at the row of the chain's end: each link names an earlier peripheral, so the steps stay
below the number of peripherals and the fuel lasts. -/
theorem walk_of_ownerIn (ht : s.tables.Hold (Contents.ofPeripherals mpu ps)) (hadmits : Admits ps)
    (p : Stored PeripheralRow) {P R : Peripheral} (hPR : OwnerIn ps P R) :
    ∀ (m : Nat) (hm : m < ps.length), ps[m] = P → ∀ fuel steps, m + 1 ≤ fuel →
      steps + m + 1 ≤ ps.length →
      ∃ r, ∃ hr : r < ps.length, ps[r] = R ∧
        registerOwner.walk s p (s.count PeripheralRow) fuel steps (Contents.peripheralAt ps m hm) =
          .ok (Contents.peripheralAt ps r hr) := by
  induction hPR with
  | own hP =>
    intro m hm hmP fuel steps hfuel _
    obtain ⟨fuel, rfl⟩ : ∃ f, fuel = f + 1 := ⟨fuel - 1, by omega⟩
    have hd : (Contents.peripheralAt ps m hm).row.derivedFromId = none := by
      simp [Contents.peripheralAt, Contents.peripheralRow, hmP, hP]
    exact ⟨m, hm, hmP, by simp [registerOwner.walk, hd]⟩
  | @derived P Q R t hP hQ hname _ ih =>
    intro m hm hmP fuel steps hfuel hsteps
    obtain ⟨fuel, rfl⟩ : ∃ f, fuel = f + 1 := ⟨fuel - 1, by omega⟩
    rw [← hmP] at hP
    -- the link names the earlier peripheral `j`, which is `Q`
    obtain ⟨j, hjm, hjname, hlookup⟩ := hadmits.derived_before hm hP
    have hj : j < ps.length := by omega
    have hjQ : Q = ps[j] := hadmits.eq_of_name hQ hj (by rw [hjname, hname])
    have hd : (Contents.peripheralAt ps m hm).row.derivedFromId = some ((j + 1 : Nat) : RowId) := by
      simp [Contents.peripheralAt, Contents.peripheralRow, hP, hlookup]
    obtain ⟨r, hr, hrR, hwalk⟩ := ih j hj hjQ.symm fuel (steps + 1) (by omega) (by omega)
    refine ⟨r, hr, hrR, ?_⟩
    simp only [registerOwner.walk, hd]
    rw [if_neg (by rw [count_peripherals ht]; omega), get_peripheralAt ht hj]
    exact hwalk

/-- The owner of the registers of a peripheral's row is the row of its chain's end. -/
theorem registerOwner_of_ownerIn (ht : s.tables.Hold (Contents.ofPeripherals mpu ps))
    (hadmits : Admits ps) {k : Nat} (hk : k < ps.length) {R : Peripheral}
    (hR : OwnerIn ps ps[k] R) :
    ∃ r, ∃ hr : r < ps.length, ps[r] = R ∧
      registerOwner s (Contents.peripheralAt ps k hk) = .ok (Contents.peripheralAt ps r hr) := by
  have hcount := count_peripherals ht
  exact walk_of_ownerIn ht hadmits _ hR k hk rfl _ 0 (by omega) (by omega)

end Stored

/-! ## Registers and fields under a row -/

section Children

variable {α β : Type}

/-- The entries of the blocks of the entries after the first `r` start after the blocks of the
first `r`. -/
theorem getElem?_flatMap_take (f : α → List β) (xs : List α) {r : Nat} (hr : r < xs.length)
    {i : Nat} (hi : i < (f xs[r]).length) :
    (xs.flatMap f)[((xs.take r).flatMap f).length + i]? = (f xs[r])[i]? := by
  have hsplit :
      xs.flatMap f = (xs.take r).flatMap f ++ (f xs[r] ++ (xs.drop (r + 1)).flatMap f) := by
    rw [← List.flatMap_cons, ← List.drop_eq_getElem_cons hr, ← List.flatMap_append,
      List.take_append_drop]
  rw [hsplit, List.getElem?_append_right (by omega), Nat.add_sub_cancel_left,
    List.getElem?_append_left hi]

variable {s : Store} {mpu : MpuRow} {ps : List Peripheral}

/-- The registers of a peripheral's row are those of the peripheral, after the registers of the
peripherals before it. -/
theorem fetchRegisters_eq (ht : s.tables.Hold (Contents.ofPeripherals mpu ps))
    (hindex : s.tables.Indexed) {r : Nat} (hr : r < ps.length) :
    fetchRegisters s ((r + 1 : Nat) : RowId) =
      ((numberedFrom ((ps.take r).flatMap Peripheral.ownRegisters).length ps[r].ownRegisters).map
        fun x => ⟨x.id, Contents.registerRow ((r + 1 : Nat) : RowId) x.row⟩).mergeSort
          (fun a b => decide (a.row.name ≤ b.row.name)) := by
  have hblock := filter_numberedFrom_flatMap
    (fun id (P : Peripheral) => P.ownRegisters.map (Contents.registerRow id))
    (fun x => Entity.parentId x) (fun id P y hy => by
      obtain ⟨R, -, rfl⟩ := List.mem_map.1 hy
      rfl) ps 0 0 r hr
  rw [Nat.zero_add, Nat.zero_add] at hblock
  rw [← Contents.length_registers_ofPeripherals mpu (ps.take r)]
  unfold fetchRegisters
  rw [Store.children_eq_select hindex rfl, Store.select, Array.toList_filter]
  simp only [Entity.rows]
  rw [ht.2.2.1]
  simp only [Contents.ofPeripherals] at hblock ⊢
  rw [hblock, numberedFrom_map]

/-- The fields of a register's row are those of its fields whose bits normalize, under its id. -/
theorem fetchFields_eq (ht : s.tables.Hold (Contents.ofPeripherals mpu ps))
    (hindex : s.tables.Indexed) {r : Nat} (hr : r < ps.length) {i : Nat}
    (hi : i < ps[r].ownRegisters.length) :
    ∃ n,
      fetchFields s ((((ps.take r).flatMap Peripheral.ownRegisters).length + i + 1 : Nat) : RowId) =
      (numberedFrom n (Contents.fieldRows
        ((((ps.take r).flatMap Peripheral.ownRegisters).length + i + 1 : Nat) : RowId)
          ps[r].ownRegisters[i])).mergeSort
        (fun a b => decide (a.row.bitOffset ≤ b.row.bitOffset)) := by
  have hk : ((ps.take r).flatMap Peripheral.ownRegisters).length + i <
      (ps.flatMap Peripheral.ownRegisters).length := by
    have hsome := getElem?_flatMap_take Peripheral.ownRegisters ps hr hi
    rw [List.getElem?_eq_getElem hi] at hsome
    exact (List.getElem?_eq_some_iff.1 hsome).1
  have hblock := filter_numberedFrom_flatMap (fun id R => Contents.fieldRows id R)
    (fun x => Entity.parentId x) (fun id R y hy => by
      obtain ⟨f, -, hf⟩ := List.mem_filterMap.1 hy
      split at hf
      · cases hf
        rfl
      · cases hf) (ps.flatMap Peripheral.ownRegisters) 0 0 _ hk
  have hreg : (ps.flatMap Peripheral.ownRegisters)[((ps.take r).flatMap
      Peripheral.ownRegisters).length + i] = ps[r].ownRegisters[i] := by
    have hsome := getElem?_flatMap_take Peripheral.ownRegisters ps hr hi
    rw [List.getElem?_eq_getElem hk, List.getElem?_eq_getElem hi] at hsome
    exact Option.some.inj hsome
  rw [Nat.zero_add, Nat.zero_add, hreg] at hblock
  unfold fetchFields
  rw [Store.children_eq_select hindex rfl, Store.select, Array.toList_filter]
  simp only [Entity.rows]
  rw [ht.2.2.2]
  simp only [Contents.ofPeripherals] at hblock ⊢
  rw [hblock]
  exact ⟨_, rfl⟩

end Children

/-! ## What a peripheral of a description resolves to -/

/-- The field a field of a description resolves to: its name, its bits normalized, and its
description with an empty one dropped; none when its bits do not normalize. -/
def BitField.resolved (f : BitField) : Option ResolvedField :=
  match Bits.normalize f with
  | .ok p => some ⟨f.name, p.width, p.offset, nonEmpty f.description⟩
  | .error _ => none

/-- The register a register of a description resolves to, without the id of its row: its
fields that normalize, sorted by bit offset. -/
def Register.resolved (R : Register) : ResolvedRegister where
  id := 0
  name := R.name
  addressOffset := R.addressOffset
  resetValue := nonEmpty R.resetValue
  description := nonEmpty R.description
  fields := (R.fields.filterMap BitField.resolved).mergeSort fun a b =>
    decide (a.bitOffset ≤ b.bitOffset)

/-- A resolved register without the id of its row. -/
def ResolvedRegister.eraseId (r : ResolvedRegister) : ResolvedRegister := { r with id := 0 }

/-- `rp` is the peripheral `P` of a description whose registers come from `R`: `P`'s name, base
address and description (an empty one dropped), the name of `R` when `P` is derived, and `R`'s
registers sorted by name, each with its fields sorted by bit offset, every field's bits
normalizing. -/
structure ResolvedPeripheral.Reproduces (rp : ResolvedPeripheral) (P R : Peripheral) : Prop where
  name : rp.name = P.name
  baseAddress : rp.baseAddress = P.baseAddress
  description : rp.description = nonEmpty P.description
  derivedFrom : rp.derivedFrom = P.derivedFrom.map fun _ => R.name
  registers : rp.registers.map ResolvedRegister.eraseId =
    (R.registers.map Register.resolved).mergeSort fun a b => decide (a.name ≤ b.name)
  normalize : ∀ reg ∈ R.registers, ∀ f ∈ reg.fields, (BitField.resolved f).isSome

theorem ofRow_fieldRows (registerId : RowId) (R : Register) :
    (Contents.fieldRows registerId R).map ResolvedField.ofRow =
      R.fields.filterMap BitField.resolved := by
  rw [Contents.fieldRows, List.map_filterMap]
  refine List.filterMap_congr fun f _ => ?_
  unfold BitField.resolved
  cases Bits.normalize f <;> rfl

section Resolve

variable {s : Store} {mpu : MpuRow} {ps : List Peripheral}

/-- A register of a peripheral's row resolves to the register of the description, its fields
read under its id. -/
theorem resolved_of_mem (ht : s.tables.Hold (Contents.ofPeripherals mpu ps))
    (hindex : s.tables.Indexed) {r : Nat} (hr : r < ps.length) {x : Stored Register}
    (hx : x ∈ numberedFrom ((ps.take r).flatMap Peripheral.ownRegisters).length
      ps[r].ownRegisters) :
    ResolvedRegister.eraseId
      { id := x.id, name := x.row.name, addressOffset := x.row.addressOffset,
        resetValue := nonEmpty x.row.resetValue, description := nonEmpty x.row.description,
        fields := (fetchFields s x.id).map (ResolvedField.ofRow ·.row) } = x.row.resolved := by
  obtain ⟨i, hi⟩ := List.getElem?_of_mem hx
  rw [getElem?_numberedFrom] at hi
  obtain ⟨R, hR, rfl⟩ := Option.map_eq_some_iff.1 hi
  obtain ⟨hilt, rfl⟩ := List.getElem?_eq_some_iff.1 hR
  obtain ⟨n, hfields⟩ := fetchFields_eq ht hindex hr hilt
  simp only [ResolvedRegister.eraseId, Register.resolved, ResolvedRegister.mk.injEq, true_and]
  -- the fields' rows sort as the fields they resolve to
  rw [hfields, List.map_mergeSort
    (r := fun (a b : Stored FieldRow) => decide (a.row.bitOffset ≤ b.row.bitOffset))
    (s := fun (a b : ResolvedField) => decide (a.bitOffset ≤ b.bitOffset))
    (f := fun x => ResolvedField.ofRow x.row) (fun _ _ _ _ => rfl), map_row_numberedFrom,
    ofRow_fieldRows]

/-- **A peripheral's row resolves to the peripheral.** In a store holding an admitted
description, the row of a peripheral resolves to its name, base address and description, the
name of the end of its derivation chain when it is derived, and that peripheral's registers by
name, each with its fields by bit offset. -/
theorem resolvePeripheral_reproduces (ht : s.tables.Hold (Contents.ofPeripherals mpu ps))
    (hindex : s.tables.Indexed) (hadmits : Admits ps) {k : Nat} (hk : k < ps.length)
    {R : Peripheral} (hR : OwnerIn ps ps[k] R) :
    ∃ rp, resolvePeripheral s (Contents.peripheralAt ps k hk) = .ok rp ∧
      rp.Reproduces ps[k] R := by
  obtain ⟨r, hr, rfl, hown⟩ := registerOwner_of_ownerIn ht hadmits hk hR
  have hnot := hR.not_derived
  have hregs : ps[r].ownRegisters = ps[r].registers := by simp [Peripheral.ownRegisters, hnot]
  refine ⟨_, by unfold resolvePeripheral; rw [hown]; rfl, rfl, rfl, rfl, ?_, ?_, ?_⟩
  · -- the owner is another row exactly when the peripheral is derived
    show (if ((r + 1 : Nat) : RowId) ≠ ((k + 1 : Nat) : RowId) then some ps[r].name else none) =
      ps[k].derivedFrom.map fun _ => ps[r].name
    cases hd : ps[k].derivedFrom with
    | none =>
      have hrk := hadmits.index_eq_of_name hr hk (by rw [hR.eq_of_not_derived hd])
      simp [hrk]
    | some t =>
      have hrk : r ≠ k := by
        rintro rfl
        rw [hnot] at hd
        cases hd
      simp [hrk]
  · -- the owner's rows sort as the registers they resolve to
    let L := numberedFrom ((ps.take r).flatMap Peripheral.ownRegisters).length ps[r].ownRegisters
    calc _ = (L.mergeSort fun a b => decide (a.row.name ≤ b.row.name)).map (·.row.resolved) := by
          show ((fetchRegisters s ((r + 1 : Nat) : RowId)).map _).map _ = _
          rw [fetchRegisters_eq ht hindex hr, ← List.map_mergeSort
            (r := fun (a b : Stored Register) => decide (a.row.name ≤ b.row.name))
            (fun _ _ _ _ => rfl), List.map_map, List.map_map]
          exact List.map_congr_left fun x hx =>
            resolved_of_mem ht hindex hr (List.mem_mergeSort.1 hx)
      _ = (ps[r].registers.map Register.resolved).mergeSort fun a b =>
            decide (a.name ≤ b.name) := by
          rw [List.map_mergeSort
            (r := fun (a b : Stored Register) => decide (a.row.name ≤ b.row.name))
            (s := fun (a b : ResolvedRegister) => decide (a.name ≤ b.name))
            (f := fun x => x.row.resolved) (fun _ _ _ _ => rfl), map_row_numberedFrom, hregs]
  · -- the fields of the owner's registers normalize, or the ingestion would have stopped
    intro reg hreg f hf
    obtain ⟨p, hp⟩ := (hadmits.admitted r hr).2.2 reg (by rwa [hregs]) f hf
    simp [BitField.resolved, hp]

end Resolve

/-! ## Resolving by name -/

section Fetch

variable {s : Store} {mpu : MpuRow} {ps : List Peripheral}

theorem getElem_peripherals (ht : s.tables.Hold (Contents.ofPeripherals mpu ps)) {k : Nat}
    (hk : k < ps.length) {x : Stored PeripheralRow}
    (hx : s.tables.peripherals.toList[k]? = some x) :
    x = Contents.peripheralAt ps k hk := by
  rw [getElem?_peripherals ht hk] at hx
  exact (Option.some.inj hx).symm

/-- The first peripheral row whose name the `k`-th peripheral's name accepts as a pattern is its
row, when it accepts no name before its own: a name matches itself. -/
theorem fetchPeripheralByName_eq (ht : s.tables.Hold (Contents.ofPeripherals mpu ps)) {k : Nat}
    (hk : k < ps.length) (hbefore : ∀ Q ∈ ps.take k, Like.accepts ps[k].name Q.name = false) :
    fetchPeripheralByName s ps[k].name = .ok (Contents.peripheralAt ps k hk) := by
  have hlen : s.tables.peripherals.toList.length = ps.length := by
    rw [Array.length_toList]
    exact count_peripherals ht
  have hfind : s.tables.peripherals.toList.find? (fun p => Like.accepts ps[k].name p.row.name) =
      some (Contents.peripheralAt ps k hk) := by
    refine List.find?_eq_some_iff_getElem.2 ⟨Like.accepts_self _, k, by omega,
      getElem_peripherals ht hk (List.getElem?_eq_getElem _), fun j hjk => ?_⟩
    -- the rows before are those of the peripherals before, whose names it does not accept
    have hj : j < ps.length := by omega
    rw [getElem_peripherals ht hj (List.getElem?_eq_getElem _)]
    have hmem : ps[j] ∈ ps.take k :=
      List.mem_of_getElem? (by rw [List.getElem?_take_of_lt hjk, List.getElem?_eq_getElem hj])
    simpa [Contents.peripheralAt, Contents.peripheralRow] using hbefore ps[j] hmem
  have hfirst : (s.select fun (p : PeripheralRow) => Like.accepts ps[k].name p.name)[0]? =
      some (Contents.peripheralAt ps k hk) := by
    rw [← Array.getElem?_toList, Store.select, Array.toList_filter, ← List.head?_eq_getElem?,
      List.head?_filter]
    exact hfind
  unfold fetchPeripheralByName
  rw [hfirst]

/-- Resolving the `k`-th peripheral's name resolves its row, when no name before its own matches
it as a pattern. -/
theorem resolve_eq_of_first (ht : s.tables.Hold (Contents.ofPeripherals mpu ps)) {k : Nat}
    (hk : k < ps.length) (hbefore : ∀ Q ∈ ps.take k, Like.accepts ps[k].name Q.name = false) :
    resolve s ps[k].name = resolvePeripheral s (Contents.peripheralAt ps k hk) := by
  unfold resolve
  rw [fetchPeripheralByName_eq ht hk hbefore]
  rfl

end Fetch

/-! ## Ingest then resolve -/

/-- **Ingesting a description and resolving it gives the description back.** After a successful
ingestion of a device into a new store in memory, its tables small, the `k`-th peripheral row
has the name of the device's `k`-th peripheral `P`; following the names `derivedFrom` gives from
`P` through the device ends at a peripheral `R`; and the row resolves to `P`'s name, base address
and description, `R`'s name when `P` is derived, and `R`'s registers sorted by name, each with its
fields sorted by bit offset, every field's bits normalized. Resolving `P`'s name gives the same
when no earlier peripheral's name matches it as a pattern. -/
theorem ingest_then_resolve_reproduces {d : Device} {M : Machine} {sum : Summary} {s : Store}
    (h : ((ingest Store.inMemory d : Sim _).run M).1 = (.ok sum, s)) (hsmall : s.tables.Small)
    (k : Nat) (hk : k < d.peripherals.length) :
    ∃ p, s.tables.peripherals.toList[k]? = some p ∧ p.row.name = d.peripherals[k].name ∧
      (∃ R, OwnerIn d.peripherals d.peripherals[k] R) ∧
      ∀ R, OwnerIn d.peripherals d.peripherals[k] R →
        ∃ rp, resolvePeripheral s p = .ok rp ∧ rp.Reproduces d.peripherals[k] R ∧
          ((∀ Q ∈ d.peripherals.take k, Like.accepts d.peripherals[k].name Q.name = false) →
            resolve s d.peripherals[k].name = .ok rp) := by
  obtain ⟨-, hadmits, ht⟩ := ingest_holds h hsmall
  -- the store is reachable, so its index of children is exact
  have hindex : s.tables.Indexed := by
    have hreach := Store.Reachable.ingested d M .inMemory
    rw [h] at hreach
    exact hreach.built.indexed
  refine ⟨Contents.peripheralAt d.peripherals k hk, getElem?_peripherals ht hk, rfl,
    hadmits.exists_ownerIn k hk, fun R hR => ?_⟩
  obtain ⟨rp, hrp, hrepr⟩ := resolvePeripheral_reproduces ht hindex hadmits hk hR
  exact ⟨rp, hrp, hrepr, fun hbefore => by rw [resolve_eq_of_first ht hk hbefore, hrp]⟩

/-- A device whose third peripheral derives from the second, which derives from the first; the
third declares a register of its own, which is ignored. -/
theorem resolve_reproduces_derived_chain :
    let en : BitField := { name := "EN", bitOffset := some "0", bitWidth := some "1" }
    let mode : BitField := { name := "MODE", bitRange := some "[5:4]" }
    let cr : Register := { name := "CR", addressOffset := "0x0", fields := [mode, en] }
    let br : Register := { name := "BR", addressOffset := "0x4" }
    let d : Device := { name := "D", peripherals := [
      { name := "UART0", baseAddress := "0x40000000", registers := [cr, br] },
      { name := "UART1", baseAddress := "0x40001000", derivedFrom := some "UART0" },
      { name := "UART2", baseAddress := "0x40002000", derivedFrom := some "UART1",
        registers := [br] }] }
    let s := ((ingest Store.inMemory d : Sim _).run default).1.2
    ((ingest Store.inMemory d : Sim _).run default).1 =
        (.ok { mpuId := 1, peripherals := 3, derived := 2, registers := 2, fields := 2 }, s) ∧
      s.tables.Small ∧ 2 < d.peripherals.length ∧
      ∃ p, s.tables.peripherals.toList[2]? = some p ∧ p.row.name = "UART2" ∧
        (∃ R, OwnerIn d.peripherals d.peripherals[2] R) ∧
        ∀ R, OwnerIn d.peripherals d.peripherals[2] R →
          ∃ rp, resolvePeripheral s p = .ok rp ∧ rp.Reproduces d.peripherals[2] R ∧
            ((∀ Q ∈ d.peripherals.take 2, Like.accepts "UART2" Q.name = false) →
              resolve s "UART2" = .ok rp) := by
  intro en mode cr br d s
  have hrun : ((ingest Store.inMemory d : Sim _).run default).1 =
      (.ok { mpuId := 1, peripherals := 3, derived := 2, registers := 2, fields := 2 }, s) :=
    Prod.ext (by decide +kernel) rfl
  have hsmall : s.tables.Small := by decide +kernel
  exact ⟨hrun, hsmall, by decide, ingest_then_resolve_reproduces hrun hsmall 2 (by decide)⟩

end RegisterAtlas
