import RegisterAtlas.Proofs.Store.Names
/-!
# What an ingestion into an empty store enters

An ingestion into a store in memory that started empty numbers the rows of each table `1, 2, …`
in the order it enters them, so its tables are fixed by the rows alone. `Contents` lists those
rows by table, and `Tables.Hold` says that tables hold them so numbered.

A step of an ingestion `Runs P x Q` when, started on a store in memory whose tables satisfy `P`,
it leaves a store that a run of inserts reaches and, when it answers `a` and leaves small tables,
a store in memory whose tables satisfy `Q a`. The rules below put such steps together the way the
ingestion does, and `Runs.enter` says what entering one row does.

* `numberedFrom`: rows with consecutive ids.
* `Tables.Hold`, `Tables.Hold.add`: tables holding numbered rows, and one more row appended.
* `Runs` and its rules.
* `Contents.ofPeripherals`: the rows entering a description's peripherals puts into an empty store.
* `ingest_holds`: a successful ingestion into an empty store in memory leaves those rows, and
  each peripheral `Admitted` after those before it.
-/

namespace RegisterAtlas

/-! ## Numbered rows -/

section Numbered

variable {α β : Type}

/-- Rows with the ids `n + 1, n + 2, …`, in order. -/
def numberedFrom : Nat → List α → List (Stored α)
  | _, [] => []
  | n, r :: rs => ⟨((n + 1 : Nat) : RowId), r⟩ :: numberedFrom (n + 1) rs

@[simp] theorem numberedFrom_nil (n : Nat) : numberedFrom n ([] : List α) = [] := rfl

@[simp] theorem length_numberedFrom (n : Nat) (rows : List α) :
    (numberedFrom n rows).length = rows.length := by
  induction rows generalizing n with
  | nil => rfl
  | cons r rs ih => simp [numberedFrom, ih]

theorem numberedFrom_append (n : Nat) (xs ys : List α) :
    numberedFrom n (xs ++ ys) = numberedFrom n xs ++ numberedFrom (n + xs.length) ys := by
  induction xs generalizing n with
  | nil => rfl
  | cons x xs ih =>
    have hshift : n + 1 + xs.length = n + (xs.length + 1) := by omega
    rw [List.cons_append, numberedFrom, numberedFrom, ih, List.length_cons, List.cons_append,
      hshift]

theorem numberedFrom_concat (n : Nat) (rows : List α) (r : α) :
    numberedFrom n (rows ++ [r]) =
      numberedFrom n rows ++ [⟨((n + rows.length + 1 : Nat) : RowId), r⟩] := by
  rw [numberedFrom_append]
  rfl

@[simp] theorem rows_numberedFrom (n : Nat) (rows : List α) :
    (numberedFrom n rows).map (·.row) = rows := by
  induction rows generalizing n with
  | nil => rfl
  | cons r rs ih => simp [numberedFrom, ih]

/-- The ids of numbered rows are the numbers after `n`. -/
theorem ids_numberedFrom (n : Nat) (rows : List α) :
    (numberedFrom n rows).map (·.id) =
      (List.range rows.length).map fun (k : Nat) => ((n + k : Nat) : Int) + 1 := by
  induction rows generalizing n with
  | nil => rfl
  | cons r rs ih =>
    rw [numberedFrom, List.map_cons, ih, List.length_cons, List.range_succ_eq_map]
    simp only [List.map_cons, List.map_map]
    congr 1
    refine List.map_congr_left fun k _ => ?_
    simp only [Function.comp_apply]
    push_cast
    ring

theorem getElem?_numberedFrom (n : Nat) (rows : List α) (k : Nat) :
    (numberedFrom n rows)[k]? = rows[k]?.map fun r => ⟨((n + k + 1 : Nat) : RowId), r⟩ := by
  induction rows generalizing n k with
  | nil => rfl
  | cons r rs ih =>
    cases k with
    | zero => rfl
    | succ k =>
      rw [numberedFrom, List.getElem?_cons_succ, ih, List.getElem?_cons_succ,
        show n + 1 + k + 1 = n + (k + 1) + 1 by omega]

/-- The rows numbered after `n` have ids above `n`. -/
theorem lt_id_of_mem_numberedFrom {n : Nat} {rows : List α} {x : Stored α}
    (hx : x ∈ numberedFrom n rows) : (n : RowId) < x.id := by
  obtain ⟨k, hk⟩ := List.getElem?_of_mem hx
  rw [getElem?_numberedFrom] at hk
  obtain ⟨r, -, rfl⟩ := Option.map_eq_some_iff.1 hk
  show ((n : Nat) : Int) < ((n + k + 1 : Nat) : Int)
  omega

theorem row_mem_of_mem_numberedFrom {n : Nat} {rows : List α} {x : Stored α}
    (hx : x ∈ numberedFrom n rows) : x.row ∈ rows := by
  rw [← rows_numberedFrom n rows]
  exact List.mem_map_of_mem hx

@[simp] theorem map_row_numberedFrom (n : Nat) (rows : List α) (g : α → β) :
    (numberedFrom n rows).map (fun x => g x.row) = rows.map g := by
  conv_rhs => rw [← rows_numberedFrom n rows]
  rw [List.map_map]
  rfl

theorem numberedFrom_map (n : Nat) (rows : List α) (g : α → β) :
    numberedFrom n (rows.map g) = (numberedFrom n rows).map fun x => ⟨x.id, g x.row⟩ := by
  induction rows generalizing n with
  | nil => rfl
  | cons r rs ih => simp [numberedFrom, ih]

end Numbered

/-! ## The rows of each table -/

/-- The rows of each table, in order, without their ids. -/
structure Contents where
  mpus : List MpuRow := []
  peripherals : List PeripheralRow := []
  registers : List RegisterRow := []
  fields : List FieldRow := []

namespace Contents

/-- Append a row to its table. -/
def add (c : Contents) : Row → Contents
  | .mpu r => { c with mpus := c.mpus ++ [r] }
  | .peripheral r => { c with peripherals := c.peripherals ++ [r] }
  | .register r => { c with registers := c.registers ++ [r] }
  | .field r => { c with fields := c.fields ++ [r] }

/-- The number of rows of a table. -/
def count (c : Contents) : Table → Nat
  | .mpus => c.mpus.length
  | .peripherals => c.peripherals.length
  | .registers => c.registers.length
  | .fields => c.fields.length

/-- A row whose unique key is not in its table: for the tables with a unique column, a name that
no row of the table has. -/
def Fresh (c : Contents) : Row → Prop
  | .mpu r => ∀ x ∈ c.mpus, x.name ≠ r.name
  | .peripheral r => ∀ x ∈ c.peripherals, x.name ≠ r.name
  | .register _ => True
  | .field _ => True

end Contents

namespace Tables

/-- The tables hold `c`: the rows of each table are `c`'s, numbered `1, 2, …`. -/
def Hold (t : Tables) (c : Contents) : Prop :=
  t.mpus.toList = numberedFrom 0 c.mpus ∧ t.peripherals.toList = numberedFrom 0 c.peripherals ∧
    t.registers.toList = numberedFrom 0 c.registers ∧ t.fields.toList = numberedFrom 0 c.fields

theorem hold_empty : ({} : Tables).Hold {} := ⟨rfl, rfl, rfl, rfl⟩

theorem Hold.ids {t : Tables} {c : Contents} (h : t.Hold c) (tb : Table) :
    t.ids tb = (numberedFrom 0 (match tb with
      | .mpus => (c.mpus.map Row.mpu)
      | .peripherals => c.peripherals.map Row.peripheral
      | .registers => c.registers.map Row.register
      | .fields => c.fields.map Row.field)).map (·.id) := by
  obtain ⟨hm, hp, hr, hf⟩ := h
  cases tb <;> simp [Tables.ids, hm, hp, hr, hf, ids_numberedFrom]

/-- Tables holding numbered rows are numbered. -/
theorem Hold.numbered {t : Tables} {c : Contents} (h : t.Hold c) : t.Numbered := by
  intro tb
  rw [h.ids tb, ids_numberedFrom]
  simp

theorem Hold.length_ids {t : Tables} {c : Contents} (h : t.Hold c) (tb : Table) :
    (t.ids tb).length = c.count tb := by
  rw [h.ids tb]
  cases tb <;> simp [Contents.count]

/-- **Appending a row keeps numbered rows.** The row appended with the id after its table's
count is the next of its table's numbered rows. -/
theorem Hold.add {t : Tables} {c : Contents} (h : t.Hold c) (row : Row) :
    (t.add ((c.count row.table + 1 : Nat) : RowId) row).Hold (c.add row) := by
  obtain ⟨hm, hp, hr, hf⟩ := h
  cases row <;>
  · simp only [Tables.add, Contents.add, Contents.count, Row.table]
    refine ⟨?_, ?_, ?_, ?_⟩ <;>
    simp [Entity.rows, Entity.setRows, Tables.push, numberedFrom_concat, hm, hp, hr, hf]

/-- A row that passes the unique check of a store holding `c` is fresh in `c`. -/
theorem Hold.fresh {s : Store} {c : Contents} (h : s.tables.Hold c) {row : Row}
    (hrow : s.PassesUnique row) : c.Fresh row := by
  obtain ⟨hm, hp, -, -⟩ := h
  cases row with
  | mpu r =>
    intro x hx hname
    have hx' : x ∈ (numberedFrom 0 c.mpus).map (·.row) := by rwa [rows_numberedFrom]
    obtain ⟨y, hy, rfl⟩ := List.mem_map.1 hx'
    rw [← hm, Array.mem_toList_iff] at hy
    exact hrow r.name rfl y hy (by simp [Entity.uniqueKey, hname])
  | peripheral r =>
    intro x hx hname
    have hx' : x ∈ (numberedFrom 0 c.peripherals).map (·.row) := by rwa [rows_numberedFrom]
    obtain ⟨y, hy, rfl⟩ := List.mem_map.1 hx'
    rw [← hp, Array.mem_toList_iff] at hy
    exact hrow r.name rfl y hy (by simp [Entity.uniqueKey, hname])
  | register r => trivial
  | field r => trivial

end Tables

/-! ## Steps run on a store in memory -/

/-- A run of inserts to small tables started from small tables. -/
theorem Store.Inserts.small {s s' : Store} (h : Store.Inserts s s') (hsmall : s'.tables.Small) :
    s.tables.Small := by
  induction h with
  | refl => exact hsmall
  | tail _ step ih =>
    obtain ⟨row, M, rfl⟩ := step
    apply ih
    rcases Store.insert_cases _ row M with hsame | ⟨id, -, htables⟩
    · rwa [hsame] at hsmall
    · rw [htables] at hsmall
      exact hsmall.of_add

/-- A step of an ingestion that leaves a store a run of inserts reaches, and that, started on a
store in memory whose tables satisfy `P`, when it answers `a` and leaves small tables, leaves a
store in memory whose tables satisfy `Q a`. -/
structure Runs (P : Tables → Prop) (x : IngestM Sim α) (Q : α → Tables → Prop) : Prop where
  grows : Grows x
  ok : ∀ (s : Store) (M : Machine) (a : α), s.backing = .memory → P s.tables →
    (x.exec s M).1.1 = .ok a → (x.exec s M).1.2.tables.Small →
      (x.exec s M).1.2.backing = .memory ∧ Q a (x.exec s M).1.2.tables

namespace Runs

variable {P P' : Tables → Prop} {Q Q' : α → Tables → Prop}

theorem pure {a : α} (h : ∀ t, P t → Q a t) : Runs P (pure a) Q := by
  refine ⟨Grows.pure a, fun s M b hmem hp hok _ => ?_⟩
  cases hok
  exact ⟨hmem, h _ hp⟩

theorem throw (e : AtlasError) : Runs P (throw e : IngestM Sim α) Q := by
  refine ⟨Grows.throw e, fun s M b _ _ hok _ => ?_⟩
  cases hok

theorem note (level : Level) (message : String) :
    Runs P (RegisterAtlas.note level message : IngestM Sim Unit) (fun _ => P) := by
  refine ⟨Grows.note level message, fun s M b hmem hp _ _ => ?_⟩
  rw [IngestM.exec_note]
  exact ⟨hmem, hp⟩

theorem conseq {x : IngestM Sim α} (hx : Runs P x Q) (hP : ∀ t, P' t → P t)
    (hQ : ∀ a t, Q a t → Q' a t) : Runs P' x Q' := by
  refine ⟨hx.grows, fun s M a hmem hp hok hsmall => ?_⟩
  obtain ⟨hmem', hq⟩ := hx.ok s M a hmem (hP _ hp) hok hsmall
  exact ⟨hmem', hQ a _ hq⟩

/-- Steps one after another: the second starts from the tables the first left, which are small
when the tables at the end are, since the second only inserts. -/
theorem bind {x : IngestM Sim α} {f : α → IngestM Sim β} {R : β → Tables → Prop}
    (hx : Runs P x Q) (hf : ∀ a, Runs (Q a) (f a) R) : Runs P (x >>= f) R := by
  refine ⟨Grows.bind hx.grows fun a => (hf a).grows, fun s M b hmem hp hok hsmall => ?_⟩
  rcases hxr : x.exec s M with ⟨⟨e | a, s'⟩, M'⟩
  · have hstop : (x >>= f).exec s M = ((.error e, s'), M') := by rw [IngestM.exec_bind, hxr]
    rw [hstop] at hok
    cases hok
  · have hthen : (x >>= f).exec s M = (f a).exec s' M' := by rw [IngestM.exec_bind, hxr]
    rw [hthen] at hok hsmall ⊢
    have hmid := Store.Inserts.small ((hf a).grows s' M') hsmall
    have hanswer : (x.exec s M).1.1 = .ok a := by rw [hxr]
    have hstore : (x.exec s M).1.2 = s' := by rw [hxr]
    have hxok := hx.ok s M a hmem hp hanswer (by rw [hstore]; exact hmid)
    rw [hstore] at hxok
    exact (hf a).ok s' M' b hxok.1 hxok.2 hok hsmall

theorem map {x : IngestM Sim α} (hx : Runs P x Q) (g : α → β) :
    Runs P (g <$> x) fun b t => ∃ a, g a = b ∧ Q a t := by
  refine ⟨Grows.map hx.grows g, fun s M b hmem hp hok hsmall => ?_⟩
  rw [IngestM.exec_map] at hok hsmall ⊢
  rcases hxr : (x.exec s M).1.1 with e | a
  · rw [hxr] at hok
    cases hok
  · rw [hxr] at hok
    obtain ⟨hmem', hq⟩ := hx.ok s M a hmem hp hxr hsmall
    exact ⟨hmem', a, Except.ok.inj hok, hq⟩

theorem ite {c : Prop} [Decidable c] {x y : IngestM Sim α} (hx : c → Runs P x Q)
    (hy : ¬ c → Runs P y Q) : Runs P (if c then x else y) Q := by
  by_cases h : c
  · rw [if_pos h]
    exact hx h
  · rw [if_neg h]
    exact hy h

/-- A step after an answer given at once is the step on that answer. -/
theorem pure_bind {a : α} {f : α → IngestM Sim β} {R : β → Tables → Prop}
    (hf : Runs P (f a) R) : Runs P (Pure.pure a >>= f) R := by
  have hrun : ∀ s M, (Pure.pure a >>= f).exec s M = (f a).exec s M := fun s M => by
    rw [IngestM.exec_bind, IngestM.exec_pure]
  refine ⟨fun s M => by rw [hrun]; exact hf.grows s M, fun s M b hmem hp hok hsmall => ?_⟩
  rw [hrun] at hok hsmall ⊢
  exact hf.ok s M b hmem hp hok hsmall

/-- A step after an error stops at the error. -/
theorem throw_bind (e : AtlasError) (f : α → IngestM Sim β) {R : β → Tables → Prop} :
    Runs P (MonadExcept.throw e >>= f) R := by
  have hrun : ∀ s M, (MonadExcept.throw e >>= f : IngestM Sim β).exec s M = ((.error e, s), M) :=
    fun s M => by rw [IngestM.exec_bind, IngestM.exec_throw]
  refine ⟨fun s M => by rw [hrun]; exact Store.Inserts.refl s, fun s M b _ _ hok _ => ?_⟩
  rw [hrun] at hok
  cases hok

/-- A fact about nothing the step touches holds after it. -/
theorem frame {x : IngestM Sim α} (hx : Runs P x Q) (φ : Prop) :
    Runs (fun t => φ ∧ P t) x fun a t => φ ∧ Q a t := by
  refine ⟨hx.grows, fun s M a hmem ⟨hφ, hp⟩ hok hsmall => ?_⟩
  obtain ⟨hmem', hq⟩ := hx.ok s M a hmem hp hok hsmall
  exact ⟨hmem', hφ, hq⟩

/-- A fact about nothing the step touches may be assumed. -/
theorem assume {x : IngestM Sim α} (φ : Prop) (hx : Grows x) (h : φ → Runs P x Q) :
    Runs (fun t => φ ∧ P t) x Q :=
  ⟨hx, fun s M a hmem ⟨hφ, hp⟩ hok hsmall => (h hφ).ok s M a hmem hp hok hsmall⟩

/-- A fold whose step takes an invariant of the items done so far to the next. -/
theorem foldlM {γ : Type} {f : α → γ → IngestM Sim α}
    (I : List γ → α → Tables → Prop)
    (hf : ∀ done c a, Runs (I done a) (f a c) (I (done ++ [c]))) :
    ∀ (xs done : List γ) (init : α), Runs (I done init) (xs.foldlM f init) (I (done ++ xs))
  | [], done, init => by
    rw [List.append_nil]
    exact pure fun _ h => h
  | c :: cs, done, init => by
    rw [List.foldlM_cons]
    refine bind (hf done c init) fun a => ?_
    have hrest := foldlM I hf cs (done ++ [c]) a
    rwa [List.append_assoc, List.singleton_append] at hrest

/-- **Entering a row.** On tables holding numbered rows, an entered row gets the id after its
table's count and is appended to its table; its unique key was not in the table. -/
theorem enter [Entity α] (row : α)
    (hrow : ∀ s : Store, (s.insert row : Sim _) = insertRow s (Entity.toRow row)) (c : Contents) :
    Runs (·.Hold c) (RegisterAtlas.enter row) fun id t =>
      id = ((c.count (Entity.toRow row).table + 1 : Nat) : RowId) ∧
        t.Hold (c.add (Entity.toRow row)) ∧
        c.Fresh (Entity.toRow row) := by
  refine ⟨Grows.enter row hrow, fun s M a hmem hhold hok hsmall => ?_⟩
  rw [IngestM.exec_enter, hrow s, insertRow_memory s _ M hmem] at hok hsmall ⊢
  cases hassign : s.assignRow (Entity.toRow row) with
  | error e =>
    rw [hassign] at hok
    cases hok
  | ok id =>
    rw [hassign] at hok hsmall
    dsimp only at hok hsmall ⊢
    cases hok
    -- the id is one past the table's numbered ids, the tables after it being small
    have hnum := hhold.numbered
    have hid : a = ((c.count (Entity.toRow row).table + 1 : Nat) : RowId) := by
      rw [Store.assignRow_ok hassign,
        Tables.next_of_numbered (hnum _) (Tables.Small.of_add hsmall _), hhold.length_ids]
      push_cast
      rfl
    refine ⟨hmem, hid, ?_, hhold.fresh (Store.passesUnique_of_assignRow hassign)⟩
    rw [hid]
    exact hhold.add _

end Runs


/-! ## The rows of a description -/

/-- The registers a peripheral of a description owns: its own, unless it is derived. -/
def Peripheral.ownRegisters (P : Peripheral) : List Register :=
  match P.derivedFrom with
  | some _ => []
  | none => P.registers

/-- The MPU row of a description. -/
def Device.mpuRow (d : Device) : MpuRow := { name := d.name, description := nonEmpty d.description }

namespace Contents

/-- The row of a register of a description, under the peripheral row `peripheralId`. -/
def registerRow (peripheralId : RowId) (r : Register) : RegisterRow :=
  { peripheralId := peripheralId, name := r.name, addressOffset := r.addressOffset,
    resetValue := nonEmpty r.resetValue, description := nonEmpty r.description }

/-- The row of a field whose bits normalize to `p`, under the register row `registerId`. -/
def fieldRow (registerId : RowId) (f : BitField) (p : Bits.Position) : FieldRow :=
  { registerId := registerId, name := f.name, numBits := p.width, bitOffset := p.offset,
    description := nonEmpty f.description }

/-- The rows of the fields of a register whose bits normalize, under the register row
`registerId`. -/
def fieldRows (registerId : RowId) (r : Register) : List FieldRow :=
  r.fields.filterMap fun f => match Bits.normalize f with
    | .ok p => some (fieldRow registerId f p)
    | .error _ => none

/-- The ids the peripherals `ps`, entered one after another into an empty store, get, by name
and the latest first. -/
def peripheralIds (ps : List Peripheral) : PeripheralIds :=
  ((numberedFrom 0 ps).map fun p => (p.row.name, p.id)).reverse

/-- The row of a peripheral entered after the peripherals `ps`, under the MPU row 1: derived
from the latest of them with the name it gives. -/
def peripheralRow (ps : List Peripheral) (P : Peripheral) : PeripheralRow :=
  { mpuId := 1, derivedFromId := P.derivedFrom.bind fun t => List.lookup t (peripheralIds ps),
    name := P.name,
    baseAddress := P.baseAddress, description := nonEmpty P.description }

/-- What entering the MPU row `mpu` and then the peripherals `ps` puts into an empty store: the
peripherals' rows, the rows of the registers each owns under its row, and the rows of their
fields under theirs. -/
def ofPeripherals (mpu : MpuRow) (ps : List Peripheral) : Contents where
  mpus := [mpu]
  peripherals := ps.mapIdx fun k P => peripheralRow (ps.take k) P
  registers := (numberedFrom 0 ps).flatMap fun p => p.row.ownRegisters.map (registerRow p.id)
  fields := (numberedFrom 0 (ps.flatMap Peripheral.ownRegisters)).flatMap fun r =>
    fieldRows r.id r.row

theorem peripheralIds_concat (ps : List Peripheral) (P : Peripheral) :
    peripheralIds (ps ++ [P]) = (P.name, ((ps.length + 1 : Nat) : RowId)) :: peripheralIds ps := by
  simp [peripheralIds, numberedFrom_concat]

theorem length_registers_ofPeripherals (mpu : MpuRow) (ps : List Peripheral) :
    (ofPeripherals mpu ps).registers.length = (ps.flatMap Peripheral.ownRegisters).length := by
  induction ps using List.reverseRecOn with
  | nil => rfl
  | append_singleton ps P ih =>
    simp only [ofPeripherals, numberedFrom_concat, List.flatMap_append, List.length_append]
      at ih ⊢
    simp [ih]

/-- **One more peripheral.** Entering a peripheral after `ps` appends its row, and, when it is not
derived, its registers' rows under its id and their fields' rows under theirs. -/
theorem ofPeripherals_concat (mpu : MpuRow) (ps : List Peripheral) (P : Peripheral) :
    ofPeripherals mpu (ps ++ [P]) =
      { ofPeripherals mpu ps with
        peripherals := (ofPeripherals mpu ps).peripherals ++ [peripheralRow ps P]
        registers := (ofPeripherals mpu ps).registers ++
          P.ownRegisters.map (registerRow ((ps.length + 1 : Nat) : RowId))
        fields := (ofPeripherals mpu ps).fields ++
          (numberedFrom (ofPeripherals mpu ps).registers.length P.ownRegisters).flatMap fun r =>
            fieldRows r.id r.row } := by
  have hperipherals : (ps ++ [P]).mapIdx (fun k Q => peripheralRow ((ps ++ [P]).take k) Q) =
      ps.mapIdx (fun k Q => peripheralRow (ps.take k) Q) ++ [peripheralRow ps P] := by
    rw [List.mapIdx_concat, List.take_left]
    congr 1
    -- the peripherals before read the same prefix of the longer list
    rw [List.mapIdx_eq_mapIdx_iff]
    intro k hk
    rw [List.take_append_of_le_length (le_of_lt hk)]
  have hregisters : (numberedFrom 0 (ps ++ [P])).flatMap
      (fun p => p.row.ownRegisters.map (registerRow p.id)) =
      (numberedFrom 0 ps).flatMap (fun p => p.row.ownRegisters.map (registerRow p.id)) ++
        P.ownRegisters.map (registerRow ((ps.length + 1 : Nat) : RowId)) := by
    simp [numberedFrom_concat]
  have hfields : (numberedFrom 0 ((ps ++ [P]).flatMap Peripheral.ownRegisters)).flatMap
      (fun r => fieldRows r.id r.row) =
      (numberedFrom 0 (ps.flatMap Peripheral.ownRegisters)).flatMap
          (fun r => fieldRows r.id r.row) ++
        (numberedFrom (ofPeripherals mpu ps).registers.length P.ownRegisters).flatMap
          (fun r => fieldRows r.id r.row) := by
    rw [List.flatMap_append, List.flatMap_singleton, numberedFrom_append, List.flatMap_append,
      length_registers_ofPeripherals, Nat.zero_add]
  simp only [ofPeripherals, Contents.mk.injEq]
  exact ⟨trivial, hperipherals, hregisters, hfields⟩

end Contents

/-! ## Ingesting into an empty store -/

/-- Entering a field whose bits normalize appends its row. -/
theorem runs_enterField (registerId : RowId) (r : Register) (f : BitField) (sum : Summary)
    (c : Contents) :
    Runs (·.Hold c) (enterField registerId r f sum) fun _ t =>
      ∃ p, Bits.normalize f = .ok p ∧
        t.Hold (c.add (.field (Contents.fieldRow registerId f p))) := by
  unfold enterField
  split
  · exact Runs.throw _
  · rename_i p hp
    dsimp only
    refine Runs.ite (fun _ => Runs.bind (Runs.note _ _) fun _ => ?_) fun _ => ?_
    all_goals
      refine Runs.bind (Runs.map (Runs.enter _ (by exact fun _ => rfl) c) _) fun _ =>
        Runs.pure fun t ⟨_, _, _, hhold, _⟩ => ⟨p, hp, hhold⟩

theorem fieldRows_concat (registerId : RowId) (r : Register) (fs : List BitField) (f : BitField)
    {p : Bits.Position} (hp : Bits.normalize f = .ok p) :
    Contents.fieldRows registerId { r with fields := fs ++ [f] } =
      Contents.fieldRows registerId { r with fields := fs } ++
        [Contents.fieldRow registerId f p] := by
  simp [Contents.fieldRows, List.filterMap_append, hp]

/-- Entering a register appends its row, under the peripheral, and its fields' rows under the
id it gets, one past the registers before it; every field's bits normalize. -/
theorem runs_enterRegister (peripheralId : RowId) (r : Register) (sum : Summary) (c : Contents) :
    Runs (·.Hold c) (enterRegister peripheralId r sum) fun _ t =>
      (∀ f ∈ r.fields, ∃ p, Bits.normalize f = .ok p) ∧
      t.Hold { c with
        registers := c.registers ++ [Contents.registerRow peripheralId r]
        fields := c.fields ++ Contents.fieldRows ((c.registers.length + 1 : Nat) : RowId) r } := by
  unfold enterRegister
  refine Runs.bind (Runs.note _ _) fun _ =>
    Runs.bind (Runs.enter _ (by exact fun _ => rfl) c) fun id => ?_
  -- the fields one after another, under the register's id: an invariant of those done so far
  let entered : List BitField → Contents := fun done =>
    { c with
      registers := c.registers ++ [Contents.registerRow peripheralId r]
      fields := c.fields ++ Contents.fieldRows id { r with fields := done } }
  refine (Runs.foldlM (fun done _ t =>
      (id = ((c.registers.length + 1 : Nat) : RowId) ∧
        ∀ f ∈ done, ∃ p, Bits.normalize f = .ok p) ∧ t.Hold (entered done))
    (fun done f acc => ?_) r.fields [] _).conseq ?_ ?_
  · refine ((runs_enterField id r f acc (entered done)).frame _).conseq (fun _ h => h) ?_
    rintro _ t ⟨⟨hid, hdone⟩, p, hp, hhold⟩
    refine ⟨⟨hid, fun g hg => ?_⟩, ?_⟩
    · rcases List.mem_append.1 hg with hg | hg
      · exact hdone g hg
      · rw [List.mem_singleton.1 hg]
        exact ⟨p, hp⟩
    · have hrows := fieldRows_concat id r done f hp
      simp only [entered, Contents.add] at hhold ⊢
      rw [hrows, ← List.append_assoc]
      exact hhold
  · rintro t ⟨hid, hhold, -⟩
    refine ⟨⟨hid, fun _ h => by cases h⟩, ?_⟩
    simpa [entered, Contents.add, Contents.fieldRows, Entity.toRow, Contents.registerRow]
      using hhold
  · rintro _ t ⟨⟨hid, hall⟩, hhold⟩
    refine ⟨by simpa using hall, ?_⟩
    simpa [entered, hid] using hhold

/-- What a successful ingestion shows of a peripheral of a description against those entered
before it: its name is new, the peripheral it is derived from is one of them, and the bits of the
fields of the registers it owns normalize. -/
def Admitted (ps : List Peripheral) (P : Peripheral) : Prop :=
  (∀ Q ∈ ps, Q.name ≠ P.name) ∧
    (∀ t ∈ P.derivedFrom, (List.lookup t (Contents.peripheralIds ps)).isSome) ∧
    ∀ R ∈ P.ownRegisters, ∀ f ∈ R.fields, ∃ p, Bits.normalize f = .ok p

/-- Entering the registers of a peripheral one after another, under its row `peripheralId`:
their rows, and their fields' rows under the ids they get. -/
theorem runs_enterRegisters (peripheralId : RowId) (rs : List Register) (sum : Summary)
    (c : Contents) :
    Runs (·.Hold c) (rs.foldlM (fun acc r => enterRegister peripheralId r acc) sum) fun _ t =>
      (∀ R ∈ rs, ∀ f ∈ R.fields, ∃ p, Bits.normalize f = .ok p) ∧
      t.Hold { c with
        registers := c.registers ++ rs.map (Contents.registerRow peripheralId)
        fields := c.fields ++ (numberedFrom c.registers.length rs).flatMap fun r =>
          Contents.fieldRows r.id r.row } := by
  let entered : List Register → Contents := fun done =>
    { c with
      registers := c.registers ++ done.map (Contents.registerRow peripheralId)
      fields := c.fields ++ (numberedFrom c.registers.length done).flatMap fun r =>
        Contents.fieldRows r.id r.row }
  refine (Runs.foldlM (fun done _ t =>
      (∀ R ∈ done, ∀ f ∈ R.fields, ∃ p, Bits.normalize f = .ok p) ∧
        t.Hold (entered done))
    (fun done R acc => ?_) rs [] sum).conseq ?_ fun _ _ h => by simpa using h
  · refine ((runs_enterRegister peripheralId R acc (entered done)).frame _).conseq
      (fun _ h => h) ?_
    rintro _ t ⟨hdone, hfields, hhold⟩
    refine ⟨fun R' hR' => ?_, ?_⟩
    · rcases List.mem_append.1 hR' with hR' | hR'
      · exact hdone R' hR'
      · rw [List.mem_singleton.1 hR']
        exact hfields
    · simp only [entered, List.length_append, List.length_map] at hhold ⊢
      rw [List.map_append, List.map_singleton, ← List.append_assoc, numberedFrom_concat,
        List.flatMap_append, List.flatMap_singleton, ← List.append_assoc]
      exact hhold
  · intro t hhold
    exact ⟨by simp, by simpa [entered] using hhold⟩

/-- The peripherals of a description, each admitted after those before it. -/
inductive Admits : List Peripheral → Prop
  | nil : Admits []
  | snoc {ps : List Peripheral} {P : Peripheral} :
      Admits ps → Admitted ps P → Admits (ps ++ [P])

theorem Contents.names_peripherals_ofPeripherals (mpu : MpuRow) (ps : List Peripheral) :
    (ofPeripherals mpu ps).peripherals.map (·.name) = ps.map (·.name) := by
  refine List.ext_getElem (by simp [ofPeripherals]) fun k _ _ => ?_
  simp [ofPeripherals, peripheralRow]

/-- The peripheral after `ps` is admitted when its row was fresh, the peripheral it names to
derive from was found, and its fields normalize. -/
theorem admitted_of_fresh {mpu : MpuRow} {ps : List Peripheral} {P : Peripheral}
    (hfresh : (Contents.ofPeripherals mpu ps).Fresh (.peripheral (Contents.peripheralRow ps P)))
    (hderived : ∀ t ∈ P.derivedFrom, (List.lookup t (Contents.peripheralIds ps)).isSome)
    (hfields : ∀ R ∈ P.ownRegisters, ∀ f ∈ R.fields, ∃ p, Bits.normalize f = .ok p) :
    Admitted ps P := by
  refine ⟨fun Q hQ hname => ?_, hderived, hfields⟩
  have hmem : Q.name ∈ (Contents.ofPeripherals mpu ps).peripherals.map (·.name) := by
    rw [Contents.names_peripherals_ofPeripherals]
    exact List.mem_map_of_mem hQ
  obtain ⟨x, hx, hxname⟩ := List.mem_map.1 hmem
  exact hfresh x hx (by rw [hxname, hname]; rfl)

/-- **Entering a peripheral** after the peripherals `ps` appends its row, derived from the latest
of them with the name it gives, and, when it is not derived, its registers and their fields; the
peripheral is admitted after `ps`. -/
theorem runs_enterPeripheral (mpu : MpuRow) (ps : List Peripheral) (sum : Summary)
    (P : Peripheral) :
    Runs (·.Hold (Contents.ofPeripherals mpu ps))
      (enterPeripheral 1 (Contents.peripheralIds ps, sum) P) fun acc t =>
        acc.1 = Contents.peripheralIds (ps ++ [P]) ∧ Admitted ps P ∧
          t.Hold (Contents.ofPeripherals mpu (ps ++ [P])) := by
  unfold enterPeripheral
  refine Runs.bind (Runs.note _ _) fun _ => ?_
  extract_lets sum' jp
  have hcount : (Contents.ofPeripherals mpu ps).count
      (Entity.toRow (Contents.peripheralRow ps P)).table = ps.length := by
    simp [Contents.count, Contents.ofPeripherals, Entity.toRow, Row.table]
  have hjp : ∀ derived,
      derived = P.derivedFrom.bind (fun t => List.lookup t (Contents.peripheralIds ps)) →
      (∀ t ∈ P.derivedFrom, (List.lookup t (Contents.peripheralIds ps)).isSome) →
      Runs (·.Hold (Contents.ofPeripherals mpu ps)) (jp derived) fun acc t =>
        acc.1 = Contents.peripheralIds (ps ++ [P]) ∧ Admitted ps P ∧
          t.Hold (Contents.ofPeripherals mpu (ps ++ [P])) := by
    rintro derived rfl hderived
    simp only [jp]
    refine Runs.bind (Runs.enter (Contents.peripheralRow ps P) (by exact fun _ => rfl) _)
      fun id => ?_
    rw [hcount]
    split
    · -- a derived peripheral enters no registers
      rename_i val hval
      have hown : P.ownRegisters = [] := by
        obtain ⟨target, htarget, -⟩ := Option.bind_eq_some_iff.1 hval
        simp [Peripheral.ownRegisters, htarget]
      refine Runs.ite (fun _ => Runs.bind (Runs.note _ _) fun _ => Runs.pure ?_)
        fun _ => Runs.pure ?_
      all_goals
        rintro t ⟨rfl, hhold, hfresh⟩
        refine ⟨(Contents.peripheralIds_concat ps P).symm, admitted_of_fresh hfresh hderived
          (by simp [hown]), ?_⟩
        rw [Contents.ofPeripherals_concat, hown]
        simpa [Contents.add, Entity.toRow] using hhold
    · -- the registers of one that is not
      rename_i hnone
      have hown : P.ownRegisters = P.registers := by
        cases htarget : P.derivedFrom with
        | none => simp [Peripheral.ownRegisters, htarget]
        | some target =>
          have hfound := hderived target htarget
          rw [htarget, Option.bind_some] at hnone
          rw [hnone] at hfound
          exact absurd hfound (by simp)
      refine Runs.bind (((runs_enterRegisters id P.registers sum' _).frame
        (id = ((ps.length + 1 : Nat) : RowId) ∧
          (Contents.ofPeripherals mpu ps).Fresh (.peripheral (Contents.peripheralRow ps P)))).conseq
        (fun _ h => ⟨⟨h.1, h.2.2⟩, h.2.1⟩) fun _ _ h => h) fun acc => ?_
      refine Runs.pure ?_
      rintro t ⟨⟨rfl, hfresh⟩, hfields, hhold⟩
      refine ⟨(Contents.peripheralIds_concat ps P).symm, admitted_of_fresh hfresh hderived
        (by rwa [hown]), ?_⟩
      rw [Contents.ofPeripherals_concat, hown]
      simpa [Contents.add, Entity.toRow] using hhold
  -- the lookup of the peripheral derived from enters nothing
  split
  · rename_i target htarget
    split
    · rename_i id hid
      refine Runs.pure_bind (hjp _ (by simp [htarget, hid]) fun t ht => ?_)
      rw [htarget, Option.mem_def, Option.some.injEq] at ht
      rw [← ht, hid]
      rfl
    · exact Runs.throw_bind _ _
  · rename_i hnone
    exact Runs.pure_bind (hjp _ (by simp [hnone]) (by simp [hnone]))

/-- Entering a device into empty tables enters its MPU row first, then its peripherals in order. -/
theorem runs_enterDevice (d : Device) :
    Runs (·.Hold {}) (enterDevice d) fun _ t =>
      Admits d.peripherals ∧ t.Hold (Contents.ofPeripherals d.mpuRow d.peripherals) := by
  unfold enterDevice
  refine Runs.bind (Runs.enter d.mpuRow (by exact fun _ => rfl) {}) fun mpuId => ?_
  -- the MPU row is the first of its table
  refine Runs.conseq (Runs.assume (mpuId = 1)
      (Grows.bind (Grows.foldlM (fun acc P => grows_enterPeripheral mpuId acc P) _ _)
        fun _ => Grows.bind (Grows.note _ _) fun _ => Grows.pure _) fun hid => ?_)
    (fun _ h => ⟨by simpa [Contents.count, Entity.toRow, Row.table] using h.1, h.2.1⟩)
    fun _ _ h => h
  subst hid
  have hempty : ({} : Contents).add (Entity.toRow d.mpuRow) = Contents.ofPeripherals d.mpuRow [] :=
    rfl
  rw [hempty]
  -- the peripherals one after another: the ids by name so far, and the rows they entered
  refine Runs.bind ((Runs.foldlM (fun done acc t =>
      (acc.1 = Contents.peripheralIds done ∧ Admits done) ∧
        t.Hold (Contents.ofPeripherals d.mpuRow done)) (fun done P acc => ?_)
      d.peripherals [] _).conseq
    (fun t h => ⟨⟨rfl, .nil⟩, h⟩) fun _ _ h => h) fun acc => ?_
  · refine Runs.assume _ (grows_enterPeripheral 1 acc P) fun hpre => ?_
    obtain ⟨hids, hadmits⟩ := hpre
    obtain ⟨ids, sum⟩ := acc
    dsimp only at hids
    subst hids
    refine (runs_enterPeripheral d.mpuRow done sum P).conseq (fun _ h => h) ?_
    rintro acc t ⟨hids, hadmitted, hhold⟩
    exact ⟨⟨hids, hadmits.snoc hadmitted⟩, hhold⟩
  · obtain ⟨ids, sum⟩ := acc
    refine Runs.bind (Runs.note _ _) fun _ => Runs.pure ?_
    rintro t ⟨⟨-, hadmits⟩, hhold⟩
    rw [List.nil_append] at hadmits hhold
    exact ⟨hadmits, hhold⟩
/-- **An ingestion into an empty store enters the description.** A successful ingestion into a
store in memory that leaves small tables leaves it in memory, holding the description's rows
numbered in the order they were entered, each peripheral admitted after those before it. -/
theorem ingest_holds {d : Device} {M : Machine} {sum : Summary} {s : Store}
    (h : ((ingest Store.inMemory d : Sim _).run M).1 = (.ok sum, s)) (hsmall : s.tables.Small) :
    s.backing = .memory ∧ Admits d.peripherals ∧
      s.tables.Hold (Contents.ofPeripherals d.mpuRow d.peripherals) := by
  rw [ingest_run] at h
  have hrun := (runs_enterDevice d).ok Store.inMemory M sum rfl Tables.hold_empty
    (by rw [h]) (by rw [h]; exact hsmall)
  rw [h] at hrun
  exact ⟨hrun.1, hrun.2⟩

end RegisterAtlas
