import RegisterAtlas.Proofs.Ingest.Contents
import RegisterAtlas.Proofs.Ingest.Exec
/-!
# An ingestion enters a prefix of its document

A description becomes rows in document order (`Device.elements`): the MPU, then each peripheral
followed, when it is not derived, by its registers, each register followed by its fields. An
ingestion enters these elements one after another into the store it runs on and stops at the
first it cannot enter; nothing entered before is taken back. The row of each element is fixed
by the elements entered before it in the same ingestion (`Element.row`): a peripheral is of the
MPU and derived from the latest peripheral entered with the name it gives, a register is of the
latest peripheral, a field of the latest register.

* `Entered`: a store's tables with elements entered one after another, each under the id the
  store's insert gives it.
* `Fails`: why an element is not entered: it is derived from a name no peripheral entered before
  it has, its bits do not normalize, the store's check refuses its row, or the machine refuses
  the row's journal line.
* `Commits`: a step of an ingestion that enters a prefix of a list of elements, all of it when it
  answers, and stops just before an element that fails with the error it reports. Its rules put
  steps together the way the ingestion does.
* `ingest_enters_document_prefix`: an ingestion enters a prefix of its document and nothing else;
  when it answers it entered the whole document and counted what it entered, and when it fails
  the next element of the document fails with its error.
-/

namespace RegisterAtlas

/-! ## The elements of a description -/

/-- A part of a description that becomes one row. -/
inductive Element
  | mpu (r : MpuRow)
  | peripheral (P : Peripheral)
  | register (R : Register)
  | field (R : Register) (F : BitField)

namespace Element

def isMpu : Element → Bool
  | mpu _ => true
  | _ => false

def isPeripheral : Element → Bool
  | peripheral _ => true
  | _ => false

/-- A peripheral derived from another. -/
def isDerived : Element → Bool
  | peripheral P => P.derivedFrom.isSome
  | _ => false

def isRegister : Element → Bool
  | register _ => true
  | _ => false

def isField : Element → Bool
  | field _ _ => true
  | _ => false

/-- A peripheral with the name `name`. -/
def named (name : String) : Element → Bool
  | peripheral P => name == P.name
  | _ => false

end Element

/-- A register and then its fields. -/
def Register.elements (R : Register) : List Element := .register R :: R.fields.map (.field R)

/-- A peripheral and then the registers it owns, each with its fields. -/
def Peripheral.elements (P : Peripheral) : List Element :=
  .peripheral P :: P.ownRegisters.flatMap Register.elements

/-- The elements of a description in document order: the MPU, then each peripheral with what
it owns. -/
def Device.elements (d : Device) : List Element :=
  .mpu d.mpuRow :: d.peripherals.flatMap Peripheral.elements

/-! ## The row of an element -/

/-- The entered elements are listed with their ids, the latest first. -/
abbrev Entries := List (Element × RowId)

/-- The id of the latest entered element that `pick` selects. -/
def latestId (pick : Element → Bool) (done : Entries) : Option RowId :=
  (done.find? fun x => pick x.1).map (·.2)

@[simp] theorem latestId_nil (pick : Element → Bool) : latestId pick [] = none := rfl

@[simp] theorem latestId_cons (pick : Element → Bool) (el : Element) (id : RowId) (done : Entries) :
    latestId pick ((el, id) :: done) = if pick el then some id else latestId pick done := by
  by_cases h : pick el <;> simp [latestId, h]

theorem latestId_eq_none_iff {pick : Element → Bool} {done : Entries} :
    latestId pick done = none ↔ ∀ x ∈ done, pick x.1 = false := by
  simp [latestId, List.find?_eq_none]

/-- The elements entered, in the order they were entered. -/
def entryOrder (done : Entries) : List Element := done.reverse.map (·.1)

@[simp] theorem entryOrder_nil : entryOrder [] = [] := rfl

@[simp] theorem entryOrder_append (new done : Entries) :
    entryOrder (new ++ done) = entryOrder done ++ entryOrder new := by
  simp [entryOrder]

@[simp] theorem length_entryOrder (done : Entries) : (entryOrder done).length = done.length := by
  simp [entryOrder]

@[simp] theorem mem_entryOrder {el : Element} {done : Entries} :
    el ∈ entryOrder done ↔ ∃ id, (el, id) ∈ done := by
  simp [entryOrder]

/-- The ids of the entered peripherals, by name, the latest first. -/
def peripheralIdsOf (done : Entries) : PeripheralIds :=
  done.filterMap fun x => match x.1 with
    | .peripheral P => some (P.name, x.2)
    | _ => none

/-- Looking a name up among the entered peripherals finds the latest with that name. -/
theorem lookup_peripheralIdsOf (target : String) (done : Entries) :
    (peripheralIdsOf done).lookup target = latestId (Element.named target) done := by
  induction done with
  | nil => rfl
  | cons x done ih =>
    obtain ⟨el, id⟩ := x
    cases el with
    | peripheral P =>
      simp only [peripheralIdsOf, List.filterMap_cons, latestId_cons, Element.named] at ih ⊢
      rw [List.lookup_cons, ih]
      by_cases h : (target == P.name) = true <;> simp [h]
    | _ => simpa [peripheralIdsOf, Element.named] using ih

/-- The row of a peripheral, of the MPU row `mpuId` and derived from the row `derivedFromId`. -/
def Peripheral.toRow (P : Peripheral) (mpuId : RowId) (derivedFromId : Option RowId) :
    PeripheralRow :=
  { mpuId := mpuId, derivedFromId := derivedFromId, name := P.name, baseAddress := P.baseAddress,
    description := nonEmpty P.description }

/-- The row of an element entered after the elements `done` of the same ingestion, or why it
cannot be built. A peripheral is of the latest MPU and derived from the latest peripheral with
the name it gives, which must have been entered; a register is of the latest peripheral; a field
is of the latest register, and its bits must normalize. In document order a register follows
its peripheral and a field its register, so the latest is never missing there. -/
def Element.row (done : Entries) : Element → Except AtlasError Row
  | .mpu r => .ok (.mpu r)
  | .peripheral P =>
    match P.derivedFrom with
    | none => .ok (.peripheral (P.toRow ((latestId isMpu done).getD 0) none))
    | some target =>
      match latestId (named target) done with
      | some id => .ok (.peripheral (P.toRow ((latestId isMpu done).getD 0) (some id)))
      | none => .error (.unresolvedDerivation P.name target)
  | .register R => .ok (.register (Contents.registerRow ((latestId isPeripheral done).getD 0) R))
  | .field R F =>
    match Bits.normalize F with
    | .ok p => .ok (.field (Contents.fieldRow ((latestId isRegister done).getD 0) F p))
    | .error e => .error (.malformedField R.name F.name e)

/-! ## Entered elements -/

/-- The tables `t` are those of the store `s₀` with the elements `done` entered one after
another, the earliest first: each element's row built from the elements before it and accepted
by the store's insert under the id it assigns. -/
inductive Entered (s₀ : Store) : Entries → Tables → Prop
  | nil : Entered s₀ [] s₀.tables
  | cons {done : Entries} {t : Tables} {el : Element} {row : Row} {id : RowId} :
      Entered s₀ done t → el.row done = .ok row → { s₀ with tables := t }.assignRow row = .ok id →
      Entered s₀ ((el, id) :: done) (t.add id row)

/-- Why the element `el` cannot be entered after the elements `done` into the tables `t` of the
store `s₀`, with the error `e`. -/
inductive Fails (s₀ : Store) (done : Entries) (t : Tables) : Element → AtlasError → Prop
  /-- A peripheral derived from a name that no peripheral entered before it has. -/
  | unresolved {P : Peripheral} {target : String} :
      P.derivedFrom = some target → (∀ x ∈ done, x.1.named target = false) →
      Fails s₀ done t (.peripheral P) (.unresolvedDerivation P.name target)
  /-- A field whose bits do not normalize. -/
  | malformed {R : Register} {F : BitField} {cause : Bits.SpecError} :
      Bits.normalize F = .error cause →
        Fails s₀ done t (.field R F) (.malformedField R.name F.name cause)
  /-- An element whose row the store refuses. -/
  | refused {el : Element} {row : Row} {e : AtlasError} :
      el.row done = .ok row → { s₀ with tables := t }.assignRow row = .error e →
        Fails s₀ done t el e
  /-- An element whose row the store accepts, but whose line the machine under the store's
  journal refuses to write. -/
  | unwritten {el : Element} {row : Row} {id : RowId} {e : OsError} :
      el.row done = .ok row → { s₀ with tables := t }.assignRow row = .ok id →
        (∃ w, s₀.backing = .journal w) → Fails s₀ done t el (.io e)

/-- An element whose row cannot be built fails with the error that says why. -/
theorem Fails.of_row_error {s₀ : Store} {done : Entries} {t : Tables} {el : Element}
    {e : AtlasError} (h : el.row done = .error e) : Fails s₀ done t el e := by
  cases el with
  | mpu r => cases h
  | peripheral P =>
    simp only [Element.row] at h
    split at h
    · cases h
    · rename_i target hfrom
      split at h
      · cases h
      · rename_i hnone
        cases h
        exact .unresolved hfrom (latestId_eq_none_iff.1 hnone)
  | register R => cases h
  | field R F =>
    simp only [Element.row] at h
    split at h
    · cases h
    · rename_i cause hbits
      cases h
      exact .malformed hbits

namespace Store

/-- The check of an insert reads only the tables and whether the store is read-only. -/
theorem assignRow_eq_of_backing {s s' : Store} (row : Row) (ht : s.tables = s'.tables)
    (hb : s.backing = .readOnly ↔ s'.backing = .readOnly) : s.assignRow row = s'.assignRow row := by
  by_cases hw : s.Writable
  · exact assignRow_congr row ht hw fun h' => hw (hb.2 h')
  · have h : s.backing = .readOnly := Classical.not_not.1 hw
    have h' := hb.1 h
    cases row <;> simp only [assignRow, assignId, nextId, ht, h, h']

/-- The store `s` has the elements `done` entered into the store `s₀`, and keeps its rows as
`s₀` does: in memory, in a journal, or read-only. -/
structure Entering (s₀ : Store) (done : Entries) (s : Store) : Prop where
  entered : Entered s₀ done s.tables
  like : s.backing.Like s₀.backing

theorem Entering.start (s₀ : Store) : s₀.Entering [] s₀ := ⟨.nil, Backing.Like.refl _⟩

/-- The store checks a row as `s₀` would on its tables. -/
theorem Entering.assignRow {s₀ s : Store} {done : Entries} (h : s₀.Entering done s) (row : Row) :
    s.assignRow row = { s₀ with tables := s.tables }.assignRow row :=
  assignRow_eq_of_backing row rfl h.like.readOnly_iff

end Store

/-! ## Steps that enter a prefix -/

/-- A fact about the entered elements that entering any element of `es` keeps holds after
entering some of them. -/
theorem keeps_append {F : Entries → Prop} {es : List Element}
    (hF : ∀ el ∈ es, ∀ id done, F done → F ((el, id) :: done)) :
    ∀ (new : Entries) {done : Entries}, (∀ x ∈ new, x.1 ∈ es) → F done → F (new ++ done)
  | [], _, _, h => h
  | x :: new, _, hsub, h =>
    hF x.1 (hsub x List.mem_cons_self) x.2 _
      (keeps_append hF new (fun y hy => hsub y (List.mem_cons_of_mem _ hy)) h)

/-- A step of an ingestion into the store `s₀` that enters the elements `es` in order and stops
at the first it cannot enter. From a store with the elements `done` entered, where `P done`, it
enters a prefix of `es`; when it answers `a` it has entered all of `es` and `Q a` holds of the
elements entered, and when it fails the next element of `es` fails with its error. -/
def Commits (s₀ : Store) (P : Entries → Prop) (x : IngestM Sim α) (es : List Element)
    (Q : α → Entries → Prop) : Prop :=
  ∀ (s : Store) (M : Machine) (done : Entries), s₀.Entering done s → P done →
    ∃ new : Entries, entryOrder new <+: es ∧ s₀.Entering (new ++ done) (x.exec s M).1.2 ∧
      (∀ a, (x.exec s M).1.1 = .ok a → entryOrder new = es ∧ Q a (new ++ done)) ∧
      ∀ e, (x.exec s M).1.1 = .error e →
        ∃ el, es[new.length]? = some el ∧ Fails s₀ (new ++ done) (x.exec s M).1.2.tables el e

namespace Commits

variable {s₀ : Store} {P P' : Entries → Prop} {Q Q' : α → Entries → Prop} {es : List Element}

theorem pure {a : α} (h : ∀ done, P done → Q a done) : Commits s₀ P (pure a) [] Q := by
  intro s M done hs hp
  rw [IngestM.exec_pure]
  refine ⟨[], List.nil_prefix, hs, fun b hb => ?_, fun e he => by cases he⟩
  cases hb
  exact ⟨rfl, h done hp⟩

/-- A step that fails at once fails as the element it stands for. -/
theorem throw {e : AtlasError} {el : Element} {rest : List Element}
    (h : ∀ done, P done → el.row done = .error e) :
    Commits s₀ P (throw e : IngestM Sim α) (el :: rest) Q := by
  intro s M done hs hp
  rw [IngestM.exec_throw]
  refine ⟨[], List.nil_prefix, hs, fun a ha => (by cases ha), fun e' he => ?_⟩
  cases he
  exact ⟨el, rfl, .of_row_error (h done hp)⟩

/-- A log record enters nothing. -/
theorem note (level : Level) (message : String) :
    Commits s₀ P (RegisterAtlas.note level message : IngestM Sim Unit) [] (fun _ => P) := by
  intro s M done hs hp
  rw [IngestM.exec_note]
  exact ⟨[], List.nil_prefix, hs, fun _ _ => ⟨rfl, hp⟩, fun e he => by cases he⟩

theorem conseq {x : IngestM Sim α} (hx : Commits s₀ P x es Q) (hP : ∀ done, P' done → P done)
    (hQ : ∀ a done, Q a done → Q' a done) : Commits s₀ P' x es Q' := by
  intro s M done hs hp
  obtain ⟨new, hpre, hs', hok, herr⟩ := hx s M done hs (hP _ hp)
  exact ⟨new, hpre, hs', fun a ha => ⟨(hok a ha).1, hQ _ _ (hok a ha).2⟩, herr⟩

/-- Steps one after another enter the first's elements, then the second's: the second starts
from the store the first left, with the first's answer, and an error of the first stops both. -/
theorem bind {x : IngestM Sim α} {f : α → IngestM Sim β} {es₁ es₂ : List Element}
    {R : β → Entries → Prop} (hx : Commits s₀ P x es₁ Q) (hf : ∀ a, Commits s₀ (Q a) (f a) es₂ R) :
    Commits s₀ P (x >>= f) (es₁ ++ es₂) R := by
  intro s M done hs hp
  obtain ⟨new₁, hpre₁, hs₁, hok₁, herr₁⟩ := hx s M done hs hp
  rw [IngestM.exec_bind]
  rcases hxr : x.exec s M with ⟨⟨e | a, s₁⟩, M₁⟩
  · -- the first step failed: the elements it entered are a prefix of its own
    rw [hxr] at hs₁ herr₁
    obtain ⟨el, hel, hfails⟩ := herr₁ e rfl
    refine ⟨new₁, hpre₁.trans (List.prefix_append _ _), hs₁, fun b hb => (by cases hb),
      fun e' he => ?_⟩
    cases he
    refine ⟨el, ?_, hfails⟩
    rw [List.getElem?_append_left (List.getElem?_eq_some_iff.1 hel).1]
    exact hel
  · -- the first step entered all its elements; the second goes on after them
    rw [hxr] at hs₁ hok₁
    obtain ⟨hall₁, hq⟩ := hok₁ a rfl
    have hlen : new₁.length = es₁.length := by rw [← hall₁, length_entryOrder]
    obtain ⟨new₂, hpre₂, hs₂, hok₂, herr₂⟩ := hf a s₁ M₁ (new₁ ++ done) hs₁ hq
    refine ⟨new₂ ++ new₁, ?_, by rwa [List.append_assoc], fun b hb => ?_, fun e he => ?_⟩
    · rw [entryOrder_append, hall₁]
      exact (List.prefix_append_right_inj es₁).2 hpre₂
    · obtain ⟨hall₂, hr⟩ := hok₂ b hb
      rw [List.append_assoc, entryOrder_append, hall₁, hall₂]
      exact ⟨rfl, hr⟩
    · obtain ⟨el, hel, hfails⟩ := herr₂ e he
      refine ⟨el, ?_, by rwa [List.append_assoc]⟩
      rw [List.length_append, List.getElem?_append_right (by omega),
        show new₂.length + new₁.length - es₁.length = new₂.length by omega]
      exact hel

/-- A step that enters nothing after another enters what the first enters. -/
theorem bind_quiet {x : IngestM Sim α} {f : α → IngestM Sim β} {R : β → Entries → Prop}
    (hx : Commits s₀ P x es Q) (hf : ∀ a, Commits s₀ (Q a) (f a) [] R) :
    Commits s₀ P (x >>= f) es R := by
  have h := bind hx hf
  rwa [List.append_nil] at h

/-- A step after an answer given at once is the step on that answer. -/
theorem pure_bind {a : α} {f : α → IngestM Sim β} {R : β → Entries → Prop}
    (hf : Commits s₀ P (f a) es R) : Commits s₀ P (Pure.pure a >>= f) es R := by
  intro s M done hs hp
  rw [IngestM.exec_bind, IngestM.exec_pure]
  exact hf s M done hs hp

/-- A fact about nothing the step touches may be assumed. -/
theorem assume {φ : Prop} {x : IngestM Sim α} (h : φ → Commits s₀ P x es Q) :
    Commits s₀ (fun done => φ ∧ P done) x es Q := by
  intro s M done hs ⟨hφ, hp⟩
  exact h hφ s M done hs hp

/-- A step after an error stops at the error. -/
theorem throw_bind {e : AtlasError} {el : Element} {rest : List Element} {f : α → IngestM Sim β}
    {R : β → Entries → Prop} (h : ∀ done, P done → el.row done = .error e) :
    Commits s₀ P (MonadExcept.throw e >>= f) (el :: rest) R := by
  have h : Commits s₀ P (MonadExcept.throw e >>= f) ((el :: rest) ++ []) R :=
    bind (throw h) fun a =>
      show Commits s₀ (fun _ => False) (f a) [] R from fun _ _ _ _ hfalse => hfalse.elim
  rwa [List.append_nil] at h

theorem map {x : IngestM Sim α} (hx : Commits s₀ P x es Q) (g : α → β) :
    Commits s₀ P (g <$> x) es fun b done => ∃ a, g a = b ∧ Q a done := by
  intro s M done hs hp
  obtain ⟨new, hpre, hs', hok, herr⟩ := hx s M done hs hp
  rw [IngestM.exec_map]
  refine ⟨new, hpre, hs', fun b hb => ?_, fun e he => ?_⟩
  · rcases hxr : (x.exec s M).1.1 with _ | a
    · rw [hxr] at hb
      cases hb
    · rw [hxr] at hb
      cases hb
      exact ⟨(hok a hxr).1, a, rfl, (hok a hxr).2⟩
  · rcases hxr : (x.exec s M).1.1 with e' | a
    · rw [hxr] at he
      cases he
      exact herr e hxr
    · rw [hxr] at he
      cases he

theorem ite {c : Prop} [Decidable c] {x y : IngestM Sim α} (hx : c → Commits s₀ P x es Q)
    (hy : ¬ c → Commits s₀ P y es Q) : Commits s₀ P (if c then x else y) es Q := by
  by_cases h : c
  · rw [if_pos h]
    exact hx h
  · rw [if_neg h]
    exact hy h

/-- **Entering a row.** An element whose row is `row` is entered under the id the insert gives
it, or, when the store refuses the row, fails with the store's error and enters nothing. -/
theorem enter [Entity β] (row : β)
    (hrow : ∀ s : Store, (s.insert row : Sim _) = insertRow s (Entity.toRow row)) {el : Element}
    (hel : ∀ done, P done → el.row done = .ok (Entity.toRow row)) :
    Commits s₀ P (RegisterAtlas.enter row) [el]
      (fun id done' => ∃ done, P done ∧ done' = (el, id) :: done) := by
  intro s M done hs hp
  rw [IngestM.exec_enter, hrow s]
  have hassign := hs.assignRow (Entity.toRow row)
  -- whatever the insert does, the store keeps its kind
  have hlike := (insertRow_like s (Entity.toRow row) M).1.trans hs.like
  rcases insertRow_cases s (Entity.toRow row) M with ⟨e, ha, hrun⟩ |
      ⟨id, e, w, ha, hb, herr, htables⟩ | ⟨id, ha, hok, htables⟩
  · -- refused by its check: the store stays as it was
    rw [hrun]
    refine ⟨[], List.nil_prefix, hs, fun a ha => (by cases ha), fun e' he => ?_⟩
    cases he
    exact ⟨el, rfl, .refused (hel done hp) (hassign ▸ ha)⟩
  · -- refused by the machine: the tables stay as they were
    rw [herr]
    refine ⟨[], List.nil_prefix, ⟨htables ▸ hs.entered, hlike⟩, fun a ha => (by cases ha),
      fun e' he => ?_⟩
    cases he
    rw [htables]
    exact ⟨el, rfl, .unwritten (hel done hp) (hassign ▸ ha) (hs.like.journal_iff.1 ⟨w, hb⟩)⟩
  · rw [hok]
    refine ⟨[(el, id)], by simp [entryOrder], ⟨?_, hlike⟩, fun a ha => ?_, fun e he => by cases he⟩
    · rw [htables]
      exact .cons hs.entered (hel done hp) (hassign ▸ ha)
    · cases ha
      exact ⟨by simp [entryOrder], done, hp, rfl⟩

/-- A fact about the entered elements that entering any element of `es` keeps holds after the
step. -/
theorem frame {x : IngestM Sim α} (hx : Commits s₀ P x es Q) {F : Entries → Prop}
    (hF : ∀ el ∈ es, ∀ id done, F done → F ((el, id) :: done)) :
    Commits s₀ (fun done => P done ∧ F done) x es (fun a done => Q a done ∧ F done) := by
  intro s M done hs ⟨hp, hf⟩
  obtain ⟨new, hpre, hs', hok, herr⟩ := hx s M done hs hp
  -- every element entered is one of `es`
  have hnew : F (new ++ done) :=
    keeps_append hF new (fun x hx => hpre.subset (mem_entryOrder.2 ⟨x.2, hx⟩)) hf
  exact ⟨new, hpre, hs', fun a ha => ⟨(hok a ha).1, (hok a ha).2, hnew⟩, herr⟩

/-- A fold enters the elements of each item in turn, when its step takes an invariant of the
items done so far to the next. -/
theorem foldlM {γ : Type} {I : List γ → α → Entries → Prop} {f : α → γ → IngestM Sim α}
    (els : γ → List Element) (hf : ∀ xs a c, Commits s₀ (I xs a) (f a c) (els c) (I (xs ++ [c]))) :
    ∀ (cs xs : List γ) (init : α),
      Commits s₀ (I xs init) (cs.foldlM f init) (cs.flatMap els) (I (xs ++ cs)) := by
  intro cs
  induction cs with
  | nil =>
    intro xs init
    rw [List.append_nil]
    exact pure fun _ h => h
  | cons c cs ih =>
    intro xs init
    rw [List.foldlM_cons, List.flatMap_cons]
    refine bind (hf xs init c) fun a => ?_
    have h := ih (xs ++ [c]) a
    rwa [List.append_assoc, List.singleton_append] at h

end Commits

/-! ## The counts of an ingestion -/

/-- The counts after one more element is entered. -/
def Summary.tally (sum : Summary) : Element → Summary
  | .mpu _ => sum
  | .peripheral P =>
    { sum with
      peripherals := sum.peripherals + 1
      derived := if P.derivedFrom.isSome then sum.derived + 1 else sum.derived }
  | .register _ => { sum with registers := sum.registers + 1 }
  | .field _ _ => { sum with fields := sum.fields + 1 }

/-- Counting elements one after another adds up how many of each kind there are. -/
theorem Summary.foldl_tally (es : List Element) (sum : Summary) :
    es.foldl Summary.tally sum =
      { mpuId := sum.mpuId, peripherals := sum.peripherals + es.countP Element.isPeripheral,
        derived := sum.derived + es.countP Element.isDerived,
        registers := sum.registers + es.countP Element.isRegister,
        fields := sum.fields + es.countP Element.isField } := by
  induction es generalizing sum with
  | nil => rfl
  | cons el es ih =>
    rw [List.foldl_cons, ih]
    cases el with
    | peripheral P =>
      cases hd : P.derivedFrom <;>
      simp [Summary.tally, List.countP_cons, Element.isPeripheral, Element.isDerived,
        Element.isRegister, Element.isField, hd] <;> omega
    | _ =>
      simp [Summary.tally, List.countP_cons, Element.isPeripheral, Element.isDerived,
        Element.isRegister, Element.isField] <;> omega

/-- A fold whose steps each count the elements they enter counts all the elements the fold
enters, and keeps an invariant `F` of its accumulator and the elements entered. -/
theorem Commits.foldlM_tally {s₀ : Store} {γ : Type} {f : α → γ → IngestM Sim α}
    (els : γ → List Element) (sel : α → Summary) {F : α → Entries → Prop}
    (hf : ∀ acc c, Commits s₀ (F acc) (f acc c) (els c)
      (fun acc' done => sel acc' = (els c).foldl Summary.tally (sel acc) ∧ F acc' done))
    (cs : List γ) (init : α) :
    Commits s₀ (F init) (cs.foldlM f init) (cs.flatMap els)
      (fun acc done => sel acc = (cs.flatMap els).foldl Summary.tally (sel init) ∧ F acc done) := by
  refine (Commits.foldlM (I := fun xs acc done =>
      sel acc = (xs.flatMap els).foldl Summary.tally (sel init) ∧ F acc done)
    els (fun xs acc c => ?_) cs [] init).conseq (fun _ h => ⟨rfl, h⟩) fun _ _ h => h
  refine Commits.assume fun hacc => (hf acc c).conseq (fun _ h => h) ?_
  rintro acc' done ⟨hsel, hF⟩
  refine ⟨?_, hF⟩
  rw [hsel, hacc, List.flatMap_append, List.foldl_append]
  simp

/-! ## An ingestion step by step -/

section Steps

variable {s₀ : Store}

/-- Entering a field under the latest register, whose id is `registerId`. -/
theorem commits_enterField (registerId : RowId) (r : Register) (f : BitField) (sum : Summary) :
    Commits s₀ (fun done => latestId Element.isRegister done = some registerId)
      (enterField registerId r f sum) [.field r f]
      (fun sum' done => sum' = sum.tally (.field r f) ∧
        latestId Element.isRegister done = some registerId) := by
  unfold enterField
  split
  · rename_i cause hbits
    exact Commits.throw fun done _ => by simp [Element.row, hbits]
  · rename_i p hbits
    dsimp only
    refine Commits.ite (fun _ => Commits.bind (Commits.note _ _) fun _ => ?_) fun _ => ?_
    all_goals
      refine Commits.bind_quiet (Commits.map (Commits.enter _ (by exact fun _ => rfl)
        fun done hdone => ?_) _) fun _ => Commits.pure ?_
      · simp only [Element.row, hbits, hdone]
        rfl
      · rintro done ⟨_, rfl, done₀, hdone₀, rfl⟩
        exact ⟨rfl, by simpa [Element.isRegister] using hdone₀⟩

/-- Registers and fields are neither MPUs nor peripherals. -/
theorem mem_register_elements {R : Register} {el : Element} (h : el ∈ R.elements) :
    el.isMpu = false ∧ el.isPeripheral = false ∧ el.isDerived = false := by
  simp only [Register.elements, List.mem_cons, List.mem_map] at h
  obtain rfl | ⟨F, -, rfl⟩ := h <;> exact ⟨rfl, rfl, rfl⟩

/-- Entering a register under the latest peripheral, whose id is `peripheralId`, and then its
fields under it. -/
theorem commits_enterRegister (peripheralId : RowId) (r : Register) (sum : Summary) :
    Commits s₀ (fun done => latestId Element.isPeripheral done = some peripheralId)
      (enterRegister peripheralId r sum) r.elements
      (fun sum' done => sum' = r.elements.foldl Summary.tally sum ∧
        latestId Element.isPeripheral done = some peripheralId) := by
  unfold enterRegister
  refine Commits.bind (Commits.note _ _) fun _ => ?_
  refine Commits.bind (Commits.enter _ (by exact fun _ => rfl) fun done hdone => ?_)
    fun registerId => ?_
  · simp only [Element.row, hdone]
    rfl
  -- the fields one after another, each under the register just entered
  rw [List.map_eq_flatMap]
  refine (Commits.foldlM_tally (F := fun _ done =>
      latestId Element.isRegister done = some registerId ∧
        latestId Element.isPeripheral done = some peripheralId) (fun f => [Element.field r f])
    id (fun acc f => ((commits_enterField registerId r f acc).frame ?_).conseq (fun _ h => h)
      fun _ _ h => ⟨h.1.1, h.1.2, h.2⟩) r.fields _).conseq ?_ ?_
  · -- a field is not a peripheral
    intro el hel i done h
    rw [List.mem_singleton] at hel
    subst hel
    simpa [Element.isPeripheral] using h
  · rintro done ⟨done₀, hdone₀, rfl⟩
    exact ⟨by simp [Element.isRegister], by simpa [Element.isPeripheral] using hdone₀⟩
  · rintro acc done ⟨hacc, -, hper⟩
    refine ⟨?_, hper⟩
    rw [Register.elements, List.foldl_cons, List.map_eq_flatMap]
    exact hacc

/-- The registers a derived peripheral owns: none. -/
theorem ownRegisters_of_isSome {P : Peripheral} (h : P.derivedFrom.isSome) :
    P.ownRegisters = [] := by
  obtain ⟨target, htarget⟩ := Option.isSome_iff_exists.1 h
  simp [Peripheral.ownRegisters, htarget]

theorem ownRegisters_of_isNone {P : Peripheral} (h : P.derivedFrom.isSome = false) :
    P.ownRegisters = P.registers := by
  simp [Peripheral.ownRegisters, Option.not_isSome_iff_eq_none.1 (by simpa using h)]

/-- Entering a peripheral of the MPU entered, whose id is `mpuId`, derived from the latest
peripheral entered with the name it gives, and then the registers it owns. -/
theorem commits_enterPeripheral (mpuId : RowId) (acc : PeripheralIds × Summary) (P : Peripheral) :
    Commits s₀ (fun done => latestId Element.isMpu done = some mpuId ∧ acc.1 = peripheralIdsOf done)
      (enterPeripheral mpuId acc P) P.elements
      (fun acc' done => acc'.2 = P.elements.foldl Summary.tally acc.2 ∧
        (latestId Element.isMpu done = some mpuId ∧ acc'.1 = peripheralIdsOf done)) := by
  obtain ⟨ids, sum⟩ := acc
  unfold enterPeripheral
  refine Commits.bind (Commits.note _ _) fun _ => ?_
  extract_lets sum' jp
  -- the rest of the step, from the id of the peripheral it is derived from, if any
  have hjp : ∀ derived : Option RowId, (derived.isSome = P.derivedFrom.isSome) →
      (∀ done, latestId Element.isMpu done = some mpuId ∧ ids = peripheralIdsOf done →
        Element.row done (.peripheral P) = .ok (.peripheral (P.toRow mpuId derived))) →
      Commits s₀ (fun done => latestId Element.isMpu done = some mpuId ∧ ids = peripheralIdsOf done)
        (jp derived) P.elements
        (fun acc' done => acc'.2 = P.elements.foldl Summary.tally sum ∧
          (latestId Element.isMpu done = some mpuId ∧ acc'.1 = peripheralIdsOf done)) := by
    intro derived hsome hrow
    simp only [jp]
    refine Commits.bind (Commits.enter _ (by exact fun _ => rfl) fun done h => hrow done h)
      fun peripheralId => ?_
    split
    · -- a derived peripheral owns no registers
      have hown := ownRegisters_of_isSome (P := P) (by rw [← hsome]; rfl)
      rw [hown]
      refine Commits.ite (fun _ => Commits.bind (Commits.note _ _) fun _ => Commits.pure ?_)
        fun _ => Commits.pure ?_
      all_goals
        rintro done ⟨done₀, ⟨hmpu, rfl⟩, rfl⟩
        refine ⟨?_, by simpa [Element.isMpu] using hmpu, by simp [peripheralIdsOf]⟩
        simp [Peripheral.elements, hown, Summary.tally, sum', ← hsome]
    · -- the registers of one that is not, under its row
      rename_i hnone
      have hown := ownRegisters_of_isNone (P := P) (by rw [← hsome]; rfl)
      rw [hown]
      refine Commits.bind_quiet ((Commits.foldlM_tally (F := fun _ done =>
          latestId Element.isPeripheral done = some peripheralId ∧
            latestId Element.isMpu done = some mpuId ∧
            peripheralIdsOf done = (P.name, peripheralId) :: ids) Register.elements id
        (fun acc R => ((commits_enterRegister peripheralId R acc).frame ?_).conseq
          (fun _ h => h) fun _ _ h => ⟨h.1.1, h.1.2, h.2⟩) P.registers sum').conseq ?_
          fun _ _ h => h) fun acc => Commits.pure ?_
      · -- registers and fields are neither MPUs nor peripherals
        intro el hel i done ⟨hmpu, hids⟩
        obtain ⟨hnotMpu, hnotPer, -⟩ := mem_register_elements hel
        refine ⟨by simpa [hnotMpu] using hmpu, ?_⟩
        rw [← hids]
        cases el <;> simp_all [peripheralIdsOf, Element.isPeripheral]
      · rintro done ⟨done₀, ⟨hmpu, rfl⟩, rfl⟩
        exact ⟨by simp [Element.isPeripheral], by simpa [Element.isMpu] using hmpu,
          by simp [peripheralIdsOf]⟩
      · rintro done ⟨hacc, -, hmpu, hids⟩
        refine ⟨?_, hmpu, hids.symm⟩
        simp only [id] at hacc
        rw [hacc]
        simp [Peripheral.elements, hown, Summary.tally, sum', ← hsome]
  -- the peripheral derived from was entered before
  split
  · rename_i target hfrom
    split
    · rename_i id hid
      refine Commits.pure_bind (hjp (some id) (by simp [hfrom]) fun done ⟨hmpu, hids⟩ => ?_)
      rw [hids, lookup_peripheralIdsOf] at hid
      simp [Element.row, hfrom, hid, hmpu]
    · rename_i hnone
      refine Commits.throw_bind fun done ⟨_, hids⟩ => ?_
      rw [show ids = peripheralIdsOf done from hids, lookup_peripheralIdsOf] at hnone
      simp [Element.row, hfrom, hnone]
  · rename_i hfrom
    exact Commits.pure_bind (hjp none (by simp [hfrom]) fun done ⟨hmpu, _⟩ => by
      simp [Element.row, hfrom, hmpu])

/-- Entering a device: its MPU, then its peripherals in order, each of that MPU. -/
theorem commits_enterDevice (d : Device) :
    Commits s₀ (fun done => done = []) (enterDevice d) d.elements
      (fun sum done => latestId Element.isMpu done = some sum.mpuId ∧
        sum = d.elements.foldl Summary.tally { mpuId := sum.mpuId }) := by
  unfold enterDevice
  refine Commits.bind (Commits.enter _ (by exact fun _ => rfl) fun done _ => ?_) fun mpuId => ?_
  · rfl
  -- the peripherals one after another, of the MPU just entered
  refine Commits.bind_quiet ((Commits.foldlM_tally Peripheral.elements Prod.snd
    (commits_enterPeripheral mpuId) d.peripherals _).conseq ?_ fun _ _ h => h) fun acc => ?_
  · rintro done ⟨done₀, rfl, rfl⟩
    exact ⟨by simp [Element.isMpu], rfl⟩
  · obtain ⟨ids, sum⟩ := acc
    refine Commits.bind (Commits.note _ _) fun _ => Commits.pure ?_
    rintro done ⟨hsum, hmpu, -⟩
    dsimp only at hsum
    have hid : sum.mpuId = mpuId := by
      rw [hsum, Summary.foldl_tally]
    rw [hid]
    exact ⟨hmpu, hsum⟩

end Steps

/-! ## A whole ingestion -/

theorem mem_of_latestId {pick : Element → Bool} {done : Entries} {id : RowId}
    (h : latestId pick done = some id) : ∃ el, pick el ∧ (el, id) ∈ done := by
  obtain ⟨x, hx, rfl⟩ := Option.map_eq_some_iff.1 h
  exact ⟨x.1, by simpa using List.find?_some hx, List.mem_of_find?_eq_some hx⟩

theorem isMpu_of_mem_peripheral_elements {P : Peripheral} {el : Element} (h : el ∈ P.elements) :
    el.isMpu = false := by
  simp only [Peripheral.elements, List.mem_cons, List.mem_flatMap] at h
  obtain rfl | ⟨R, -, hR⟩ := h
  · rfl
  · exact (mem_register_elements hR).1

/-- The only MPU of a description's elements is its first. -/
theorem Device.eq_mpu_of_mem_elements {d : Device} {el : Element} (h : el ∈ d.elements)
    (hmpu : el.isMpu) : el = .mpu d.mpuRow := by
  rcases List.mem_cons.1 h with rfl | h
  · rfl
  · obtain ⟨P, -, hP⟩ := List.mem_flatMap.1 h
    rw [isMpu_of_mem_peripheral_elements hP] at hmpu
    cases hmpu

/-- A peripheral's elements hold one peripheral, itself. -/
theorem countP_peripheral_elements (P : Peripheral) {p : Element → Bool}
    (hp : ∀ R ∈ P.ownRegisters, ∀ el ∈ R.elements, p el = false) :
    P.elements.countP p = if p (.peripheral P) then 1 else 0 := by
  rw [Peripheral.elements, List.countP_cons, List.countP_eq_zero.2]
  · simp
  · intro el hel
    obtain ⟨R, hR, hel⟩ := List.mem_flatMap.1 hel
    simp [hp R hR el hel]

theorem countP_isPeripheral_elements (ps : List Peripheral) :
    (ps.flatMap Peripheral.elements).countP Element.isPeripheral = ps.length := by
  induction ps with
  | nil => rfl
  | cons P ps ih =>
    rw [List.flatMap_cons, List.countP_append, ih, countP_peripheral_elements P
      fun _ _ _ hel => (mem_register_elements hel).2.1]
    simp [Element.isPeripheral, Nat.add_comm]

theorem countP_isDerived_elements (ps : List Peripheral) :
    (ps.flatMap Peripheral.elements).countP Element.isDerived =
      ps.countP (·.derivedFrom.isSome) := by
  induction ps with
  | nil => rfl
  | cons P ps ih =>
    rw [List.flatMap_cons, List.countP_append, ih, countP_peripheral_elements P
      fun _ _ _ hel => (mem_register_elements hel).2.2, List.countP_cons]
    cases h : P.derivedFrom.isSome <;> simp [Element.isDerived, h, Nat.add_comm]

/-- **An ingestion enters a prefix of its document, and nothing else.** Whatever the store and
the description, the store an ingestion leaves holds the rows of the store it started from and
then the rows of the description's first elements in document order, each built from the
elements entered before it and numbered by the store's insert. When the ingestion answers, it
entered every element, and its counts give the id of the MPU row entered, the number of
peripherals and of derived ones, and the numbers of registers and fields entered. When it fails,
the next element of the document fails with the error reported: a peripheral derived from a name
no peripheral entered before it has, a field whose bits do not normalize, a row the store
refuses, or a row whose journal line the machine refuses to write. -/
theorem ingest_enters_document_prefix (s : Store) (d : Device) (M : Machine) :
    ∃ done : Entries, entryOrder done <+: d.elements ∧
      Entered s done ((ingest s d : Sim _).run M).1.2.tables ∧
      (∀ sum, ((ingest s d : Sim _).run M).1.1 = .ok sum →
        entryOrder done = d.elements ∧ (Element.mpu d.mpuRow, sum.mpuId) ∈ done ∧
          sum.peripherals = d.peripherals.length ∧
          sum.derived = d.peripherals.countP (·.derivedFrom.isSome) ∧
          sum.registers = d.elements.countP Element.isRegister ∧
          sum.fields = d.elements.countP Element.isField) ∧
      ∀ e, ((ingest s d : Sim _).run M).1.1 = .error e →
        ∃ el, d.elements[done.length]? = some el ∧
          Fails s done ((ingest s d : Sim _).run M).1.2.tables el e := by
  rw [ingest_run]
  obtain ⟨done, hpre, hs, hok, herr⟩ :=
    commits_enterDevice d s M [] (Store.Entering.start s) rfl
  rw [List.append_nil] at hs hok herr
  refine ⟨done, hpre, hs.entered, fun sum hsum => ?_, herr⟩
  obtain ⟨hall, hmpu, hcounts⟩ := hok sum hsum
  refine ⟨hall, ?_, ?_⟩
  · -- the MPU entered is the description's, its only one
    obtain ⟨el, hel, hmem⟩ := mem_of_latestId hmpu
    have hdoc : el ∈ d.elements := hall ▸ mem_entryOrder.2 ⟨_, hmem⟩
    rwa [Device.eq_mpu_of_mem_elements hdoc hel] at hmem
  · rw [hcounts, Summary.foldl_tally]
    simp [Device.elements, List.countP_cons, Element.isPeripheral, Element.isDerived,
      countP_isPeripheral_elements, countP_isDerived_elements]

end RegisterAtlas
