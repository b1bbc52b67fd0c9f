import RegisterAtlas.Proofs.Ingest.Exec
import RegisterAtlas.Proofs.Query.Owner
import RegisterAtlas.Proofs.Store.Reachable
/-!
# Ingestion keeps the links

An ingestion enters an MPU, then each peripheral, each register of a peripheral that is not
derived and each field of such a register, and every row it enters points at rows entered
before it in the same ingestion: the MPU entered first, a peripheral recorded under its name
earlier, the register or peripheral just entered. So every store that ingestions can reach has
linked tables, whether each ingestion finished or stopped at an error, and on such a store every
peripheral resolves and the store dumps whole.

The ids of a table wrap around after the largest 64-bit id, so the links are kept while every
table holds fewer rows than there are positive 64-bit ids (`Tables.Small`).

* `Keeps`: a step of an ingestion that keeps the tables linked while they are small and only adds
  rows, from tables satisfying a precondition, and whose answer satisfies a postcondition;
  `Keeps.bind`, `Keeps.frame`, `Keeps.foldlM` put such steps together.
* `keeps_enterDevice`: a whole ingestion keeps the links.
* `Ingested`: the stores a session of ingestions reaches from a new store.
* `ingested_stores_linked`: their tables are linked, every peripheral resolves, and the store
  dumps whole.
-/

namespace RegisterAtlas

/-! ## Rows held -/

namespace Tables

/-- The row `row` is held under id `id` in its table. -/
def Holds (t : Tables) (id : RowId) : Row → Prop
  | .mpu r => (⟨id, r⟩ : Stored MpuRow) ∈ t.mpus
  | .peripheral r => (⟨id, r⟩ : Stored PeripheralRow) ∈ t.peripherals
  | .register r => (⟨id, r⟩ : Stored RegisterRow) ∈ t.registers
  | .field r => (⟨id, r⟩ : Stored FieldRow) ∈ t.fields

theorem holds_add (t : Tables) (id : RowId) (row : Row) : (t.add id row).Holds id row := by
  cases row
  · exact (mem_add_mpus t id _).2 (.inr ⟨rfl, rfl⟩)
  · exact (mem_add_peripherals t id _).2 (.inr ⟨rfl, rfl⟩)
  · exact (mem_add_registers t id _).2 (.inr ⟨rfl, rfl⟩)
  · exact (mem_add_fields t id _).2 (.inr ⟨rfl, rfl⟩)

end Tables

/-! ## Steps that keep the links -/

/-- A step of an ingestion that, from tables linked while they are small and satisfying `P`,
leaves tables linked while they are small that hold every row held before, and, when it answers
`a`, tables satisfying `Q a`. -/
def Keeps (P : Tables → Prop) (x : IngestM Sim α) (Q : α → Tables → Prop) : Prop :=
  ∀ (s : Store) (M : Machine), (s.tables.Small → s.tables.Linked) → P s.tables →
    ((x.exec s M).1.2.tables.Small → (x.exec s M).1.2.tables.Linked) ∧
      s.tables.Sub (x.exec s M).1.2.tables ∧
      ∀ a, (x.exec s M).1.1 = .ok a → Q a (x.exec s M).1.2.tables

/-- A property of tables that holds of any tables holding the rows of tables it holds of. -/
def Tables.Persists (F : Tables → Prop) : Prop := ∀ t t', t.Sub t' → F t → F t'

namespace Keeps

variable {P P' : Tables → Prop} {Q Q' : α → Tables → Prop}

theorem pure {a : α} (h : ∀ t, P t → Q a t) : Keeps P (pure a) Q := by
  intro s M hl hp
  exact ⟨hl, Tables.Sub.refl _, fun b hb => by cases hb; exact h _ hp⟩

theorem throw (e : AtlasError) : Keeps P (throw e : IngestM Sim α) Q := by
  intro s M hl _
  exact ⟨hl, Tables.Sub.refl _, fun b hb => by cases hb⟩

theorem conseq {x : IngestM Sim α} (hx : Keeps P x Q) (hP : ∀ t, P' t → P t)
    (hQ : ∀ a t, Q a t → Q' a t) : Keeps P' x Q' := by
  intro s M hl hp
  obtain ⟨hl', hsub, hpost⟩ := hx s M hl (hP _ hp)
  exact ⟨hl', hsub, fun a ha => hQ a _ (hpost a ha)⟩

/-- What persists as rows are added holds after a step that held before it. -/
theorem frame {x : IngestM Sim α} (hx : Keeps P x Q) {F : Tables → Prop} (hF : Tables.Persists F) :
    Keeps (fun t => P t ∧ F t) x (fun a t => Q a t ∧ F t) := by
  intro s M hl ⟨hp, hf⟩
  obtain ⟨hl', hsub, hpost⟩ := hx s M hl hp
  exact ⟨hl', hsub, fun a ha => ⟨hpost a ha, hF _ _ hsub hf⟩⟩

/-- Steps that keep the links one after another keep them: the second starts from the tables
the first left, with the first's answer. -/
theorem bind {x : IngestM Sim α} {f : α → IngestM Sim β} {R : β → Tables → Prop}
    (hx : Keeps P x Q) (hf : ∀ a, Keeps (Q a) (f a) R) : Keeps P (x >>= f) R := by
  intro s M hl hp
  obtain ⟨hl', hsub, hpost⟩ := hx s M hl hp
  rw [IngestM.exec_bind]
  rcases hxr : x.exec s M with ⟨⟨_ | a, s'⟩, M'⟩
  · rw [hxr] at hl' hsub
    exact ⟨hl', hsub, fun b hb => by cases hb⟩
  · rw [hxr] at hl' hsub hpost
    obtain ⟨hl'', hsub', hpost'⟩ := hf a s' M' hl' (hpost a rfl)
    exact ⟨hl'', hsub.trans hsub', hpost'⟩

theorem map {x : IngestM Sim α} (hx : Keeps P x Q) (g : α → β) :
    Keeps P (g <$> x) fun _ t => ∃ a, Q a t := by
  intro s M hl hp
  obtain ⟨hl', hsub, hpost⟩ := hx s M hl hp
  rw [IngestM.exec_map]
  refine ⟨hl', hsub, fun b hb => ?_⟩
  rcases hxr : (x.exec s M).1.1 with _ | a
  · rw [hxr] at hb
    cases hb
  · exact ⟨a, hpost a hxr⟩

theorem ite {c : Prop} [Decidable c] {x y : IngestM Sim α} (hx : c → Keeps P x Q)
    (hy : ¬ c → Keeps P y Q) : Keeps P (if c then x else y) Q := by
  by_cases h : c
  · rw [if_pos h]
    exact hx h
  · rw [if_neg h]
    exact hy h

/-- A log record keeps the tables as they are. -/
theorem note (level : Level) (message : String) :
    Keeps P (RegisterAtlas.note level message : IngestM Sim Unit) (fun _ => P) := by
  intro s M hl hp
  exact ⟨hl, Tables.Sub.refl _, fun _ _ => hp⟩

/-- **Entering a row keeps the links.** A row whose links name rows of the tables is held
under the id it is given, and the tables stay linked while they are small: an accepted row is
numbered one past its table, and a refused one leaves the tables as they were. -/
theorem enter [Entity α] (row : α)
    (hrow : ∀ s : Store, (s.insert row : Sim _) = insertRow s (Entity.toRow row)) :
    Keeps (fun t => t.Refers (Entity.toRow row)) (RegisterAtlas.enter row)
      (fun id t => t.Holds id (Entity.toRow row)) := by
  intro s M hl hrefs
  rw [IngestM.exec_enter, hrow s]
  rcases hans : ((insertRow s (Entity.toRow row)).run M).1.1 with e | id
  · rw [insertRow_error hans]
    exact ⟨hl, Tables.Sub.refl _, fun b hb => by cases hb⟩
  · obtain ⟨-, htables⟩ := insertRow_ok hans
    rw [htables]
    refine ⟨?_, Tables.sub_add _ _ _, ?_⟩
    · -- small tables after the insert were small before it, so linked and numbered
      intro hsmall
      have hsmall₀ := Tables.Small.of_add hsmall
      have hlinked := hl hsmall₀
      rw [id_of_insertRow hans hlinked.numbered hsmall₀]
      exact hlinked.add hrefs
    · intro b hb
      cases hb
      exact Tables.holds_add _ _ _

/-- Entering a row whose links a persistent property of the tables vouches for: the row is held
and the property still holds. -/
theorem enter_framed [Entity α] (row : α)
    (hrow : ∀ s : Store, (s.insert row : Sim _) = insertRow s (Entity.toRow row))
    {F : Tables → Prop} (hF : Tables.Persists F) (hrefs : ∀ t, F t → t.Refers (Entity.toRow row)) :
    Keeps F (RegisterAtlas.enter row) (fun id t => t.Holds id (Entity.toRow row) ∧ F t) :=
  ((enter row hrow).frame hF).conseq (fun t h => ⟨hrefs t h, h⟩) fun _ _ h => h

/-- A fold of steps that keep the links and an invariant of the accumulator keeps them. -/
theorem foldlM {γ : Type} {I : α → Tables → Prop} {f : α → γ → IngestM Sim α}
    (hf : ∀ a c, Keeps (I a) (f a c) I) :
    ∀ {xs : List γ} {init : α}, Keeps (I init) (xs.foldlM f init) I := by
  intro xs
  induction xs with
  | nil =>
    intro init
    exact Keeps.pure fun _ h => h
  | cons c cs ih =>
    intro init
    rw [List.foldlM_cons]
    exact bind (hf init c) fun _ => ih

end Keeps

/-! ## Ingestion keeps the links -/

/-- The register with id `registerId` is a row. -/
def Tables.HasRegister (registerId : RowId) (t : Tables) : Prop :=
  ∃ x ∈ t.registers, x.id = registerId

/-- The peripheral with id `peripheralId` is a row and is not derived. -/
def Tables.HasOwner (peripheralId : RowId) (t : Tables) : Prop :=
  ∃ p ∈ t.peripherals, p.id = peripheralId ∧ p.row.derivedFromId = none

/-- The MPU with id `mpuId` is a row, and so is every peripheral recorded in `ids`, of that MPU. -/
def Tables.HasRecorded (mpuId : RowId) (ids : PeripheralIds) (t : Tables) : Prop :=
  (∃ m ∈ t.mpus, m.id = mpuId) ∧ ∀ x ∈ ids, ∃ q ∈ t.peripherals, q.id = x.2 ∧ q.row.mpuId = mpuId

theorem Tables.persists_hasRegister (registerId : RowId) :
    Tables.Persists (Tables.HasRegister registerId) := by
  intro t t' hsub ⟨x, hx, he⟩
  exact ⟨x, hsub.registers x hx, he⟩

theorem Tables.persists_hasOwner (peripheralId : RowId) :
    Tables.Persists (Tables.HasOwner peripheralId) := by
  intro t t' hsub ⟨p, hp, he, hd⟩
  exact ⟨p, hsub.peripherals p hp, he, hd⟩

theorem Tables.persists_hasRecorded (mpuId : RowId) (ids : PeripheralIds) :
    Tables.Persists (Tables.HasRecorded mpuId ids) := by
  intro t t' hsub ⟨⟨m, hm, he⟩, hids⟩
  refine ⟨⟨m, hsub.mpus m hm, he⟩, fun x hx => ?_⟩
  obtain ⟨q, hq, hqid, hqmpu⟩ := hids x hx
  exact ⟨q, hsub.peripherals q hq, hqid, hqmpu⟩

/-- A peripheral held under `id` is recorded under its name beside the peripherals recorded before
it, of its MPU. -/
theorem Tables.hasRecorded_cons {t : Tables} {ids : PeripheralIds} {id : RowId}
    {row : PeripheralRow} (hheld : t.Holds id (.peripheral row))
    (hrec : t.HasRecorded row.mpuId ids) : t.HasRecorded row.mpuId ((row.name, id) :: ids) := by
  obtain ⟨hm, hids⟩ := hrec
  refine ⟨hm, fun x hx => ?_⟩
  rcases List.mem_cons.1 hx with rfl | hx
  · exact ⟨_, hheld, rfl, rfl⟩
  · exact hids x hx

theorem keeps_enterField (registerId : RowId) (r : Register) (f : BitField) (sum : Summary) :
    Keeps (Tables.HasRegister registerId) (enterField registerId r f sum : IngestM Sim Summary)
      (fun _ => Tables.HasRegister registerId) := by
  unfold enterField
  split
  · exact Keeps.throw _
  · dsimp only
    refine Keeps.ite (fun _ => Keeps.bind (Keeps.note _ _) fun _ => ?_) fun _ => ?_
    -- the field's row points at its register, which stays a row
    all_goals
      refine Keeps.bind (Keeps.map (Keeps.enter_framed _ (by exact fun _ => rfl)
        (Tables.persists_hasRegister registerId) (by exact fun _ h => h)) _) fun _ => Keeps.pure ?_
      rintro t ⟨_, -, h⟩
      exact h

theorem keeps_enterRegister (peripheralId : RowId) (r : Register) (sum : Summary) :
    Keeps (Tables.HasOwner peripheralId) (enterRegister peripheralId r sum : IngestM Sim Summary)
      (fun _ => Tables.HasOwner peripheralId) := by
  unfold enterRegister
  refine Keeps.bind (Keeps.note _ _) fun _ => ?_
  -- the register's row points at its peripheral, which is not derived
  refine Keeps.bind (Keeps.enter_framed _ (by exact fun _ => rfl)
    (Tables.persists_hasOwner peripheralId) (by exact fun _ h => h)) fun id => ?_
  -- and its fields then point at it
  refine (Keeps.foldlM (I := fun _ t => Tables.HasRegister id t ∧ Tables.HasOwner peripheralId t)
    fun acc f => (keeps_enterField id r f acc).frame (Tables.persists_hasOwner peripheralId)).conseq
      ?_ fun _ _ h => h.2
  rintro t ⟨hheld, hown⟩
  exact ⟨⟨_, hheld, rfl⟩, hown⟩

/-- Entering a peripheral keeps the links, and keeps the MPU and every recorded peripheral
rows. -/
theorem keeps_enterPeripheral (mpuId : RowId) (acc : PeripheralIds × Summary) (per : Peripheral) :
    Keeps (Tables.HasRecorded mpuId acc.1) (enterPeripheral mpuId acc per : IngestM Sim _)
      (fun acc' => Tables.HasRecorded mpuId acc'.1) := by
  obtain ⟨ids, sum⟩ := acc
  unfold enterPeripheral
  refine Keeps.bind (Keeps.note _ _) fun _ => ?_
  extract_lets sum' jp
  -- the rest of the step, from the id of the peripheral it derives from, if any
  have hjp : ∀ derived : Option RowId, Keeps
      (fun t => Tables.HasRecorded mpuId ids t ∧
        ∀ i ∈ derived, ∃ q ∈ t.peripherals, q.id = i ∧ q.row.mpuId = mpuId)
      (jp derived) (fun acc' => Tables.HasRecorded mpuId acc'.1) := by
    intro derived
    simp only [jp]
    -- the new peripheral is recorded under its name, of the same MPU
    refine Keeps.bind (((Keeps.enter _ (by exact fun _ => rfl)).frame
      (Tables.persists_hasRecorded mpuId ids)).conseq (by exact fun _ h => ⟨⟨h.1.1, h.2⟩, h.1⟩)
        (by exact fun _ _ h => (⟨h.1, Tables.hasRecorded_cons h.1 h.2⟩ : _ ∧ _))) fun id => ?_
    split
    · exact Keeps.ite (fun _ => Keeps.bind (Keeps.note _ _) fun _ => Keeps.pure fun _ h => h.2)
        fun _ => Keeps.pure fun _ h => h.2
    · -- a peripheral that is not derived owns the registers entered next
      refine Keeps.bind ((Keeps.foldlM (I := fun _ t => Tables.HasOwner id t ∧
          Tables.HasRecorded mpuId ((per.name, id) :: ids) t) fun acc r =>
        (keeps_enterRegister id r acc).frame (Tables.persists_hasRecorded mpuId _)).conseq ?_
          fun _ _ h => h) fun _ => Keeps.pure fun _ h => h.2
      rintro t ⟨hheld, hrec⟩
      exact ⟨⟨_, hheld, rfl, rfl⟩, hrec⟩
  -- the row a derived peripheral points at was recorded before
  split
  · split
    · rename_i id hl
      obtain ⟨l₁, l₂, rfl, -⟩ := List.lookup_eq_some_iff.1 hl
      refine Keeps.bind (Keeps.pure ?_) fun d => hjp d
      intro t h
      refine ⟨h, fun i hi => ?_⟩
      cases hi
      exact h.2 _ (List.mem_append_right _ List.mem_cons_self)
    · exact Keeps.bind (Keeps.throw _) fun d => hjp d
  · refine Keeps.bind (Keeps.pure ?_) fun d => hjp d
    intro t h
    exact ⟨h, fun i hi => by cases hi⟩

/-- **A whole ingestion keeps the links.** The MPU's row points at nothing, and every
peripheral entered after it is of that MPU. -/
theorem keeps_enterDevice (d : Device) :
    Keeps (fun _ => True) (enterDevice d : IngestM Sim Summary) (fun _ _ => True) := by
  unfold enterDevice
  refine Keeps.bind ((Keeps.enter _ (by exact fun _ => rfl)).conseq (by exact fun _ _ => trivial)
    (by exact fun _ _ h => h)) fun mpuId => ?_
  refine Keeps.bind ((Keeps.foldlM (I := fun acc t => t.HasRecorded mpuId acc.1)
    fun acc per => keeps_enterPeripheral mpuId acc per).conseq ?_ fun _ _ _ => trivial)
      fun _ => ?_
  · intro t hheld
    exact ⟨⟨_, hheld, rfl⟩, fun x hx => by cases hx⟩
  · exact Keeps.bind (Keeps.note _ _) fun _ => Keeps.pure fun _ _ => trivial

/-! ## The stores a session reaches -/

/-- The stores a session of ingestions reaches: a new memory store, a store file just created,
and whatever an ingestion into one of them leaves, whether it finished or stopped at an
error. -/
inductive Ingested : Store → Prop
  | inMemory : Ingested Store.inMemory
  | created {p : String} {M : Machine} {s : Store} :
      ((Store.create p : Sim _).run M).1 = .ok s → Ingested s
  | ingested {s : Store} (d : Device) (M : Machine) :
      Ingested s → Ingested ((ingest s d : Sim _).run M).1.2

/-- Every store a session reaches has tables linked while they are small. -/
theorem linked_of_ingested {s : Store} (h : Ingested s) : s.tables.Small → s.tables.Linked := by
  induction h with
  | inMemory => exact fun _ => Tables.linked_empty
  | created hc =>
    rw [(Store.create_ok hc).1]
    exact fun _ => Tables.linked_empty
  | ingested d M _ ih =>
    rw [ingest_run]
    exact (keeps_enterDevice d _ M ih trivial).1

/-- **Ingested stores are linked and read whole.** In every store a session of ingestions
reaches, on any devices and whether each ingestion finished or stopped at an error, every
peripheral's MPU is a row, a derived peripheral names an earlier peripheral of its MPU, every
register belongs to a peripheral that is not derived and every field to a register. So every
peripheral resolves, and a store with a row dumps whole. -/
theorem ingested_stores_linked {s : Store} (h : Ingested s) (hsmall : s.tables.Small) :
    s.tables.Linked ∧ (∀ p ∈ s.tables.peripherals, ∃ r, resolvePeripheral s p = .ok r) ∧
      ((∃ tb, s.tables.ids tb ≠ []) → ∃ text, dump s = .ok text) := by
  have hl := linked_of_ingested h hsmall
  exact ⟨hl, fun _ hp => resolvePeripheral_ok hl hp, dump_ok hl⟩

/-- A device with one peripheral of one register, ingested into a store in memory. -/
theorem ingested_stores_linked_one_register :
    let r : Register := { name := "R", addressOffset := "0x0" }
    let d : Device :=
      { name := "D", peripherals := [{ name := "P", baseAddress := "0x40000000", registers := [r] }] }
    let s := ((ingest Store.inMemory d : Sim _).run default).1.2
    Ingested s ∧ s.tables.Small ∧ (s.tables.Linked ∧
      (∀ p ∈ s.tables.peripherals, ∃ r, resolvePeripheral s p = .ok r) ∧
      ((∃ tb, s.tables.ids tb ≠ []) → ∃ text, dump s = .ok text)) := by
  intro r d s
  have hingested : Ingested s := .ingested d default .inMemory
  have hsmall : s.tables.Small := by decide +kernel
  exact ⟨hingested, hsmall, ingested_stores_linked hingested hsmall⟩

end RegisterAtlas
