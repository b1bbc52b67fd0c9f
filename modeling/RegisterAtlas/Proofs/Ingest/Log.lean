import Mathlib
import RegisterAtlas.Proofs.Ingest.Prefix
/-!
# What an ingestion logs

An ingestion reports its progress in the log. Each element of a description logs the same
records whenever it is entered (`Element.trace`): a peripheral that it is being processed, and,
when it is derived and declares registers, that they are ignored; a register that it is being
processed; a field, a warning when its bits reach past its register's width. A successful
ingestion logs the records of its elements in document order and then its counts. A failed one
logs the records of the elements it entered, then those the element it stopped at logs before
its row: every record but a derived peripheral's note of the registers it ignores.

The warning compares the field's end, held at the largest 32-bit word, with the register's
width. So it is given exactly when the field's bits, counted exactly, reach past the width and
the width is below the largest word: a register of that width or wider takes no warning, however
far its fields reach.

* `Event`, `Element.events`: what entering an element shows, its records and its row.
* `Emits`: a step whose run shows given events: all of them when it answers, and those before a
  row when it fails there. Its rules put steps together the way the ingestion does.
* `Element.split_events`: a row among the events of some elements is the row of one of them.
* `exec_enterField_logs`: entering a field logs its trace, whether or not its row is entered.
* `trace_field_eq`: a field's trace is its warning exactly when the field reaches past the width
  and the width is below the largest word.
* `ingest_logs`, `ingest_fails_logs`: a successful ingestion logs the traces of its elements,
  then its counts; a failed one, the traces of the elements it entered, then the lead of the next.
-/

namespace RegisterAtlas

/-! ## The end of a field -/

/-- The end of a field is past a width exactly when the field, counted exactly, reaches past it
and the width is below the largest word, where the end is held. -/
theorem Bits.Position.lt_endBit_iff (p : Bits.Position) (w : Nat) :
    w < p.endBit ↔ w < p.offset.toNat + p.width.toNat ∧ w < Bits.maxU32 :=
  lt_min_iff

/-! ## Inserts log nothing -/

/-- An insert touches the machine only through its journal's writer, which logs nothing. -/
theorem Store.quiet_insert [Entity α] (s : Store) (row : α) : Quiet (s.insert row : Sim _) := by
  unfold Store.insert
  split
  · exact Quiet.pure _
  · split
    · refine Quiet.bind (Writer.quiet_appendLine _ _) fun r => ?_
      rcases r with ⟨_ | _, w⟩ <;> exact Quiet.pure _
    · exact Quiet.pure _

theorem Store.insert_logs [Entity α] (s : Store) (row : α) (M : Machine) :
    ((s.insert row : Sim _).run M).2.logs = M.logs :=
  (quiet_insert s row M).1

theorem IngestM.exec_enter_logs [Entity α] (row : α) (s : Store) (M : Machine) :
    ((enter row : IngestM Sim RowId).exec s M).2.logs = M.logs := by
  rw [IngestM.exec_enter]
  exact Store.insert_logs s row M

/-- Entering a row and then answering logs nothing, whether or not the row is entered. -/
theorem IngestM.exec_enter_then_logs [Entity α] (row : α) (b : β) (s : Store) (M : Machine) :
    ((discard (enter row : IngestM Sim RowId) >>= fun _ => pure b : IngestM Sim β).exec s M).2.logs =
      M.logs := by
  rw [IngestM.exec_bind]
  have hlogs : ((discard (enter row : IngestM Sim RowId)).exec s M).2.logs = M.logs := by
    show (((fun _ => ()) <$> (enter row : IngestM Sim RowId)).exec s M).2.logs = M.logs
    rw [IngestM.exec_map, IngestM.exec_enter_logs]
  rcases h : (discard (enter row : IngestM Sim RowId)).exec s M with ⟨⟨e | u, s'⟩, M'⟩ <;>
    rw [h] at hlogs <;> exact hlogs

/-! ## The records of a description -/

/-- The warning for a field of register `r` at position `p`, past the register's width. -/
def fieldWarning (r : Register) (f : BitField) (p : Bits.Position) : LogRecord :=
  ⟨.warn, "Field " ++ r.name ++ "." ++ f.name ++ " (offset " ++ toString p.offset ++ ", " ++
    toString p.width ++ " bits) extends past the " ++ toString (registerWidth r) ++
    "-bit register"⟩

/-- The records that entering an element logs, in order. -/
def Element.trace : Element → List LogRecord
  | .mpu _ => []
  | .peripheral P =>
    ⟨.info, "Processing Peripheral: " ++ P.name⟩ ::
      if P.derivedFrom.isSome && !P.registers.isEmpty then
        [⟨.debug, "Ignoring " ++ toString P.registers.length ++
          " registers declared on derived peripheral " ++ P.name⟩]
      else []
  | .register R => [⟨.debug, "Processing Register: " ++ R.name⟩]
  | .field R F =>
    match Bits.normalize F with
    | .ok p => if p.endBit > registerWidth R then [fieldWarning R F p] else []
    | .error _ => []

/-- The record that closes an ingestion of the device named `name`: its counts. -/
def Summary.report (sum : Summary) (name : String) : LogRecord :=
  ⟨.info, "Converted " ++ name ++ ": " ++ toString sum.peripherals ++ " peripherals (" ++
    toString sum.derived ++ " derived), " ++ toString sum.registers ++ " registers, " ++
    toString sum.fields ++ " fields"⟩

/-! ## Records before and after an element's row -/

/-- The records an element logs before its row is entered: all of them, but for a derived
peripheral's note of the registers it ignores, which follows its row. -/
def Element.lead (el : Element) : List LogRecord :=
  match el with
  | .peripheral P => [⟨.info, "Processing Peripheral: " ++ P.name⟩]
  | _ => el.trace

/-- The records an element logs after its row is entered. -/
def Element.tail (el : Element) : List LogRecord :=
  match el with
  | .peripheral _ => el.trace.tail
  | _ => []

theorem Element.lead_append_tail (el : Element) : el.lead ++ el.tail = el.trace := by
  cases el <;> simp [lead, tail, trace]

/-! ## What a run shows -/

/-- What a step of an ingestion shows: a record goes to the log, or a row is entered. -/
inductive Event
  | record (r : LogRecord)
  | row
  deriving DecidableEq

/-- The records among events, in order. -/
def Event.records (evs : List Event) : List LogRecord :=
  evs.filterMap fun
    | .record r => some r
    | .row => none

@[simp] theorem Event.records_nil : records [] = [] := rfl

@[simp] theorem Event.records_append (evs evs' : List Event) :
    records (evs ++ evs') = records evs ++ records evs' :=
  List.filterMap_append

@[simp] theorem Event.records_cons_record (r : LogRecord) (evs : List Event) :
    records (.record r :: evs) = r :: records evs := rfl

@[simp] theorem Event.records_cons_row (evs : List Event) : records (.row :: evs) = records evs :=
  rfl

@[simp] theorem Event.records_map_record (rs : List LogRecord) : records (rs.map .record) = rs := by
  induction rs <;> simp_all [records]

@[simp] theorem Event.row_not_mem_map_record (rs : List LogRecord) : Event.row ∉ rs.map .record := by
  simp

@[simp] theorem Event.count_row_map_record (rs : List LogRecord) : (rs.map record).count .row = 0 :=
  List.count_eq_zero.2 (row_not_mem_map_record rs)

/-- What entering an element shows: the records before its row, its row, the records after. -/
def Element.events (el : Element) : List Event :=
  el.lead.map .record ++ .row :: el.tail.map .record

@[simp] theorem Element.records_events (el : Element) : Event.records el.events = el.trace := by
  simp [events, ← lead_append_tail]

@[simp] theorem Element.count_events (el : Element) : el.events.count .row = 1 := by
  simp [events]

/-- The events an element shows before its row are the records it logs before it: it shows one
row only. -/
theorem Element.lead_of_events {el : Element} {pre post : List Event}
    (h : el.events = pre ++ .row :: post) : pre = el.lead.map .record :=
  (((List.append_cons_inj_of_notMem (Event.row_not_mem_map_record _)
    (Event.row_not_mem_map_record _)).1 h).1).symm

theorem Element.records_flatMap_events (els : List Element) :
    Event.records (els.flatMap Element.events) = els.flatMap Element.trace := by
  induction els <;> simp_all

theorem Element.count_flatMap_events (els : List Element) :
    (els.flatMap Element.events).count .row = els.length := by
  induction els <;> simp_all [List.count_append, Nat.add_comm]

/-- **A row among the events of some elements is the row of one of them.** Before it stand the
events of the elements before that one, and the records it logs before its row. -/
theorem Element.split_events {els : List Element} {pre post : List Event}
    (h : els.flatMap Element.events = pre ++ .row :: post) :
    ∃ done el rest, els = done ++ el :: rest ∧
      pre = done.flatMap Element.events ++ el.lead.map .record := by
  induction els generalizing pre with
  | nil => simp at h
  | cons el els ih =>
    rw [List.flatMap_cons] at h
    rcases List.append_eq_append_iff.1 h with ⟨more, hpre, hrest⟩ | ⟨more, hev, hpost⟩
    · -- the row is past the first element's events
      obtain ⟨done, el', rest, rfl, hmore⟩ := ih hrest
      exact ⟨el :: done, el', rest, rfl, by rw [hpre, hmore]; simp⟩
    · cases more with
      | nil =>
        -- the first element's events end just before the row
        have hrest : els.flatMap Element.events = [] ++ .row :: post := by simpa using hpost.symm
        obtain ⟨done, el', rest, rfl, hnil⟩ := ih hrest
        refine ⟨el :: done, el', rest, rfl, ?_⟩
        rw [List.append_nil] at hev
        rw [List.flatMap_cons, List.append_assoc, ← hnil, List.append_nil, hev]
      | cons x more =>
        -- the row is the first element's own
        obtain ⟨rfl, -⟩ := List.cons.inj hpost
        exact ⟨[], el, els, rfl, by simpa using Element.lead_of_events hev⟩

/-- The rows of all four tables. -/
def Tables.rowCount (t : Tables) : Nat :=
  (t.ids .mpus).length + (t.ids .peripherals).length + (t.ids .registers).length +
    (t.ids .fields).length

theorem Tables.rowCount_add (t : Tables) (id : RowId) (row : Row) :
    (t.add id row).rowCount = t.rowCount + 1 := by
  have hself := ids_add_self t id row
  have hother : ∀ tb, tb ≠ row.table → (t.add id row).ids tb = t.ids tb :=
    fun tb h => ids_add_of_ne t id h
  cases row <;> simp only [Row.table] at hself hother <;> simp [rowCount, hself, hother] <;> omega

/-- A step of an ingestion whose run shows the events `evs`. When it answers `a` it has logged the
records of all of them and then `L a`, and entered a row for each row event. When it fails, it
failed at a row: it has logged the records and entered the rows of the events before that one. -/
structure Emits (x : IngestM Sim α) (evs : List Event) (L : α → List LogRecord) : Prop where
  ok : ∀ s M a, (x.exec s M).1.1 = .ok a →
    (x.exec s M).2.logs.toList = M.logs.toList ++ Event.records evs ++ L a ∧
      (x.exec s M).1.2.tables.rowCount = s.tables.rowCount + evs.count .row
  error : ∀ s M e, (x.exec s M).1.1 = .error e → ∃ pre post, evs = pre ++ .row :: post ∧
    (x.exec s M).2.logs.toList = M.logs.toList ++ Event.records pre ∧
      (x.exec s M).1.2.tables.rowCount = s.tables.rowCount + pre.count .row

namespace Emits

variable {x : IngestM Sim α} {evs evs₁ evs₂ : List Event} {L L' : α → List LogRecord}

theorem congr (hx : Emits x evs L) {evs' : List Event} (hevs : evs = evs') (hL : ∀ a, L a = L' a) :
    Emits x evs' L' := by
  subst hevs
  exact ⟨fun s M a ha => by rw [← hL]; exact hx.ok s M a ha, hx.error⟩

theorem pure (a : α) : Emits (Pure.pure a : IngestM Sim α) [] fun _ => [] :=
  ⟨fun s M b _ => by simp [Event.records], fun s M e he => by simp at he⟩

theorem note (level : Level) (message : String) :
    Emits (RegisterAtlas.note level message : IngestM Sim Unit) [.record ⟨level, message⟩]
      fun _ => [] := by
  refine ⟨fun s M a _ => ?_, fun s M e he => ?_⟩
  · rw [IngestM.exec_note]
    simp [Event.records]
  · rw [IngestM.exec_note] at he
    cases he

/-- Entering a row shows the row: entered when the insert answers, and with nothing entered when
it fails. -/
theorem enter [Entity β] (row : β)
    (hrow : ∀ s : Store, (s.insert row : Sim _) = insertRow s (Entity.toRow row)) :
    Emits (RegisterAtlas.enter row) [.row] fun _ => [] := by
  refine ⟨fun s M id hid => ?_, fun s M e he => ⟨[], [], rfl, ?_⟩⟩
  all_goals
    have hlogs := IngestM.exec_enter_logs row s M
    rw [IngestM.exec_enter, hrow s] at hlogs ⊢
  · rw [IngestM.exec_enter, hrow s] at hid
    refine ⟨by simp [hlogs, Event.records], ?_⟩
    rw [(insertRow_ok hid).2, Tables.rowCount_add]
    rfl
  · rw [IngestM.exec_enter, hrow s] at he
    refine ⟨by simp [hlogs, Event.records], ?_⟩
    rw [insertRow_error he]
    rfl

/-- A step that fails at once fails where a row would be entered. -/
theorem throw (e : AtlasError) (post : List Event) {L : α → List LogRecord} :
    Emits (MonadExcept.throw e : IngestM Sim α) (.row :: post) L := by
  refine ⟨fun s M a ha => ?_, fun s M e' _ => ⟨[], post, rfl, ?_⟩⟩
  · rw [IngestM.exec_throw] at ha
    cases ha
  · simp [Event.records]

/-- A step that fails at once stops whatever follows it. -/
theorem throw_bind (e : AtlasError) (f : α → IngestM Sim β) (post : List Event)
    {L : β → List LogRecord} : Emits (MonadExcept.throw e >>= f) (.row :: post) L := by
  refine ⟨fun s M b hb => ?_, fun s M e' _ => ⟨[], post, rfl, ?_⟩⟩
  · rw [IngestM.exec_bind, IngestM.exec_throw] at hb
    cases hb
  · rw [IngestM.exec_bind, IngestM.exec_throw]
    simp [Event.records]

/-- Steps one after another show the first's events, then the second's. -/
theorem bind {f : α → IngestM Sim β} {L : β → List LogRecord} (hx : Emits x evs₁ fun _ => [])
    (hf : ∀ a, Emits (f a) evs₂ L) : Emits (x >>= f) (evs₁ ++ evs₂) L := by
  constructor
  · intro s M b hb
    rw [IngestM.exec_bind] at hb ⊢
    rcases hxr : x.exec s M with ⟨⟨e | a, s'⟩, M'⟩
    · rw [hxr] at hb
      cases hb
    · rw [hxr] at hb
      dsimp only at hb ⊢
      obtain ⟨hlogs, hrows⟩ := hx.ok s M a (by rw [hxr])
      obtain ⟨hlogs', hrows'⟩ := (hf a).ok s' M' b hb
      rw [hxr] at hlogs hrows
      refine ⟨by rw [hlogs', hlogs]; simp, ?_⟩
      rw [hrows', hrows, List.count_append]
      omega
  · intro s M e he
    rw [IngestM.exec_bind] at he ⊢
    rcases hxr : x.exec s M with ⟨⟨e₁ | a, s'⟩, M'⟩
    · -- the first step failed at one of its own rows
      obtain ⟨pre, post, hevs, hlogs, hrows⟩ := hx.error s M e₁ (by rw [hxr])
      rw [hxr] at hlogs hrows
      exact ⟨pre, post ++ evs₂, by rw [hevs]; simp, hlogs, hrows⟩
    · -- the second failed, after all the first's events
      rw [hxr] at he
      dsimp only at he ⊢
      obtain ⟨hlogs, hrows⟩ := hx.ok s M a (by rw [hxr])
      obtain ⟨pre, post, hevs, hlogs', hrows'⟩ := (hf a).error s' M' e he
      rw [hxr] at hlogs hrows
      refine ⟨evs₁ ++ pre, post, by rw [hevs]; simp, by rw [hlogs', hlogs]; simp, ?_⟩
      rw [hrows', hrows, List.count_append]
      omega

theorem note_bind {level : Level} {message : String} {f : Unit → IngestM Sim β}
    {L : β → List LogRecord} (hf : ∀ u, Emits (f u) evs L) :
    Emits (RegisterAtlas.note level message >>= f) (.record ⟨level, message⟩ :: evs) L :=
  bind (note level message) hf

theorem pure_bind {a : α} {f : α → IngestM Sim β} {L : β → List LogRecord}
    (hf : Emits (f a) evs L) : Emits (Pure.pure a >>= f) evs L := by
  refine ⟨fun s M b hb => ?_, fun s M e he => ?_⟩
  · rw [IngestM.exec_bind, IngestM.exec_pure] at hb ⊢
    exact hf.ok s M b hb
  · rw [IngestM.exec_bind, IngestM.exec_pure] at he ⊢
    exact hf.error s M e he

theorem map (hx : Emits x evs fun _ => []) (g : α → β) : Emits (g <$> x) evs fun _ => [] := by
  refine ⟨fun s M b hb => ?_, fun s M e he => ?_⟩
  · rw [IngestM.exec_map] at hb ⊢
    rcases hxr : (x.exec s M).1.1 with e | a
    · rw [hxr] at hb
      cases hb
    · exact hx.ok s M a hxr
  · rw [IngestM.exec_map] at he ⊢
    rcases hxr : (x.exec s M).1.1 with e' | a
    · exact hx.error s M e' hxr
    · rw [hxr] at he
      cases he

theorem ite {c : Prop} [Decidable c] {y : IngestM Sim α} {evsx evsy : List Event}
    (hx : Emits x evsx L) (hy : Emits y evsy L) :
    Emits (if c then x else y) (if c then evsx else evsy) L := by
  by_cases h : c
  · simpa only [if_pos h] using hx
  · simpa only [if_neg h] using hy

/-- A fold shows the events of each item in turn. -/
theorem foldlM {γ : Type} {f : α → γ → IngestM Sim α} (evc : γ → List Event)
    (hf : ∀ a c, Emits (f a c) (evc c) fun _ => []) :
    ∀ (cs : List γ) (init : α), Emits (cs.foldlM f init) (cs.flatMap evc) fun _ => []
  | [], init => pure init
  | c :: cs, init => by
    rw [List.foldlM_cons, List.flatMap_cons]
    exact bind (hf init c) fun a => foldlM evc hf cs a

end Emits

/-! ## An ingestion step by step -/

/-- **Entering a field** logs its trace, whether or not its row is entered: the warning goes to
the log before the row is inserted. -/
theorem exec_enterField_logs (registerId : RowId) (r : Register) (f : BitField) (sum : Summary)
    (s : Store) (M : Machine) :
    ((enterField registerId r f sum).exec s M).2.logs.toList =
      M.logs.toList ++ (Element.field r f).trace := by
  unfold enterField
  split
  · rename_i cause hbits
    simp [Element.trace, hbits]
  · rename_i p hbits
    dsimp only
    split
    · rename_i hpast
      rw [IngestM.exec_bind, IngestM.exec_note, IngestM.exec_enter_then_logs]
      simp [Element.trace, hbits, hpast, fieldWarning]
    · rename_i hwithin
      rw [IngestM.exec_enter_then_logs]
      simp [Element.trace, hbits, hwithin]

/-- A field's trace is its warning exactly when its bits reach past the register's width and the
width is below the largest word. -/
theorem trace_field_eq (r : Register) (f : BitField) :
    (Element.field r f).trace =
      match Bits.normalize f with
      | .ok p =>
        if registerWidth r < p.offset.toNat + p.width.toNat ∧ registerWidth r < Bits.maxU32 then
          [fieldWarning r f p]
        else []
      | .error _ => [] := by
  simp only [Element.trace, gt_iff_lt, Bits.Position.lt_endBit_iff]

theorem emits_enterField (registerId : RowId) (r : Register) (f : BitField) (sum : Summary) :
    Emits (enterField registerId r f sum) (Element.field r f).events fun _ => [] := by
  unfold enterField
  split
  · rename_i cause hbits
    -- bits that do not normalize stop the step where the row would be entered
    exact (Emits.throw _ []).congr (by simp [Element.events, Element.lead, Element.tail,
      Element.trace, hbits]) fun _ => rfl
  · rename_i p hbits
    dsimp only
    split
    · rename_i hpast
      refine (Emits.note_bind fun _ => Emits.bind (Emits.map (Emits.enter _ fun _ => rfl) _)
        fun _ => Emits.pure _).congr ?_ fun _ => rfl
      simp [Element.events, Element.lead, Element.tail, Element.trace, hbits, hpast, fieldWarning]
    · rename_i hwithin
      refine (Emits.bind (Emits.map (Emits.enter _ fun _ => rfl) _)
        fun _ => Emits.pure _).congr ?_ fun _ => rfl
      simp [Element.events, Element.lead, Element.tail, Element.trace, hbits, hwithin]

theorem emits_enterRegister (peripheralId : RowId) (r : Register) (sum : Summary) :
    Emits (enterRegister peripheralId r sum) (r.elements.flatMap Element.events) fun _ => [] := by
  unfold enterRegister
  -- the register's record and its row, then its fields
  refine (Emits.note_bind fun _ => Emits.bind (Emits.enter _ fun _ => rfl) fun registerId =>
    Emits.foldlM (fun f => (Element.field r f).events) (fun acc f => emits_enterField registerId r f acc)
      r.fields _).congr ?_ fun _ => rfl
  simp [Register.elements, Element.events, Element.lead, Element.tail, Element.trace,
    List.flatMap_map]

theorem emits_enterPeripheral (mpuId : RowId) (acc : PeripheralIds × Summary) (P : Peripheral) :
    Emits (enterPeripheral mpuId acc P) (P.elements.flatMap Element.events) fun _ => [] := by
  obtain ⟨ids, sum⟩ := acc
  -- the peripheral's first record, then its row, the rest of its records and those of the
  -- registers it owns
  have hsplit : P.elements.flatMap Element.events =
      .record ⟨.info, "Processing Peripheral: " ++ P.name⟩ :: .row ::
        ((Element.peripheral P).tail.map .record ++
          P.ownRegisters.flatMap fun R => R.elements.flatMap Element.events) := by
    simp [Peripheral.elements, Element.events, Element.lead, List.flatMap_assoc]
  rw [hsplit]
  unfold enterPeripheral
  refine Emits.note_bind fun _ => ?_
  extract_lets sum' jp
  -- the rest of the step, from the id of the peripheral it is derived from, if any
  have hjp : ∀ derived : Option RowId, derived.isSome = P.derivedFrom.isSome →
      Emits (jp derived) (.row :: ((Element.peripheral P).tail.map .record ++
        P.ownRegisters.flatMap fun R => R.elements.flatMap Element.events)) fun _ => [] := by
    intro derived hsome
    simp only [jp]
    refine (Emits.bind (Emits.enter _ fun _ => rfl) fun id => ?_).congr (List.singleton_append)
      fun _ => rfl
    split
    · -- a derived peripheral owns no registers
      have hfrom : P.derivedFrom.isSome = true := by rw [← hsome]; rfl
      refine (Emits.ite (Emits.note_bind fun _ => Emits.pure _) (Emits.pure _)).congr ?_
        fun _ => rfl
      by_cases hregs : P.registers = [] <;>
        simp [Element.tail, Element.trace, hfrom, ownRegisters_of_isSome hfrom, hregs]
    · -- the registers of one that is not, each with its fields
      have hfrom : P.derivedFrom.isSome = false := by rw [← hsome]; rfl
      refine (Emits.bind (Emits.foldlM (fun R => R.elements.flatMap Element.events)
        (fun acc R => emits_enterRegister id R acc) P.registers sum') fun _ =>
          Emits.pure _).congr ?_ fun _ => rfl
      simp [Element.tail, Element.trace, hfrom, ownRegisters_of_isNone hfrom]
  split
  · rename_i target hfrom
    split
    · exact Emits.pure_bind (hjp _ (by simp [hfrom]))
    · -- a derivation from a name not yet entered stops where the row would be entered
      exact Emits.throw_bind _ _ _
  · rename_i hfrom
    exact Emits.pure_bind (hjp none (by simp [hfrom]))

theorem emits_enterDevice (d : Device) :
    Emits (enterDevice d) (d.elements.flatMap Element.events) fun sum => [sum.report d.name] := by
  unfold enterDevice
  refine (Emits.bind (Emits.enter _ fun _ => rfl) fun mpuId => Emits.bind (Emits.foldlM _
    (fun acc P => emits_enterPeripheral mpuId acc P) d.peripherals _) fun acc =>
      show Emits _ [] _ from ?_).congr ?_ fun _ => rfl
  · -- the counts go to the log last, and are the answer
    obtain ⟨ids, sum⟩ := acc
    refine ⟨fun s M b hb => ?_, fun s M e he => ?_⟩
    · simp only [IngestM.exec_bind, IngestM.exec_note, IngestM.exec_pure] at hb ⊢
      cases hb
      simp [Summary.report, Event.records]
    · simp only [IngestM.exec_bind, IngestM.exec_note, IngestM.exec_pure] at he
      cases he
  · simp [Device.elements, Element.events, Element.lead, Element.tail, Element.trace,
      List.flatMap_assoc]

/-- **A successful ingestion's log.** It holds the records of the description's elements in
document order, then the counts. -/
theorem ingest_logs {s : Store} {d : Device} {M : Machine} {sum : Summary}
    (h : ((ingest s d : Sim _).run M).1.1 = .ok sum) :
    ((ingest s d : Sim _).run M).2.logs.toList =
      M.logs.toList ++ d.elements.flatMap Element.trace ++ [sum.report d.name] := by
  rw [ingest_run] at h ⊢
  rw [((emits_enterDevice d).ok s M sum h).1, Element.records_flatMap_events]

/-- **A failed ingestion's log.** The ingestion entered the description's first elements, a row
each, and stopped at the next: the log holds the records of the elements entered, then those the
next logs before its row. -/
theorem ingest_fails_logs {s : Store} {d : Device} {M : Machine} {e : AtlasError}
    (h : ((ingest s d : Sim _).run M).1.1 = .error e) :
    ∃ done el rest, d.elements = done ++ el :: rest ∧
      ((ingest s d : Sim _).run M).2.logs.toList =
        M.logs.toList ++ done.flatMap Element.trace ++ el.lead ∧
      ((ingest s d : Sim _).run M).1.2.tables.rowCount = s.tables.rowCount + done.length := by
  rw [ingest_run] at h ⊢
  obtain ⟨pre, post, hevs, hlogs, hrows⟩ := (emits_enterDevice d).error s M e h
  obtain ⟨done, el, rest, hdoc, rfl⟩ := Element.split_events hevs
  refine ⟨done, el, rest, hdoc, ?_, ?_⟩
  · rw [hlogs]
    simp [Element.records_flatMap_events]
  · rw [hrows, List.count_append, Element.count_flatMap_events, Event.count_row_map_record,
      Nat.add_zero]

/-- An element's records stand together among those of the elements of its description. -/
theorem flatMap_trace_of_mem {el : Element} {els : List Element} (h : el ∈ els) :
    ∃ before after, els.flatMap Element.trace = before ++ el.trace ++ after := by
  obtain ⟨before, after, rfl⟩ := List.append_of_mem h
  refine ⟨before.flatMap Element.trace, after.flatMap Element.trace, ?_⟩
  rw [List.flatMap_append, List.flatMap_cons, List.append_assoc]

/-- **The warning for a field past its register.** Entering a field logs the warning exactly when
the field's bits, counted exactly, reach past the register's width and that width is below the
largest 32-bit word: the field's end is held at that word, so a register as wide or wider never
takes the warning. The warning goes to the log whether or not the field's row is then entered.
A successful ingestion of a description with the field logs the records of each element in
document order, the field's among them, then its counts. An ingestion that fails has entered the
document's first elements, a row each, and logged their records, the field's among them when it
is one of them, then the records the element it stopped at logs before its row (a field's are
all of its records). -/
theorem field_warning_below_word_limit (r : Register) (f : BitField) :
    (Element.field r f).trace =
      (match Bits.normalize f with
      | .ok p =>
        if registerWidth r < p.offset.toNat + p.width.toNat ∧ registerWidth r < Bits.maxU32 then
          [fieldWarning r f p]
        else []
      | .error _ => []) ∧
    (∀ (registerId : RowId) (sum : Summary) (s : Store) (M : Machine),
      ((enterField registerId r f sum).exec s M).2.logs.toList =
        M.logs.toList ++ (Element.field r f).trace) ∧
    (∀ (s : Store) (d : Device) (M : Machine) (sum : Summary),
      ((ingest s d : Sim _).run M).1.1 = .ok sum → Element.field r f ∈ d.elements →
      ∃ before after, d.elements.flatMap Element.trace = before ++ (Element.field r f).trace ++ after ∧
        ((ingest s d : Sim _).run M).2.logs.toList =
          M.logs.toList ++ d.elements.flatMap Element.trace ++ [sum.report d.name]) ∧
    (∀ (s : Store) (d : Device) (M : Machine) (e : AtlasError),
      ((ingest s d : Sim _).run M).1.1 = .error e →
      ∃ done el rest, d.elements = done ++ el :: rest ∧
        ((ingest s d : Sim _).run M).2.logs.toList =
          M.logs.toList ++ done.flatMap Element.trace ++ el.lead ∧
        ((ingest s d : Sim _).run M).1.2.tables.rowCount = s.tables.rowCount + done.length ∧
        (Element.field r f).lead = (Element.field r f).trace ∧
        (Element.field r f ∈ done →
          ∃ before after, done.flatMap Element.trace = before ++ (Element.field r f).trace ++ after)) := by
  refine ⟨trace_field_eq r f, fun registerId => exec_enterField_logs registerId r f,
    fun s d M sum hok hmem => ?_, fun s d M e herr => ?_⟩
  · obtain ⟨before, after, hsplit⟩ := flatMap_trace_of_mem hmem
    exact ⟨before, after, hsplit, ingest_logs hok⟩
  · obtain ⟨done, el, rest, hdoc, hlogs, hrows⟩ := ingest_fails_logs herr
    exact ⟨done, el, rest, hdoc, hlogs, hrows, rfl, flatMap_trace_of_mem⟩

/-- A register of the default 32 bits, `R`, with a field `F` over bits 30 to 33 and a second
field after it. Where the second is the one bit `H` the ingestion answers, and its log holds
`F`'s warning among its elements' records; where it is `G`, whose width is no number, the
ingestion stops at `G`, with the warning logged. -/
theorem field_warning_past_default_width :
    let f : BitField := { name := "F", bitOffset := some "30", bitWidth := some "4" }
    let register := fun second : BitField =>
      ({ name := "R", addressOffset := "0", fields := [f, second] } : Register)
    let device := fun second : BitField =>
      ({ name := "D",
         peripherals := [{ name := "P", baseAddress := "0", registers := [register second] }] } :
        Device)
    let h : BitField := { name := "H", bitOffset := some "0", bitWidth := some "1" }
    let g : BitField := { name := "G", bitOffset := some "0", bitWidth := some "x" }
    ((ingest Store.inMemory (device h) : Sim _).run default).1.1 =
      .ok { mpuId := 1, peripherals := 1, registers := 1, fields := 2 } ∧
    ((ingest Store.inMemory (device h) : Sim _).run default).2.logs.toList.map LogRecord.render =
      ["INFO Processing Peripheral: P", "DEBUG Processing Register: R",
        "WARN Field R.F (offset 30, 4 bits) extends past the 32-bit register",
        "INFO Converted D: 1 peripherals (0 derived), 1 registers, 2 fields"] ∧
    ((ingest Store.inMemory (device g) : Sim _).run default).1.1 =
      .error (.malformedField "R" "G" (.invalidInteger .bitWidth "x")) ∧
    ((ingest Store.inMemory (device g) : Sim _).run default).2.logs.toList.map LogRecord.render =
      ["INFO Processing Peripheral: P", "DEBUG Processing Register: R",
        "WARN Field R.F (offset 30, 4 bits) extends past the 32-bit register"] := by
  intro f register device h g
  have hok : ((ingest Store.inMemory (device h) : Sim _).run default).1.1 =
      .ok { mpuId := 1, peripherals := 1, registers := 1, fields := 2 } := by
    decide +kernel
  have herr : ((ingest Store.inMemory (device g) : Sim _).run default).1.1 =
      .error (.malformedField "R" "G" (.invalidInteger .bitWidth "x")) := by
    decide +kernel
  -- `F` is the fourth element: the MPU, the peripheral and the register come first
  have hmem : Element.field (register h) f ∈ (device h).elements :=
    List.mem_cons_of_mem _ (List.mem_cons_of_mem _ (List.mem_cons_of_mem _ List.mem_cons_self))
  obtain ⟨-, -, -, hlogs⟩ := (field_warning_below_word_limit (register h) f).2.2.1 _ _ _ _ hok hmem
  obtain ⟨done, el, rest, hdoc, hfail, hrows, -⟩ :=
    (field_warning_below_word_limit (register g) f).2.2.2 _ _ _ _ herr
  -- four rows were entered, the MPU's, the peripheral's, the register's and `F`'s: so the run
  -- stopped at `G`, which logs nothing before its row
  have hfour : done.length = 4 := by
    have hcount : ((ingest Store.inMemory (device g) : Sim _).run default).1.2.tables.rowCount = 4 := by
      decide +kernel
    rw [hrows] at hcount
    exact Nat.add_left_cancel (hcount.trans (by rfl : 4 = 0 + 4))
  have hdone : done = (device g).elements.take 4 := by
    rw [hdoc, List.take_left' hfour]
  have hlead : el.lead = [] := by
    have hhead : ((device g).elements.drop 4).head?.map Element.lead = some [] := by
      decide +kernel
    rw [hdoc, List.drop_left' hfour] at hhead
    simpa using hhead
  refine ⟨hok, ?_, herr, ?_⟩
  · rw [hlogs]
    decide +kernel
  · rw [hfail, hdone, hlead]
    decide +kernel

/-- A field that ends one bit past the largest 32-bit word, in a register that wide: its bits
reach past the register, yet the ingestion, which enters it, logs no warning. -/
theorem field_past_largest_word_unwarned :
    ((ingest Store.inMemory
        { name := "D",
          peripherals := [
            { name := "P", baseAddress := "0",
              registers := [
                { name := "R", addressOffset := "0", size := some "4294967295",
                  fields := [{ name := "F", bitOffset := some "4294967295", bitWidth := some "1" }] }] }] }
        : Sim _).run default).2.logs.toList.map LogRecord.render =
      ["INFO Processing Peripheral: P", "DEBUG Processing Register: R",
        "INFO Converted D: 1 peripherals (0 derived), 1 registers, 1 fields"] := by
  decide +kernel

end RegisterAtlas
