import Mathlib
import RegisterAtlas.Store.Basic
import RegisterAtlas.Proofs.Disk.Writer
/-!
# What an insert does

The effect of `Store.insert` on a store and on the machine it runs on. The check and the
numbering (`Store.assignId`) decide the answer; an accepted row is appended to its table, and a
journal store first writes the row's journal line through its writer. When the machine refuses
that line the insert fails with the machine's error, and the store keeps its tables and the
writer the refusal left.

* `Tables.push` appends to one table and leaves the other three alone (the `push_*` lemmas).
* `Store.assignId_congr`: two writable stores with the same tables accept and number a row
  alike; `Store.eq_nextId_of_assignId`: an accepted row gets `Store.nextId`.
* `Store.insert_run_memory`, `Store.insert_run_journal`: an insert on the modelled machine.
  Only a journal store touches the machine, and only through its writer.
-/

namespace RegisterAtlas

namespace Tables

variable (t : Tables)

@[simp] theorem push_mpu_mpus (r : Stored MpuRow) : (t.push r).mpus = t.mpus.push r := rfl
@[simp] theorem push_mpu_peripherals (r : Stored MpuRow) : (t.push r).peripherals = t.peripherals :=
  rfl
@[simp] theorem push_mpu_registers (r : Stored MpuRow) : (t.push r).registers = t.registers := rfl
@[simp] theorem push_mpu_fields (r : Stored MpuRow) : (t.push r).fields = t.fields := rfl

@[simp] theorem push_peripheral_mpus (r : Stored PeripheralRow) : (t.push r).mpus = t.mpus := rfl
@[simp] theorem push_peripheral_peripherals (r : Stored PeripheralRow) :
    (t.push r).peripherals = t.peripherals.push r := rfl
@[simp] theorem push_peripheral_registers (r : Stored PeripheralRow) :
    (t.push r).registers = t.registers := rfl
@[simp] theorem push_peripheral_fields (r : Stored PeripheralRow) : (t.push r).fields = t.fields :=
  rfl

@[simp] theorem push_register_mpus (r : Stored RegisterRow) : (t.push r).mpus = t.mpus := rfl
@[simp] theorem push_register_peripherals (r : Stored RegisterRow) :
    (t.push r).peripherals = t.peripherals := rfl
@[simp] theorem push_register_registers (r : Stored RegisterRow) :
    (t.push r).registers = t.registers.push r := rfl
@[simp] theorem push_register_fields (r : Stored RegisterRow) : (t.push r).fields = t.fields := rfl

@[simp] theorem push_field_mpus (r : Stored FieldRow) : (t.push r).mpus = t.mpus := rfl
@[simp] theorem push_field_peripherals (r : Stored FieldRow) :
    (t.push r).peripherals = t.peripherals := rfl
@[simp] theorem push_field_registers (r : Stored FieldRow) : (t.push r).registers = t.registers :=
  rfl
@[simp] theorem push_field_fields (r : Stored FieldRow) : (t.push r).fields = t.fields.push r := rfl

end Tables

namespace Store

variable [Entity α]

/-- Whether a store accepts inserts: it is kept in memory or in a journal. -/
def Writable (s : Store) : Prop := s.backing ≠ .readOnly

theorem writable_memory {s : Store} (h : s.backing = .memory) : s.Writable := by
  simp [Writable, h]

theorem writable_journal {s : Store} {w : Writer} (h : s.backing = .journal w) :
    s.Writable := by
  simp [Writable, h]

/-- The check and the numbering read only the tables, once the store is writable. -/
theorem assignId_congr {s s' : Store} (row : α) (ht : s.tables = s'.tables) (hs : s.Writable)
    (hs' : s'.Writable) : s.assignId row = s'.assignId row := by
  unfold assignId nextId
  rw [ht]
  cases hb : s.backing <;> cases hb' : s'.backing <;> simp_all [Writable]

theorem writable_of_assignId {s : Store} {row : α} {id : RowId} (h : s.assignId row = .ok id) :
    s.Writable := by
  intro hb
  simp only [assignId, hb] at h
  split at h <;> cases h

theorem eq_nextId_of_assignId {s : Store} {row : α} {id : RowId} (h : s.assignId row = .ok id) :
    id = nextId α s := by
  simp only [assignId] at h
  split at h
  · cases h
  · split at h
    · cases h
    · exact (Except.ok.inj h).symm

end Store

namespace Store

variable [Entity α]

/-- A row its check refuses leaves the store and the machine as they were. -/
theorem insert_run_of_error {s : Store} {row : α} {e : AtlasError} (h : s.assignId row = .error e)
    (M : Machine) : (s.insert row : Sim _).run M = ((.error e, s), M) := by
  unfold insert
  rw [h]
  rfl

/-- An insert into a memory store: the machine is untouched. -/
theorem insert_run_memory (s : Store) (row : α) (M : Machine) (h : s.backing = .memory) :
    (s.insert row : Sim _).run M =
      (match s.assignId row with
        | .error e => (.error e, s)
        | .ok id => (.ok id, { s with tables := s.tables.push (⟨id, row⟩ : Stored α) }), M) := by
  unfold insert
  cases s.assignId row with
  | error e => rfl
  | ok id => simp [h]; rfl

/-- An insert into a journal store: the row's journal line goes through the writer before the
row is appended; a refused line leaves the tables, and the writer as the refusal left it. -/
theorem insert_run_journal (s : Store) (row : α) (M : Machine) {w : Writer}
    (h : s.backing = .journal w) :
    (s.insert row : Sim _).run M =
      match s.assignId row with
      | .error e => ((.error e, s), M)
      | .ok id =>
        match (w.appendLine (entryLine id (Entity.toRow row)).toUTF8 : Sim _).run M with
        | ((.error e, w'), M') => ((.error (.io e), { s with backing := .journal w' }), M')
        | ((.ok (), w'), M') =>
          ((.ok id, { s with tables := s.tables.push (⟨id, row⟩ : Stored α),
                             backing := .journal w' }), M') := by
  unfold insert
  cases s.assignId row with
  | error e => rfl
  | ok id =>
    simp only [h, StateT.run_bind]
    rcases (w.appendLine (entryLine id (Entity.toRow row)).toUTF8 : Sim _).run M with
      ⟨⟨_ | _, w'⟩, M'⟩ <;> rfl

end Store

end RegisterAtlas
