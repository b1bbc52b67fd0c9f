import Std.Data.HashMap
/-!
# Table rows

The store keeps four tables, one per level of a device description: MPUs, peripherals, registers
and fields. Ownership is strictly hierarchical: an MPU owns peripherals, a peripheral owns
registers, a register owns fields, and each child row carries its parent's id. A peripheral's
`derivedFromId` is the only reference within one level; it is a lookup key, not ownership.

* `Table` names the four tables, `Row` is a row of any of them.
* `Entity` gives, for each row type, its table, its place in `Tables`, its unique key (the name
  of an MPU or a peripheral) and its parent id.
* `Tables` holds the four tables, each in id order, and an index of the rows of each parent by
  their positions, which `Tables.push` keeps up to date.
-/

namespace RegisterAtlas

/-- A row id. Ids start at 1 and increase within each table; a stored file may hold any 64-bit
signed id. -/
abbrev RowId := Int

/-- The smallest 64-bit signed number. -/
def minId : Int := -Int.pow 2 63

/-- The largest 64-bit signed number. -/
def maxId : Int := Int.pow 2 63 - 1

/-- The id after `id`, as 64-bit signed arithmetic computes it: the largest id wraps around to
the smallest. -/
def RowId.next (id : RowId) : RowId := if id = maxId then minId else id + 1

/-- The four tables of the store. -/
inductive Table
  /-- Devices (microcontrollers). -/
  | mpus
  /-- Peripherals of a device. -/
  | peripherals
  /-- Registers of a peripheral. -/
  | registers
  /-- Bit fields of a register. -/
  | fields
  deriving Repr, DecidableEq, Inhabited, Hashable

/-- The table's name, as it appears in messages and in the journal. -/
def Table.name : Table → String
  | .mpus => "mpus"
  | .peripherals => "peripherals"
  | .registers => "registers"
  | .fields => "fields"

/-- The tables in declaration order. -/
def Table.all : List Table := [.mpus, .peripherals, .registers, .fields]

/-- The table of the given name. -/
def Table.named (s : String) : Option Table := Table.all.find? (·.name = s)

/-- A device: `mpus(id, name UNIQUE, description)`. -/
structure MpuRow where
  name : String
  description : Option String := none
  deriving Repr, DecidableEq, Inhabited

/-- A peripheral: `peripherals(id, mpu_id, derived_from_id, name UNIQUE, base_address,
description)`. -/
structure PeripheralRow where
  mpuId : RowId
  derivedFromId : Option RowId := none
  name : String
  baseAddress : String
  description : Option String := none
  deriving Repr, DecidableEq, Inhabited

/-- A register: `registers(id, peripheral_id, name, address_offset, reset_value,
description)`. -/
structure RegisterRow where
  peripheralId : RowId
  name : String
  addressOffset : String
  resetValue : Option String := none
  description : Option String := none
  deriving Repr, DecidableEq, Inhabited

/-- A bit field: `fields(id, register_id, name, num_bits, bit_offset, description)`. -/
structure FieldRow where
  registerId : RowId
  name : String
  numBits : UInt32
  bitOffset : UInt32
  description : Option String := none
  deriving Repr, DecidableEq, Inhabited

/-- A row with the id the store gave it. -/
structure Stored (α : Type) where
  id : RowId
  row : α
  deriving Repr, DecidableEq, Inhabited

/-- The four tables, each in id order, and the index of the rows of each parent. -/
structure Tables where
  mpus : Array (Stored MpuRow) := #[]
  peripherals : Array (Stored PeripheralRow) := #[]
  registers : Array (Stored RegisterRow) := #[]
  fields : Array (Stored FieldRow) := #[]
  /-- The positions of rows in their table, by table and parent id, in the order the rows were
  appended. -/
  children : Std.HashMap (Table × RowId) (Array Nat) := {}
  deriving Repr, Inhabited

/-- A row of any table. -/
inductive Row
  /-- A device row. -/
  | mpu (r : MpuRow)
  /-- A peripheral row. -/
  | peripheral (r : PeripheralRow)
  /-- A register row. -/
  | register (r : RegisterRow)
  /-- A field row. -/
  | field (r : FieldRow)
  deriving Repr, DecidableEq, Inhabited

/-- A row type that lives in one of the tables. -/
class Entity (α : Type) where
  /-- The table of the rows. -/
  table : Table
  /-- The table's rows, in id order. -/
  rows : Tables → Array (Stored α)
  /-- Replace the table's rows. -/
  setRows : Tables → Array (Stored α) → Tables
  /-- The value of the table's unique column, if it has one. -/
  uniqueKey : α → Option String
  /-- The id of the owning row in the parent table. -/
  parentId : α → Option RowId
  /-- The row as a row of any table. -/
  toRow : α → Row

instance : Entity MpuRow where
  table := .mpus
  rows t := t.mpus
  setRows t rs := { t with mpus := rs }
  uniqueKey r := some r.name
  parentId _ := none
  toRow := .mpu

instance : Entity PeripheralRow where
  table := .peripherals
  rows t := t.peripherals
  setRows t rs := { t with peripherals := rs }
  uniqueKey r := some r.name
  parentId r := some r.mpuId
  toRow := .peripheral

instance : Entity RegisterRow where
  table := .registers
  rows t := t.registers
  setRows t rs := { t with registers := rs }
  uniqueKey _ := none
  parentId r := some r.peripheralId
  toRow := .register

instance : Entity FieldRow where
  table := .fields
  rows t := t.fields
  setRows t rs := { t with fields := rs }
  uniqueKey _ := none
  parentId r := some r.registerId
  toRow := .field

/-- The table a row belongs to. -/
def Row.table : Row → Table
  | .mpu _ => .mpus
  | .peripheral _ => .peripherals
  | .register _ => .registers
  | .field _ => .fields

namespace Tables

/-- Append a row to its table, first noting the position it takes under its parent, if it has
one. -/
def push [Entity α] (t : Tables) (s : Stored α) : Tables :=
  let rows : Array (Stored α) := Entity.rows t
  let children := match Entity.parentId s.row with
    | some parent =>
      let key := (Entity.table α, parent)
      t.children.insert key ((t.children.getD key #[]).push rows.size)
    | none => t.children
  Entity.setRows { t with children } (rows.push s)

end Tables

end RegisterAtlas
