import RegisterAtlas.Store.Basic
import RegisterAtlas.Query.Like
import RegisterAtlas.Bits.Position
/-!
# Resolving a peripheral

A peripheral name, possibly with `%` and `_` wildcards, matched case-insensitively, leads to the
peripheral with its effective registers and their fields. A derived peripheral keeps its own
name and base address but takes its registers from the peripheral it is derived from, following
`derivedFromId` links to one that is not derived.

* `fetchPeripheralsLike` lists the matching peripherals by name, `fetchPeripheralByName` takes
  the first match in id order.
* `registerOwner` follows the derivation links; a chain longer than the number of peripherals
  does not terminate and is refused.
* `resolvePeripheral` gathers the registers, sorted by name, each with its fields sorted by bit
  offset (both sorts stable).
-/

namespace RegisterAtlas

/-- A field of a resolved register. -/
structure ResolvedField where
  name : String
  numBits : UInt32
  bitOffset : UInt32
  description : Option String
  deriving Repr, DecidableEq, Inhabited

/-- The field's place in its register. -/
def ResolvedField.position (f : ResolvedField) : Bits.Position := ⟨f.bitOffset, f.numBits⟩

/-- A register with its fields, in ascending bit offset order. -/
structure ResolvedRegister where
  id : RowId
  name : String
  addressOffset : String
  resetValue : Option String
  description : Option String
  fields : List ResolvedField
  deriving Repr, DecidableEq, Inhabited

/-- A peripheral with its effective registers, in ascending name order. -/
structure ResolvedPeripheral where
  id : RowId
  name : String
  baseAddress : String
  description : Option String
  /-- The peripheral the registers come from, when it is not this one. -/
  derivedFrom : Option String
  registers : List ResolvedRegister
  deriving Repr, DecidableEq, Inhabited

/-- The name of the store's MPU: the first MPU row. -/
def mpuName (s : Store) : Except AtlasError String :=
  match (s.all : Array (Stored MpuRow))[0]? with
  | some r => .ok r.row.name
  | none => .error (.entityNotFound "mpu" "% (check this is a svd database)")

/-- The peripherals whose names match `pattern`, in ascending name order. -/
def fetchPeripheralsLike (s : Store) (pattern : String) : List (Stored PeripheralRow) :=
  (s.select (fun (p : PeripheralRow) => Like.accepts pattern p.name)).toList.mergeSort
    (fun a b => decide (a.row.name ≤ b.row.name))

/-- All peripherals, in ascending name order. -/
def fetchPeripherals (s : Store) : List (Stored PeripheralRow) := fetchPeripheralsLike s "%"

/-- The first peripheral, in id order, whose name matches `pattern`. -/
def fetchPeripheralByName (s : Store) (pattern : String) :
    Except AtlasError (Stored PeripheralRow) :=
  match (s.select (fun (p : PeripheralRow) => Like.accepts pattern p.name))[0]? with
  | some p => .ok p
  | none => .error (.entityNotFound "peripheral" pattern)

/-- The registers owned by a peripheral, in ascending name order. -/
def fetchRegisters (s : Store) (peripheralId : RowId) : List (Stored RegisterRow) :=
  (s.children peripheralId : Array (Stored RegisterRow)).toList.mergeSort
    (fun a b => decide (a.row.name ≤ b.row.name))

/-- The fields of a register, in ascending bit offset order. -/
def fetchFields (s : Store) (registerId : RowId) : List (Stored FieldRow) :=
  (s.children registerId : Array (Stored FieldRow)).toList.mergeSort
    (fun a b => decide (a.row.bitOffset ≤ b.row.bitOffset))

/-- Follow derivation links from `p` to the peripheral that owns the registers. Each step looks
the target up by id; more steps than there are peripherals mean a cycle. -/
def registerOwner (s : Store) (p : Stored PeripheralRow) :
    Except AtlasError (Stored PeripheralRow) :=
  let limit := s.count PeripheralRow
  let rec walk : Nat → Nat → Stored PeripheralRow → Except AtlasError (Stored PeripheralRow)
    | 0, _, owner => .ok owner
    | fuel + 1, steps, owner =>
      match owner.row.derivedFromId with
      | none => .ok owner
      | some target =>
        if steps + 1 > limit then
          .error (.rowFailure "peripheral" p.id "derived-from chain does not terminate")
        else
          match s.get target with
          | .ok next => walk fuel (steps + 1) next
          | .error e => .error e
  walk (limit + 1) 0 p

/-- A field row as a resolved field. -/
def ResolvedField.ofRow (r : FieldRow) : ResolvedField :=
  ⟨r.name, r.numBits, r.bitOffset, r.description⟩

/-- A peripheral with the registers of its owner and their fields. -/
def resolvePeripheral (s : Store) (p : Stored PeripheralRow) :
    Except AtlasError ResolvedPeripheral := do
  let owner ← registerOwner s p
  let registers := (fetchRegisters s owner.id).map fun r =>
    { id := r.id, name := r.row.name, addressOffset := r.row.addressOffset,
      resetValue := r.row.resetValue, description := r.row.description,
      fields := (fetchFields s r.id).map (ResolvedField.ofRow ·.row) : ResolvedRegister }
  return { id := p.id, name := p.row.name, baseAddress := p.row.baseAddress,
           description := p.row.description,
           derivedFrom := if owner.id ≠ p.id then some owner.row.name else none,
           registers := registers }

/-- Resolve the first peripheral matching `name`. -/
def resolve (s : Store) (name : String) : Except AtlasError ResolvedPeripheral := do
  resolvePeripheral s (← fetchPeripheralByName s name)

end RegisterAtlas
