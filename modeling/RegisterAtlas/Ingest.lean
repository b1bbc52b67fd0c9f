import RegisterAtlas.Store.File
import RegisterAtlas.Numeral
/-!
# Ingestion

A device description becomes rows of the store, in document order: the MPU row, then each
peripheral's row followed, for a peripheral that is not derived, by its registers' rows, each
register's row followed by its fields' rows.

A derived peripheral is linked to its target through the names of the peripherals entered so
far in this ingestion, so the target must come earlier in the document; it owns no registers, and
the registers it declares are ignored. Nothing is rolled back on failure: the rows committed
before the error stay in the store.

* `ingest` runs an ingestion on a store and returns the counts of what it entered.
* `convert` reads a description file completely and then ingests it into a new store file.
* A field whose bits reach past its register's width (the register's `size`, or 32) is entered
  with a warning.
-/

namespace RegisterAtlas

/-- The counts of one ingestion. -/
structure Summary where
  mpuId : RowId := 0
  peripherals : Nat := 0
  derived : Nat := 0
  registers : Nat := 0
  fields : Nat := 0
  deriving Repr, DecidableEq, Inhabited

/-- The register width assumed when a register has no readable `size`. -/
def defaultRegisterWidth : Nat := 32

/-- A text that is given and not empty. -/
def nonEmpty : Option String → Option String
  | some s => if s.isEmpty then none else some s
  | none => none

/-- An ingestion step: it may fail, and it changes the store it runs on. -/
abbrev IngestM (m : Type → Type) := ExceptT AtlasError (StateT Store m)

section Ingestion

variable {m : Type → Type} [Monad m] [FileSystem m] [LogSink m]

/-- Insert a row into the store being ingested into. The store becomes the one the insert leaves,
whether or not it succeeds. -/
def enter [Entity α] (row : α) : IngestM m RowId := do
  let (r, s) ← ((← get).insert row : m (Except AtlasError RowId × Store))
  set s
  match r with
  | .ok id => return id
  | .error e => throw e

/-- Log from within an ingestion. -/
def note (level : Level) (message : String) : IngestM m Unit :=
  (logAt level message : m Unit)

/-- The width of a register, in bits. -/
def registerWidth (r : Register) : Nat :=
  (r.size.bind Numeral.readNumber).getD defaultRegisterWidth

/-- Enter a field of register `r`, whose row has id `registerId`. -/
def enterField (registerId : RowId) (r : Register) (f : BitField) (sum : Summary) :
    IngestM m Summary := do
  match Bits.normalize f with
  | .error e => throw (.malformedField r.name f.name e)
  | .ok p =>
    let width := registerWidth r
    if p.endBit > width then
      note .warn ("Field " ++ r.name ++ "." ++ f.name ++ " (offset " ++ toString p.offset ++
        ", " ++ toString p.width ++ " bits) extends past the " ++ toString width ++
        "-bit register")
    discard <| enter
      { registerId := registerId, name := f.name, numBits := p.width, bitOffset := p.offset,
        description := nonEmpty f.description : FieldRow }
    return { sum with fields := sum.fields + 1 }

/-- Enter a register of the peripheral whose row has id `peripheralId`, with its fields. -/
def enterRegister (peripheralId : RowId) (r : Register) (sum : Summary) : IngestM m Summary := do
  note .debug ("Processing Register: " ++ r.name)
  let id ← enter
    { peripheralId := peripheralId, name := r.name, addressOffset := r.addressOffset,
      resetValue := nonEmpty r.resetValue, description := nonEmpty r.description : RegisterRow }
  r.fields.foldlM (fun acc f => enterField id r f acc) { sum with registers := sum.registers + 1 }

/-- The ids of the peripherals entered so far, by name. -/
abbrev PeripheralIds := List (String × RowId)

/-- Enter a peripheral of the MPU whose row has id `mpuId`, with its registers unless it is
derived. -/
def enterPeripheral (mpuId : RowId) (acc : PeripheralIds × Summary) (p : Peripheral) :
    IngestM m (PeripheralIds × Summary) := do
  let (ids, sum) := acc
  note .info ("Processing Peripheral: " ++ p.name)
  let derivedFromId ← match p.derivedFrom with
    | some target =>
      match ids.lookup target with
      | some id => pure (some id)
      | none => throw (.unresolvedDerivation p.name target)
    | none => pure none
  let id ← enter
    { mpuId := mpuId, derivedFromId := derivedFromId, name := p.name,
      baseAddress := p.baseAddress, description := nonEmpty p.description : PeripheralRow }
  let ids := (p.name, id) :: ids
  let sum := { sum with peripherals := sum.peripherals + 1 }
  match derivedFromId with
  | some _ =>
    if !p.registers.isEmpty then
      note .debug ("Ignoring " ++ toString p.registers.length ++
        " registers declared on derived peripheral " ++ p.name)
    return (ids, { sum with derived := sum.derived + 1 })
  | none =>
    let sum ← p.registers.foldlM (fun s r => enterRegister id r s) sum
    return (ids, sum)

/-- Enter a device. -/
def enterDevice (d : Device) : IngestM m Summary := do
  let mpuId ← enter { name := d.name, description := nonEmpty d.description : MpuRow }
  let (_, sum) ← d.peripherals.foldlM (enterPeripheral mpuId) ([], { mpuId := mpuId })
  note .info ("Converted " ++ d.name ++ ": " ++ toString sum.peripherals ++ " peripherals (" ++
    toString sum.derived ++ " derived), " ++ toString sum.registers ++ " registers, " ++
    toString sum.fields ++ " fields")
  return sum

/-- Ingest a device into a store: the counts, or the error that stopped it, and the store with
every row entered before any error. -/
def ingest (s : Store) (d : Device) : m (Except AtlasError Summary × Store) :=
  (enterDevice d).run.run s

/-- Read a device description file. -/
def readSource (path : String) : m (Except SourceError Device) := do
  match ← FileSystem.readFile path with
  | .error (.inl e) => return .error (.unreadable path e)
  | .error (.inr e) => return .error (.unreadable path e)
  | .ok bytes =>
    match String.fromUTF8? bytes with
    | none => return .error (.unreadable path .invalidUtf8)
    | some text => return Device.read text

/-- Read the description file `source` and write it to a new store file `output`. The source
is read completely before the store file is created, so a malformed document leaves no file.
The store is dropped at the end, whatever the ingestion answered. -/
def convert (source output : String) : m (Except AtlasError Summary) := do
  match ← readSource source with
  | .error e => return .error (.source e)
  | .ok d =>
    match ← Store.create output with
    | .error e => return .error e
    | .ok s =>
      let (r, s) ← ingest s d
      s.release
      return r

end Ingestion

end RegisterAtlas
