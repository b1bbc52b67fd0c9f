import RegisterAtlas.Query.Resolve
import RegisterAtlas.Query.Filter
import RegisterAtlas.Numeral
/-!
# Reports

Human readable reports over a store: the peripherals, the registers of a peripheral, a detailed
display of a peripheral's registers and fields, and a dump of the whole store. Descriptions are
shown only when `verbose` is set, after ` - `.

* `listPeripherals`, `listRegisters`, `display` and `dump` give the report text, or the first
  error met while building it.
* A field's mask is shown as eight or more upper case hex digits: its bits in place, clipped to
  64 bits.
-/

namespace RegisterAtlas

/-- A description as a report shows it. -/
def described (description : Option String) (verbose : Bool) : String :=
  match description with
  | some d => if verbose then " - " ++ d else ""
  | none => ""

/-- The names of every peripheral, in ascending order. -/
def listPeripherals (s : Store) (verbose : Bool) : Except AtlasError String := do
  let header := "Available Peripherals for MPU: " ++ (← mpuName s) ++ "\n"
  return header ++ String.join ((fetchPeripherals s).map fun p =>
    p.row.name ++ described p.row.description verbose ++ "\n")

/-- The names of the registers of a peripheral, following derivation. -/
def listRegisters (s : Store) (peripheral : String) (verbose : Bool) :
    Except AtlasError String := do
  let header := "Registers for Peripheral: " ++ peripheral ++ " for MPU: " ++ (← mpuName s) ++ "\n"
  let resolved ← resolve s peripheral
  return header ++ String.join (resolved.registers.map fun r =>
    r.name ++ described r.description verbose ++ "\n")

/-- A field's line in the display. -/
def displayField (f : ResolvedField) (verbose : Bool) : String :=
  "    " ++ f.name ++ ": number bits " ++ toString f.numBits ++ ", bit offset: " ++
    toString f.bitOffset ++ ", mask: 0x" ++ Numeral.hexUpper 8 f.position.shiftedMask ++
    described f.description verbose ++ "\n"

/-- A register's lines in the display. -/
def displayRegister (r : ResolvedRegister) (verbose : Bool) : String :=
  "Register " ++ r.name ++ " offset: " ++ r.addressOffset ++ ", reset: " ++
    r.resetValue.getD "" ++ described r.description verbose ++ "\n" ++
    String.join (r.fields.map (displayField · verbose))

/-- The registers and fields of a peripheral with offsets, reset values and masks. -/
def display (s : Store) (peripheral : String) (filter : RegisterFilter) (verbose : Bool) :
    Except AtlasError String := do
  let header := "Registers and fields for Peripheral: " ++ peripheral ++ " for MPU: " ++
    (← mpuName s) ++ "\n"
  let resolved ← resolve s peripheral
  let base := resolved.name ++ " base address: " ++ resolved.baseAddress ++ "\n"
  let owner := match resolved.derivedFrom with
    | some o => "Has the same registers as " ++ o ++ "\n"
    | none => ""
  return header ++ base ++ owner ++
    String.join ((filter.apply (·.name) resolved.registers).map (displayRegister · verbose))

/-- A resolved peripheral as the dump shows it. -/
def dumpPeripheral (p : ResolvedPeripheral) : String :=
  "Peripheral: " ++ p.name ++ ", base address: " ++ p.baseAddress ++ "\n" ++
    String.join (p.registers.map fun r =>
      "  Register: " ++ r.name ++ ", address offset: " ++ r.addressOffset ++ "\n" ++
        String.join (r.fields.map fun f =>
          "    Field:  " ++ f.name ++ ", number bits " ++ toString f.numBits ++
            ", bit offset: " ++ toString f.bitOffset ++ "\n"))

/-- Every peripheral with its registers and fields; a derived peripheral names the peripheral
it shares its registers with instead. -/
def dump (s : Store) : Except AtlasError String := do
  let header := "MPU: " ++ (← mpuName s) ++ "\nDatabase Dump:\n"
  let parts ← (fetchPeripherals s).mapM fun p =>
    match p.row.derivedFromId with
    | some target => do
      let t ← (s.get target : Except AtlasError (Stored PeripheralRow))
      return "Peripheral: " ++ p.row.name ++ ", base address: " ++ p.row.baseAddress ++ "\n" ++
        "  Registers the same as " ++ t.row.name ++ "\n\n"
    | none => do
      return dumpPeripheral (← resolvePeripheral s p) ++ "\n"
  return header ++ String.join parts

end RegisterAtlas
