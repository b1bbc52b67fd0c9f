import RegisterAtlas.Query.Resolve
import RegisterAtlas.Log
/-!
# Peripheral families

A name ending in `_n` stands for a family of numbered peripherals sharing one register layout:
`SPI_n` stands for `SPI0`, `SPI1`, …, and `TIM_n` for `TIM1` to `TIM12`, while a peripheral
such as `TIMER_AUX`, whose name does not end in a digit, is left out.

* `expand` gives the family of a template (the peripherals matching `template%` whose names end
  in an ASCII digit, in ascending name order), or the name itself; a template that matches no
  numbered peripheral stands for the template with its marker removed.
* `Expansion.resolve` resolves a family through its first member: the members share their
  layout.
* `expansionNote` is the debug record an expansion is reported with.
-/

namespace RegisterAtlas

/-- What a peripheral name stands for. -/
inductive Expansion
  /-- Numbered peripherals matching the template, in ascending name order. -/
  | family (template : String) (members : List (Stored PeripheralRow))
  /-- A single peripheral name or pattern. -/
  | single (name : String)
  deriving Repr, DecidableEq

/-- The suffix that marks a family template. -/
def familyMarker : String := "_n"

/-- The name the expansion is labelled with in generated text. -/
def Expansion.label : Expansion → String
  | .family t _ => t
  | .single n => n

/-- Whether a name ends in an ASCII digit. -/
def endsInDigit (name : String) : Bool :=
  match name.toList.getLast? with
  | some c => c.isDigit
  | none => false

/-- The template of a name that ends with the family marker. -/
def familyTemplate (name : String) : Option String :=
  if name.endsWith familyMarker then some (String.ofList (name.toList.dropLast.dropLast))
  else none

/-- Expand a name that may be a family template. -/
def expand (s : Store) (name : String) : Expansion :=
  match familyTemplate name with
  | none => .single name
  | some t =>
    match (fetchPeripheralsLike s (t ++ "%")).filter (fun p => endsInDigit p.row.name) with
    | [] => .single t
    | members => .family t members

/-- The debug record of expanding `name` to `e`, if expanding it is worth a record. -/
def expansionNote (name : String) : Expansion → Option LogRecord
  | .family _ members =>
    some ⟨.debug, name ++ " expands to " ++ ", ".intercalate (members.map (·.row.name))⟩
  | .single t =>
    match familyTemplate name with
    | some _ => some ⟨.debug, "No numbered peripherals match " ++ name ++ ", using " ++ t⟩
    | none => none

/-- The register layout of an expansion: a family's first member, or the single name. -/
def Expansion.resolve (s : Store) : Expansion → Except AtlasError ResolvedPeripheral
  | .family t members =>
    match members with
    | first :: _ => resolvePeripheral s first
    | [] => RegisterAtlas.resolve s t
  | .single n => RegisterAtlas.resolve s n

end RegisterAtlas
