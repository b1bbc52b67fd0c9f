import RegisterAtlas.Device.Basic
import RegisterAtlas.Disk.Error
import RegisterAtlas.Text.Blank
import RegisterAtlas.Xml.Tree
/-!
# Reading a device description

A register description document is XML whose root element is `<device>`. Its peripherals are the
`<peripheral>` children of its `<peripherals>` children, in document order; likewise registers
under `<registers>` of a peripheral and fields under `<fields>` of a register. Elements are
matched by local name, so a namespace prefix does not matter.

A value is the text of the first child element of that name, trimmed; an element with no text
gives the empty value. A description has its blank runs collapsed to single spaces. The
`derivedFrom` attribute of a peripheral is trimmed, and a blank one counts as absent.

Some values are required: a device's, peripheral's, register's and field's `name`, a peripheral's
`baseAddress` and a register's `addressOffset`. The first one missing or empty is reported, in the
order of reading: an element's children (fields of a register, registers of a peripheral,
peripherals of the device) are read before its own values, so faults come in post-order.
-/

namespace RegisterAtlas

/-- Why a text is not a device description. -/
inductive SourceError
  /-- The file cannot be read. -/
  | unreadable (path : String) (cause : OsError)
  /-- The text is not well-formed XML. -/
  | xml (e : Xml.XmlError)
  /-- The root element is not `<device>`. -/
  | unexpectedRoot (name : String)
  /-- An element lacks a required value. -/
  | missingElement (element tag : String) (line : Nat)
  deriving Repr, DecidableEq

/-- The text of a description error. -/
def SourceError.message : SourceError → String
  | .unreadable p c => "unable to read " ++ p ++ ": " ++ c.message
  | .xml e => "malformed XML: " ++ e.message
  | .unexpectedRoot n => "expected root element <device>, found <" ++ n ++ ">"
  | .missingElement el tag line =>
    "<" ++ el ++ "> at line " ++ toString line ++ " is missing required element <" ++ tag ++ ">"

/-- The underlying causes of a description error, outermost first. -/
def SourceError.causes : SourceError → List String
  | .unreadable _ c => [c.message]
  | .xml e => [e.message]
  | _ => []

namespace Description

open Xml

/-- The trimmed text of the first child element named `tag`. -/
def value (n : Node) (tag : String) : Option String :=
  (n.child? tag).map fun c => Text.trim (c.text?.getD "")

/-- The description of an element, blank runs collapsed. -/
def description (n : Node) : Option String :=
  (n.child? "description").map fun c => Text.collapseBlanks (c.text?.getD "")

/-- A value that must be given and not empty. -/
def required (n : Node) (tag : String) : Except SourceError String :=
  match value n tag with
  | some v => if v.isEmpty then .error (.missingElement n.name tag n.row) else .ok v
  | none => .error (.missingElement n.name tag n.row)

/-- The `tag` children of the `container` children of an element, in document order. -/
def grandchildren (n : Node) (container tag : String) : List Node :=
  (n.childrenNamed container).flatMap (·.childrenNamed tag)

/-- A field element. -/
def field (n : Node) : Except SourceError BitField := do
  let name ← required n "name"
  return { name, description := description n, bitOffset := value n "bitOffset",
           bitWidth := value n "bitWidth", bitRange := value n "bitRange", lsb := value n "lsb",
           msb := value n "msb", access := value n "access" }

/-- A register element. -/
def register (n : Node) : Except SourceError Register := do
  let fields ← (grandchildren n "fields" "field").mapM field
  let name ← required n "name"
  let addressOffset ← required n "addressOffset"
  return { name, description := description n, addressOffset, size := value n "size",
           access := value n "access", resetValue := value n "resetValue", fields }

/-- The trimmed `derivedFrom` attribute, unless blank. -/
def derivedFrom (n : Node) : Option String :=
  (n.attribute? "derivedFrom").bind fun v =>
    let t := Text.trim v
    if t.isEmpty then none else some t

/-- A peripheral element. -/
def peripheral (n : Node) : Except SourceError Peripheral := do
  let registers ← (grandchildren n "registers" "register").mapM register
  let name ← required n "name"
  let baseAddress ← required n "baseAddress"
  return { name, description := description n, baseAddress, groupName := value n "groupName",
           derivedFrom := derivedFrom n, registers }

end Description

/-- Read a device description from its text. -/
def Device.read (text : String) : Except SourceError Device := do
  let doc ← (Xml.read text).mapError .xml
  let root := doc.root
  if !root.isNamed "device" then throw (.unexpectedRoot root.name)
  let peripherals ← (Description.grandchildren root "peripherals" "peripheral").mapM
    Description.peripheral
  let name ← Description.required root "name"
  return { name, description := Description.description root, peripherals }

end RegisterAtlas
