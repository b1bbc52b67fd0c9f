import RegisterAtlas.Store.Row
import RegisterAtlas.Json.Stream
/-!
# The store file's lines

A store file is a journal: a header line `{"format":"svd-db","version":1}` and then one line per
inserted row, `{"table":…,"id":…,"row":{…}}`, each in compact JSON. A row is written with its
fields in declaration order, an absent optional field left out.

* `Row.toJson` and `entryLine` write rows and journal lines; `headerLine` is the header.
* `Row.decode` reads a row of a given table back from a JSON value, with the errors of a strict
  decoder: the members are visited in key order, unknown ones skipped, absent optional fields
  taken as absent and absent required ones reported in field order. An array gives the fields
  by position.
* `readHeader` tells whether a line is the header; `readEntry` reads an entry line into its
  table, id and row value.
-/

namespace RegisterAtlas

open Json

/-- An id as a JSON number. -/
def idJson (i : RowId) : JsonValue :=
  if i ≥ 0 then .number (.nat i.toNat) else .number (.neg i)

/-- The members of an optional text field: none when it is absent. -/
def optMember (k : String) : Option String → List (String × JsonValue)
  | some s => [(k, .str s)]
  | none => []

/-- The members of an optional id field: none when it is absent. -/
def optIdMember (k : String) : Option RowId → List (String × JsonValue)
  | some i => [(k, idJson i)]
  | none => []

/-- A row as a JSON object, fields in declaration order, absent ones left out. -/
def Row.toJson : Row → JsonValue
  | .mpu r => .obj ([("name", .str r.name)] ++ optMember "description" r.description)
  | .peripheral r => .obj ([("mpu_id", idJson r.mpuId)] ++
      optIdMember "derived_from_id" r.derivedFromId ++
      [("name", .str r.name), ("base_address", .str r.baseAddress)] ++
      optMember "description" r.description)
  | .register r => .obj ([("peripheral_id", idJson r.peripheralId), ("name", .str r.name),
      ("address_offset", .str r.addressOffset)] ++ optMember "reset_value" r.resetValue ++
      optMember "description" r.description)
  | .field r => .obj ([("register_id", idJson r.registerId), ("name", .str r.name),
      ("num_bits", .number (.nat r.numBits.toNat)),
      ("bit_offset", .number (.nat r.bitOffset.toNat))] ++ optMember "description" r.description)

/-- The compact text of a value; the store never writes doubles. -/
def render (v : JsonValue) : String := v.renderWith showFloat

/-- The header line of a store file. -/
def headerLine : String :=
  render (.obj [("format", .str "svd-db"), ("version", .number (.nat 1))])

/-- The journal line recording that `row` was inserted with id `id`. -/
def entryLine (id : RowId) (row : Row) : String :=
  render (.obj [("table", .str row.table.name), ("id", idJson id), ("row", row.toJson)])

/-- What a JSON value is, for messages. -/
def Json.JsonValue.unexpected : JsonValue → Unexpected
  | .null => .null
  | .bool b => .bool b
  | .number (.nat n) => .unsigned n
  | .number (.neg n) => .signed n
  | .number (.float f) => .float f
  | .str s => .str s
  | .arr _ => .seq
  | .obj _ => .map

/-- A decoded field of a row. -/
inductive Slot
  /-- A text. -/
  | text (s : String)
  /-- An id. -/
  | id (i : RowId)
  /-- A 32-bit word. -/
  | word (w : UInt32)
  /-- An absent optional field. -/
  | absent
  deriving Inhabited

/-- Decode a text. -/
def decodeText (v : JsonValue) : Except ReadError Slot :=
  match v with
  | .str s => .ok (.text s)
  | _ => .error (invalidType v.unexpected "a string")

/-- Decode a 64-bit signed id. -/
def decodeId (v : JsonValue) : Except ReadError Slot :=
  match v with
  | .number (.nat n) => if n ≤ Nat.pow 2 63 - 1 then .ok (.id n) else .error (invalidValue (.unsigned n) "i64")
  | .number (.neg n) => .ok (.id n)
  | _ => .error (invalidType v.unexpected "i64")

/-- Decode a 32-bit unsigned word. -/
def decodeWord (v : JsonValue) : Except ReadError Slot :=
  match v with
  | .number (.nat n) =>
    if n ≤ Nat.pow 2 32 - 1 then .ok (.word n.toUInt32) else .error (invalidValue (.unsigned n) "u32")
  | .number (.neg n) => .error (invalidValue (.signed n) "u32")
  | _ => .error (invalidType v.unexpected "u32")

/-- Decode an optional field: `null` is absent. -/
def decodeOptional (decode : JsonValue → Except ReadError Slot) (v : JsonValue) :
    Except ReadError Slot :=
  match v with
  | .null => .ok .absent
  | _ => decode v

/-- A field of a record: its key, its decoder and whether it may be absent. -/
structure FieldSpec where
  key : String
  decode : JsonValue → Except ReadError Slot
  optional : Bool

/-- Decode the fields of a record named `name` from a value. -/
def decodeRecord (name : String) (specs : List FieldSpec) (v : JsonValue) :
    Except ReadError (List Slot) :=
  match v with
  | .obj kvs => do
    -- members in key order; each known one decoded as it is met
    let visit (got : List (Option Slot)) (kx : String × JsonValue) :
        Except ReadError (List (Option Slot)) :=
      match specs.findIdx? (·.key = kx.1) with
      | some j =>
        match specs[j]? with
        | some spec => do let s ← spec.decode kx.2; pure (got.set j (some s))
        | none => pure got
      | none => pure got
    let got ← List.foldlM visit (List.replicate specs.length none) kvs
    (specs.zip got).mapM fun (spec, g) =>
      match g with
      | some s => .ok s
      | none => if spec.optional then .ok .absent else .error (missingField spec.key)
  | .arr xs => do
    let expecting := "struct " ++ name ++ " with " ++ toString specs.length ++ " elements"
    let slots ← (specs.zipIdx).mapM fun (spec, i) =>
      match xs[i]? with
      | some x => spec.decode x
      | none => if spec.optional then .ok .absent else .error (invalidLength i expecting)
    if xs.length > specs.length then .error (invalidLength xs.length "fewer elements in array")
    else .ok slots
  | _ => .error (invalidType v.unexpected ("struct " ++ name))

/-- The text in a slot. -/
def Slot.text? : Slot → Option String
  | .text s => some s
  | _ => none

/-- The id in a slot. -/
def Slot.id? : Slot → Option RowId
  | .id i => some i
  | _ => none

/-- The word in a slot. -/
def Slot.word? : Slot → Option UInt32
  | .word w => some w
  | _ => none

/-- Required field specification. -/
def required (key : String) (decode : JsonValue → Except ReadError Slot) : FieldSpec :=
  ⟨key, decode, false⟩

/-- Optional field specification. -/
def optional (key : String) (decode : JsonValue → Except ReadError Slot) : FieldSpec :=
  ⟨key, decodeOptional decode, true⟩

/-- Decode a row of table `t` from a JSON value. -/
def Row.decode (t : Table) (v : JsonValue) : Except ReadError Row :=
  match t with
  | .mpus => do
    let s ← decodeRecord "MpuRow" [required "name" decodeText, optional "description" decodeText] v
    match s with
    | [n, d] => .ok (.mpu { name := n.text?.getD "", description := d.text? })
    | _ => .error ⟨"", none⟩
  | .peripherals => do
    let s ← decodeRecord "PeripheralRow" [required "mpu_id" decodeId,
      optional "derived_from_id" decodeId, required "name" decodeText,
      required "base_address" decodeText, optional "description" decodeText] v
    match s with
    | [m, df, n, b, d] => .ok (.peripheral
        { mpuId := m.id?.getD 0, derivedFromId := df.id?, name := n.text?.getD "",
          baseAddress := b.text?.getD "", description := d.text? })
    | _ => .error ⟨"", none⟩
  | .registers => do
    let s ← decodeRecord "RegisterRow" [required "peripheral_id" decodeId,
      required "name" decodeText, required "address_offset" decodeText,
      optional "reset_value" decodeText, optional "description" decodeText] v
    match s with
    | [p, n, a, r, d] => .ok (.register
        { peripheralId := p.id?.getD 0, name := n.text?.getD "",
          addressOffset := a.text?.getD "", resetValue := r.text?, description := d.text? })
    | _ => .error ⟨"", none⟩
  | .fields => do
    let s ← decodeRecord "FieldRow" [required "register_id" decodeId, required "name" decodeText,
      required "num_bits" decodeWord, required "bit_offset" decodeWord,
      optional "description" decodeText] v
    match s with
    | [r, n, nb, bo, d] => .ok (.field
        { registerId := r.id?.getD 0, name := n.text?.getD "",
          numBits := nb.word?.getD 0, bitOffset := bo.word?.getD 0, description := d.text? })
    | _ => .error ⟨"", none⟩

/-- A part of a journal entry as it is read. -/
inductive EntryPart
  /-- The table. -/
  | table (t : Table)
  /-- The id. -/
  | id (i : RowId)
  /-- The row, still a JSON value. -/
  | row (v : JsonValue)
  /-- The format name of a header. -/
  | format (s : String)
  /-- The version of a header. -/
  | version (n : Nat)
  deriving Inhabited

/-- Accept a number as a 64-bit signed id. -/
def acceptId : Parsed → Except ReadError EntryPart
  | .unsigned n => if n ≤ Nat.pow 2 63 - 1 then .ok (.id n) else .error (invalidValue (.unsigned n) "i64")
  | .signed n => .ok (.id n)
  | .float f => .error (invalidType (.float f) "i64")

/-- Accept a number as a 32-bit unsigned word. -/
def acceptWord : Parsed → Except ReadError EntryPart
  | .unsigned n => if n ≤ Nat.pow 2 32 - 1 then .ok (.version n) else .error (invalidValue (.unsigned n) "u32")
  | .signed n => .error (invalidValue (.signed n) "u32")
  | .float f => .error (invalidType (.float f) "u32")

/-- A journal entry: its table, id and row value. -/
structure JournalEntry where
  table : Table
  id : RowId
  row : JsonValue
  deriving Inhabited

/-- Read a journal entry line. -/
def readEntry (line : String) : Except ReadError JournalEntry :=
  let parts : ReadM (List EntryPart) := readStruct "RawEntry"
    [("table", fun d => do
        let i ← readVariant (Table.all.map Table.name) d
        pure (.table ((Table.all[i]?).getD .mpus))),
     ("id", fun _ => readJudged "i64" acceptId),
     ("row", fun d => EntryPart.row <$> readValue d)] 128
  match readDocument line.toUTF8 parts with
  | .ok [.table t, .id i, .row v] => .ok ⟨t, i, v⟩
  | .ok _ => .error ⟨"", none⟩
  | .error e => .error e

/-- Whether a line is the header of a store file of this format and version. -/
def readHeader (line : String) : Bool :=
  let parts : ReadM (List EntryPart) := readStruct "Header"
    [("format", fun _ => EntryPart.format <$> readText "a string"),
     ("version", fun _ => readJudged "u32" acceptWord)] 128
  match readDocument line.toUTF8 parts with
  | .ok [.format f, .version v] => f = "svd-db" && v = 1
  | _ => false

end RegisterAtlas
