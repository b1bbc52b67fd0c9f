import RegisterAtlas.Json.Value
import RegisterAtlas.Json.Float
import RegisterAtlas.Text.Quoted
/-!
# Reading JSON text

A reader for the lines of the store file, byte by byte, with the errors and places a strict JSON
reader reports. A place is a line and a column, the column counting the bytes of the line read
so far: an error found on reading a byte points just past it, an error found on looking at the
next byte points at that byte (one past the bytes read).

* `ReadError` is a message with an optional place; errors that the decoding of a value raises
  (a missing field, a value of the wrong type) get the place where the reader stands once the
  enclosing value has been read as far as it goes.
* `readValue` reads any value, nested at most 128 levels deep (counting the levels around it).
* `readStruct` reads a record with named fields, from an object (unknown keys skipped, a repeated
  key refused, missing keys reported in field order) or from an array (fields by position).
* `readDocument` reads one value that must fill the whole text up to trailing blanks.
-/

namespace RegisterAtlas.Json

/-- Why a JSON text or value does not read as expected. -/
structure ReadError where
  message : String
  /-- The line and column, when the error belongs to a place in a text. -/
  place : Option (Nat × Nat) := none
  deriving Repr, Inhabited

/-- The error's text, with its place if it has one. -/
def ReadError.render (e : ReadError) : String :=
  match e.place with
  | some (l, c) => e.message ++ " at line " ++ toString l ++ " column " ++ toString c
  | none => e.message

/-- What was found where something else was expected. -/
inductive Unexpected
  /-- `null`. -/
  | null
  /-- A boolean. -/
  | bool (b : Bool)
  /-- A non-negative integer. -/
  | unsigned (n : Nat)
  /-- A negative integer. -/
  | signed (n : Int)
  /-- A double. -/
  | float (f : Float)
  /-- A string. -/
  | str (s : String)
  /-- An array. -/
  | seq
  /-- An object. -/
  | map

/-- How a message names what was found. -/
def Unexpected.render : Unexpected → String
  | .null => "null"
  | .bool b => "boolean `" ++ (if b then "true" else "false") ++ "`"
  | .unsigned n => "integer `" ++ toString n ++ "`"
  | .signed n => "integer `" ++ toString n ++ "`"
  | .float f => "floating point `" ++ showFloat f ++ "`"
  | .str s => "string " ++ Text.quote s
  | .seq => "sequence"
  | .map => "map"

/-- A value of the wrong kind. -/
def invalidType (u : Unexpected) (expected : String) : ReadError :=
  ⟨"invalid type: " ++ u.render ++ ", expected " ++ expected, none⟩

/-- A value of the right kind out of range. -/
def invalidValue (u : Unexpected) (expected : String) : ReadError :=
  ⟨"invalid value: " ++ u.render ++ ", expected " ++ expected, none⟩

/-- A sequence of the wrong length. -/
def invalidLength (n : Nat) (expected : String) : ReadError :=
  ⟨"invalid length " ++ toString n ++ ", expected " ++ expected, none⟩

/-- A required field that is absent. -/
def missingField (f : String) : ReadError := ⟨"missing field `" ++ f ++ "`", none⟩

/-- A field given twice. -/
def duplicateField (f : String) : ReadError := ⟨"duplicate field `" ++ f ++ "`", none⟩

/-- The names of the accepted variants, as a message lists them. -/
def oneOf : List String → String
  | [a] => "`" ++ a ++ "`"
  | [a, b] => "`" ++ a ++ "` or `" ++ b ++ "`"
  | names => "one of " ++ ", ".intercalate (names.map fun n => "`" ++ n ++ "`")

/-- A variant name that is not one of `variants`. -/
def unknownVariant (v : String) (variants : List String) : ReadError :=
  if variants.isEmpty then ⟨"unknown variant `" ++ v ++ "`, there are no variants", none⟩
  else ⟨"unknown variant `" ++ v ++ "`, expected " ++ oneOf variants, none⟩

/-- A number as the reader classifies it. -/
inductive Parsed
  /-- A non-negative integer below `2^64`. -/
  | unsigned (n : Nat)
  /-- A negative integer of at least `-2^63`. -/
  | signed (n : Int)
  /-- Anything else, as a double. -/
  | float (f : Float)
  deriving Inhabited

/-- What a parsed number is, for messages. -/
def Parsed.unexpected : Parsed → Unexpected
  | .unsigned n => .unsigned n
  | .signed n => .signed n
  | .float f => .float f

/-- The number as a value. -/
def Parsed.toNumber : Parsed → Number
  | .unsigned n => .nat n
  | .signed n => .neg n
  | .float f => .float f

/-- The largest 64-bit unsigned number. -/
def u64Max : Nat := Nat.pow 2 64 - 1

/-- The largest 32-bit signed number. -/
def i32Max : Int := Int.pow 2 31 - 1

/-- Keep a number within the 32-bit signed range. -/
def saturate32 (n : Int) : Int := max (-Int.pow 2 31) (min i32Max n)

/-- Reading a byte text: the text is the environment and the index of the next byte the
state. Errors keep the state. -/
abbrev ReadM := ReaderT ByteArray (ExceptT ReadError (StateM Nat))

/-- Whether a byte is a blank between tokens. -/
def isBlankByte (b : UInt8) : Bool := b = 32 || b = 10 || b = 9 || b = 13

/-- Whether a byte is a decimal digit. -/
def isDigitByte (b : UInt8) : Bool := 48 ≤ b && b ≤ 57

/-- The error texts of the reader. -/
def eofList : String := "EOF while parsing a list"
/-- See `eofList`. -/
def eofObject : String := "EOF while parsing an object"
/-- See `eofList`. -/
def eofString : String := "EOF while parsing a string"
/-- See `eofList`. -/
def eofValue : String := "EOF while parsing a value"
/-- See `eofList`. -/
def expectedColon : String := "expected `:`"
/-- See `eofList`. -/
def expectedListEnd : String := "expected `,` or `]`"
/-- See `eofList`. -/
def expectedObjectEnd : String := "expected `,` or `\x7d`"
/-- See `eofList`. -/
def expectedIdent : String := "expected ident"
/-- See `eofList`. -/
def expectedValue : String := "expected value"
/-- See `eofList`. -/
def invalidEscape : String := "invalid escape"
/-- See `eofList`. -/
def invalidNumber : String := "invalid number"
/-- See `eofList`. -/
def numberOutOfRange : String := "number out of range"
/-- See `eofList`. -/
def controlCharacter : String := "control character (\\u0000-\\u001F) found while parsing a string"
/-- See `eofList`. -/
def keyMustBeString : String := "key must be a string"
/-- See `eofList`. -/
def loneSurrogate : String := "lone leading surrogate in hex escape"
/-- See `eofList`. -/
def trailingComma : String := "trailing comma"
/-- See `eofList`. -/
def trailingCharacters : String := "trailing characters"
/-- See `eofList`. -/
def unexpectedEndOfHex : String := "unexpected end of hex escape"
/-- See `eofList`. -/
def recursionLimit : String := "recursion limit exceeded"

/-- The value of a hex digit byte. -/
def hexByteValue (b : UInt8) : Option Nat :=
  if 48 ≤ b && b ≤ 57 then some (b.toNat - 48)
  else if 97 ≤ b && b ≤ 102 then some (b.toNat - 87)
  else if 65 ≤ b && b ≤ 70 then some (b.toNat - 55)
  else none

/-- The UTF-8 bytes of a code point. -/
def codePointBytes (n : Nat) : List UInt8 := (Char.ofNat n).toString.toUTF8.toList

section Reader


/-- The line and column of a byte index: the column counts the bytes since the last line
feed before it. -/
def placeOf (src : ByteArray) (i : Nat) : Nat × Nat :=
  let before := (src.toList.take i)
  let lineStart := before.length - (before.reverse.takeWhile (· ≠ 10)).length
  (1 + (before.take lineStart).count 10, i - lineStart)

/-- The next byte, not consumed. -/
def peek : ReadM (Option UInt8) := do return (← read)[(← get)]?

/-- The next byte, or zero at the end. -/
def peekOrNull : ReadM UInt8 := do return (← peek).getD 0

/-- Consume one byte. -/
def eat : ReadM Unit := modify (· + 1)

/-- Consume and return the next byte. -/
def next : ReadM (Option UInt8) := do
  let i ← get
  match (← read)[i]? with
  | some b => set (i + 1); return some b
  | none => return none

/-- An error at the bytes read so far. -/
def failHere (msg : String) : ReadM α := do throw ⟨msg, some (placeOf (← read) (← get))⟩

/-- An error at the next byte. -/
def failPeek (msg : String) : ReadM α := do
  throw ⟨msg, some (placeOf (← read) (min (← read).size ((← get) + 1)))⟩

/-- Give an error without a place the place of the bytes read so far. -/
def fixPlace (e : ReadError) : ReadM ReadError := do
  match e.place with
  | some _ => return e
  | none => return { e with place := some (placeOf (← read) (← get)) }

/-- Skip blanks and look at the next byte. -/
def skipBlanks : ReadM (Option UInt8) := do
  let rec go : Nat → ReadM (Option UInt8)
    | 0 => peek
    | fuel + 1 => do
      match ← peek with
      | some b => if isBlankByte b then eat; go fuel else return some b
      | none => return none
  go ((← read).size + 1)

/-- Read the rest of a literal (`ull`, `rue`, `alse`). -/
def readIdent (rest : List UInt8) : ReadM Unit := do
  match rest with
  | [] => pure ()
  | b :: bs =>
    match ← next with
    | none => failHere eofValue
    | some c => if c = b then readIdent bs else failHere expectedIdent

/-- Read the four hex digits of a `\u` escape. -/
def readHex4 : ReadM Nat := do
  let i ← get
  let src ← read
  match src[i]?, src[i + 1]?, src[i + 2]?, src[i + 3]? with
  | some a, some b, some c, some d =>
    set (i + 4)
    match hexByteValue a, hexByteValue b, hexByteValue c, hexByteValue d with
    | some a, some b, some c, some d => return ((a * 16 + b) * 16 + c) * 16 + d
    | _, _, _, _ => failHere invalidEscape
  | _, _, _, _ =>
    set src.size
    failHere eofString

/-- Read an escape after its backslash, into the bytes read so far (newest first). The
`\u` escapes of a pair of surrogates make one character; a lone surrogate is refused. -/
def readEscape (acc : List UInt8) : ReadM (List UInt8) := do
  match ← next with
  | none => failHere eofString
  | some c =>
    if c = 34 then return 34 :: acc
    else if c = 92 then return 92 :: acc
    else if c = 47 then return 47 :: acc
    else if c = 98 then return 8 :: acc
    else if c = 102 then return 12 :: acc
    else if c = 110 then return 10 :: acc
    else if c = 114 then return 13 :: acc
    else if c = 116 then return 9 :: acc
    else if c = 117 then
      let n ← readHex4
      if 0xDC00 ≤ n && n ≤ 0xDFFF then failHere loneSurrogate
      else if n < 0xD800 || n > 0xDBFF then return (codePointBytes n).reverse ++ acc
      else
        match ← peek with
        | none => failHere eofString
        | some b =>
          if b ≠ 92 then eat; failHere unexpectedEndOfHex
          else
            eat
            match ← peek with
            | none => failHere eofString
            | some u =>
              if u ≠ 117 then eat; failHere unexpectedEndOfHex
              else
                eat
                let n2 ← readHex4
                if n2 < 0xDC00 || n2 > 0xDFFF then failHere loneSurrogate
                else
                  let cp := (n - 0xD800) * 1024 + (n2 - 0xDC00) + 0x10000
                  return (codePointBytes cp).reverse ++ acc
    else failHere invalidEscape

/-- Read a string after its opening quote. -/
def readString : ReadM String := do
  let rec go : Nat → List UInt8 → ReadM (List UInt8)
    | 0, acc => pure acc
    | fuel + 1, acc => do
      match ← peek with
      | none => failHere eofString
      | some b =>
        if b = 34 then eat; return acc
        else if b = 92 then eat; go fuel (← readEscape acc)
        else if b < 32 then eat; failHere controlCharacter
        else eat; go fuel (b :: acc)
  let bytes ← go ((← read).size + 1) []
  return (String.fromUTF8? ⟨bytes.reverse.toArray⟩).getD ""

/-- Skip a string after its opening quote, checking only its escapes and control characters. -/
def skipString : ReadM Unit := do
  let rec go : Nat → ReadM Unit
    | 0 => pure ()
    | fuel + 1 => do
      match ← peek with
      | none => failHere eofString
      | some b =>
        if b = 34 then eat
        else if b = 92 then
          eat
          match ← next with
          | none => failHere eofString
          | some c =>
            if c = 117 then discard (readHex4); go fuel
            else if c = 34 || c = 92 || c = 47 || c = 98 || c = 102 || c = 110 || c = 114 ||
                c = 116 then go fuel
            else failHere invalidEscape
        else if b < 32 then failHere controlCharacter
        else eat; go fuel
  go ((← read).size + 1)

/-- Scale the significand to a double, refusing an overflow. -/
def fromParts (positive : Bool) (significand : Nat) (exponent : Int) : ReadM Float := do
  match scaleDecimal positive significand exponent with
  | some f => return f
  | none => failHere numberOutOfRange

/-- Skip digits. -/
def skipDigits : ReadM Unit := do
  let rec go : Nat → ReadM Unit
    | 0 => pure ()
    | fuel + 1 => do
      if isDigitByte (← peekOrNull) then eat; go fuel
  go ((← read).size + 1)

/-- Read an exponent after its `e`, the decimal exponent so far being `start`. An exponent too
large for 32 bits gives zero, or an overflow for a non-zero significand and a positive
exponent. -/
def readExponent (positive : Bool) (significand : Nat) (start : Int) : ReadM Float := do
  eat
  let sign ← peekOrNull
  let positiveExp := sign ≠ 45
  if sign = 43 || sign = 45 then eat
  match ← next with
  | none => failHere eofValue
  | some d =>
    if !isDigitByte d then failHere invalidNumber
    else
      let rec go : Nat → Int → ReadM (Option Int)
        | 0, e => pure (some e)
        | fuel + 1, e => do
          let c ← peekOrNull
          if isDigitByte c then
            eat
            let digit : Int := c.toNat - 48
            if e > i32Max / 10 || (e = i32Max / 10 && digit > i32Max % 10) then return none
            else go fuel (e * 10 + digit)
          else return some e
      match ← go ((← read).size + 1) (d.toNat - 48) with
      | some e =>
        let final := saturate32 (if positiveExp then start + e else start - e)
        fromParts positive significand final
      | none =>
        if significand ≠ 0 && positiveExp then failHere numberOutOfRange
        else
          skipDigits
          return (if positive then floatOfNat 0 else -(floatOfNat 0))

/-- Read the fraction after a decimal point. -/
def readDecimal (positive : Bool) (significand : Nat) (before : Int) : ReadM Float := do
  eat
  let rec go : Nat → Nat → Int → ReadM (Nat × Int × Bool)
    | 0, s, e => pure (s, e, false)
    | fuel + 1, s, e => do
      let c ← peekOrNull
      if isDigitByte c then
        let digit := c.toNat - 48
        if s > u64Max / 10 || (s = u64Max / 10 && digit > u64Max % 10) then return (s, e, true)
        else eat; go fuel (s * 10 + digit) (e - 1)
      else return (s, e, false)
  let (s, after, overflowed) ← go ((← read).size + 1) significand 0
  if overflowed then
    skipDigits
    let c ← peekOrNull
    if c = 101 || c = 69 then readExponent positive s (before + after)
    else fromParts positive s (before + after)
  else
    if after = 0 then
      match ← peek with
      | some _ => failPeek invalidNumber
      | none => failPeek eofValue
    else
      let c ← peekOrNull
      if c = 101 || c = 69 then readExponent positive s (before + after)
      else fromParts positive s (before + after)

/-- Read the rest of a number whose integer digits are `significand`. -/
def readNumberTail (positive : Bool) (significand : Nat) : ReadM Parsed := do
  let c ← peekOrNull
  if c = 46 then return .float (← readDecimal positive significand 0)
  else if c = 101 || c = 69 then return .float (← readExponent positive significand 0)
  else if positive then return .unsigned significand
  else if significand = 0 then return .float (-(floatOfNat 0))
  else if significand ≤ Nat.pow 2 63 then return .signed (-(significand : Int))
  else return .float (-(floatOfNat significand))

/-- Read a number after its sign, if any. -/
def readNumber (positive : Bool) : ReadM Parsed := do
  match ← next with
  | none => failHere eofValue
  | some c =>
    if c = 48 then
      if isDigitByte (← peekOrNull) then failPeek invalidNumber
      else readNumberTail positive 0
    else if isDigitByte c then
      let rec go : Nat → Nat → ReadM (Sum Nat Nat)
        | 0, s => pure (.inl s)
        | fuel + 1, s => do
          let d ← peekOrNull
          if isDigitByte d then
            let digit := d.toNat - 48
            if s > u64Max / 10 || (s = u64Max / 10 && digit > u64Max % 10) then
              return .inr s
            else eat; go fuel (s * 10 + digit)
          else return .inl s
      match ← go ((← read).size + 1) (c.toNat - 48) with
      | .inl s => readNumberTail positive s
      | .inr s =>
        -- too long for 64 bits: the remaining digits only scale the significand
        let rec more : Nat → Int → ReadM Float
          | 0, e => fromParts positive s e
          | fuel + 1, e => do
            let d ← peekOrNull
            if isDigitByte d then eat; more fuel (e + 1)
            else if d = 46 then readDecimal positive s e
            else if d = 101 || d = 69 then readExponent positive s e
            else fromParts positive s e
        return .float (← more ((← read).size + 1) 0)
    else failHere invalidNumber

/-- Skip a number after its sign, if any, checking its form. -/
def skipNumber : ReadM Unit := do
  let c := (← next).getD 0
  if c = 48 then
    if isDigitByte (← peekOrNull) then failPeek invalidNumber
  else if isDigitByte c then skipDigits
  else failHere invalidNumber
  let d ← peekOrNull
  let skipExponent : ReadM Unit := do
    eat
    let s ← peekOrNull
    if s = 43 || s = 45 then eat
    if !isDigitByte ((← next).getD 0) then failHere invalidNumber
    skipDigits
  if d = 46 then
    eat
    if !isDigitByte (← peekOrNull) then failPeek invalidNumber
    skipDigits
    let e ← peekOrNull
    if e = 101 || e = 69 then skipExponent
  else if d = 101 || d = 69 then skipExponent

/-- Refuse the value ahead as not being of the `expected` kind, naming what it is. -/
def refuseValue (expected : String) : ReadM α := do
  let c ← peekOrNull
  let u : Unexpected ←
    if c = 110 then eat; readIdent [117, 108, 108]; pure .null
    else if c = 116 then eat; readIdent [114, 117, 101]; pure (.bool true)
    else if c = 102 then eat; readIdent [97, 108, 115, 101]; pure (.bool false)
    else if c = 45 then eat; pure (← readNumber false).unexpected
    else if isDigitByte c then pure (← readNumber true).unexpected
    else if c = 34 then eat; pure (.str (← readString))
    else if c = 91 then pure .seq
    else if c = 123 then pure .map
    else failPeek expectedValue
  throw (← fixPlace (invalidType u expected))

/-- Run `body`, then `close` whatever happened, and report the first error, placing an error
without a place where `close` left the reader. -/
def thenClose (body : ReadM α) (close : ReadM Unit) : ReadM α := do
  let src ← read
  let r ← ((body.run src).run : StateM Nat _)
  let c ← ((close.run src).run : StateM Nat _)
  match r, c with
  | .ok v, .ok () => return v
  | .error e, _ => throw (← fixPlace e)
  | .ok _, .error e => throw (← fixPlace e)

/-- Close an array: `]`, or the errors for what stands there instead. -/
def closeArray : ReadM Unit := do
  match ← skipBlanks with
  | some 93 => eat
  | some 44 =>
    eat
    match ← skipBlanks with
    | some 93 => failPeek trailingComma
    | _ => failPeek trailingCharacters
  | some _ => failPeek trailingCharacters
  | none => failPeek eofList

/-- Close an object: `}`, or the errors for what stands there instead. -/
def closeObject : ReadM Unit := do
  match ← skipBlanks with
  | some 125 => eat
  | some 44 => failPeek trailingComma
  | some _ => failPeek trailingCharacters
  | none => failPeek eofObject

/-- Move to the next item of an array: `none` at its end, the first byte of the item
otherwise. -/
def nextItem (first : Bool) : ReadM (Option UInt8) := do
  let b ← match ← skipBlanks with
    | some 93 => return none
    | some 44 =>
      if first then pure (some 44)
      else eat; skipBlanks
    | some b => if first then pure (some b) else failPeek expectedListEnd
    | none => failPeek eofList
  match b with
  | some 93 => failPeek trailingComma
  | some c => return some c
  | none => failPeek eofValue

/-- Move to the next key of an object and read it: `none` at its end. -/
def nextKey (first : Bool) : ReadM (Option String) := do
  let b ← match ← skipBlanks with
    | some 125 => return none
    | some 44 =>
      if first then pure (some 44)
      else eat; skipBlanks
    | some b => if first then pure (some b) else failPeek expectedObjectEnd
    | none => failPeek eofObject
  match b with
  | some 34 => eat; return some (← readString)
  | some 125 => failPeek trailingComma
  | some _ => failPeek keyMustBeString
  | none => failPeek eofValue

/-- Read the colon after a key. -/
def readColon : ReadM Unit := do
  match ← skipBlanks with
  | some 58 => eat
  | some _ => failPeek expectedColon
  | none => failPeek eofObject

/-- Skip a value of any shape, checking its syntax but not its nesting depth. -/
def skipValue : ReadM Unit := do
  -- `stack` holds the brackets of the enclosing arrays and objects, innermost first
  let rec go : Nat → List UInt8 → ReadM Unit
    | 0, _ => pure ()
    | fuel + 1, stack => do
      let peeked ← match ← skipBlanks with
        | some b => pure b
        | none => failPeek eofValue
      let opened : Option UInt8 ←
        if peeked = 110 then eat; readIdent [117, 108, 108]; pure none
        else if peeked = 116 then eat; readIdent [114, 117, 101]; pure none
        else if peeked = 102 then eat; readIdent [97, 108, 115, 101]; pure none
        else if peeked = 45 then eat; skipNumber; pure none
        else if isDigitByte peeked then skipNumber; pure none
        else if peeked = 34 then eat; skipString; pure none
        else if peeked = 91 || peeked = 123 then eat; pure (some peeked)
        else failPeek expectedValue
      -- after a value or an opening bracket: close brackets and find the next slot
      let rec after : Nat → Bool → UInt8 → List UInt8 → ReadM (Option (UInt8 × List UInt8))
        | 0, _, _, _ => pure none
        | fuel + 1, acceptComma, frame, rest => do
          match ← skipBlanks with
          | some 44 =>
            if acceptComma then eat; return some (frame, rest)
            else return some (frame, rest)
          | some 93 =>
            if frame = 91 then
              eat
              match rest with
              | [] => return none
              | f :: fs => after fuel true f fs
            else if acceptComma then failPeek expectedObjectEnd
            else return some (frame, rest)
          | some 125 =>
            if frame = 123 then
              eat
              match rest with
              | [] => return none
              | f :: fs => after fuel true f fs
            else if acceptComma then failPeek expectedListEnd
            else return some (frame, rest)
          | some _ =>
            if acceptComma then
              failPeek (if frame = 91 then expectedListEnd else expectedObjectEnd)
            else return some (frame, rest)
          | none => failPeek (if frame = 91 then eofList else eofObject)
      let slot ← match opened with
        | some frame => after ((← read).size + 1) false frame stack
        | none =>
          match stack with
          | [] => pure none
          | f :: fs => after ((← read).size + 1) true f fs
      match slot with
      | none => pure ()
      | some (frame, rest) =>
        if frame = 123 then
          match ← skipBlanks with
          | some 34 => eat
          | some _ => failPeek keyMustBeString
          | none => failPeek eofValue
          skipString
          match ← skipBlanks with
          | some 58 => eat
          | some _ => failPeek expectedColon
          | none => failPeek eofObject
        go fuel (frame :: rest)
  go ((← read).size + 1) []

mutual

/-- Read a value of any shape; `depth` is how many more levels of nesting are allowed. -/
def readValue : Nat → ReadM JsonValue
  | 0 => failPeek recursionLimit
  | depth + 1 => do
    let b ← match ← skipBlanks with
      | some b => pure b
      | none => failPeek eofValue
    if b = 110 then eat; readIdent [117, 108, 108]; return .null
    else if b = 116 then eat; readIdent [114, 117, 101]; return .bool true
    else if b = 102 then eat; readIdent [97, 108, 115, 101]; return .bool false
    else if b = 45 then eat; return .number (← readNumber false).toNumber
    else if isDigitByte b then return .number (← readNumber true).toNumber
    else if b = 34 then eat; return .str (← readString)
    else if b = 91 then
      if depth = 0 then failPeek recursionLimit
      else
        eat
        let items ← readItems depth ((← read).size + 1) true []
        closeArray
        return .arr items
    else if b = 123 then
      if depth = 0 then failPeek recursionLimit
      else
        eat
        let members ← readMembers depth ((← read).size + 1) true []
        closeObject
        return .obj (toMap members)
    else failPeek expectedValue
termination_by depth => (depth, 0)

/-- Read the items of an array, up to its closing bracket. -/
def readItems (depth : Nat) : Nat → Bool → List JsonValue → ReadM (List JsonValue)
  | 0, _, acc => pure acc.reverse
  | fuel + 1, first, acc => do
    match ← nextItem first with
    | none => return acc.reverse
    | some _ =>
      let v ← readValue depth
      readItems depth fuel false (v :: acc)
termination_by fuel _ _ => (depth, fuel + 1)

/-- Read the members of an object, up to its closing brace. -/
def readMembers (depth : Nat) :
    Nat → Bool → List (String × JsonValue) → ReadM (List (String × JsonValue))
  | 0, _, acc => pure acc.reverse
  | fuel + 1, first, acc => do
    match ← nextKey first with
    | none => return acc.reverse
    | some k =>
      readColon
      let v ← readValue depth
      readMembers depth fuel false ((k, v) :: acc)
termination_by fuel _ _ => (depth, fuel + 1)

end

/-- Read a string value, naming `expected` when something else stands there. -/
def readText (expected : String) : ReadM String := do
  match ← skipBlanks with
  | none => failPeek eofValue
  | some 34 => eat; readString
  | some _ => refuseValue expected

/-- Read a number value and judge it with `accept`; a judgement's error gets the place after
the number. -/
def readJudged (expected : String) (accept : Parsed → Except ReadError α) : ReadM α := do
  let p ← match ← skipBlanks with
    | none => failPeek eofValue
    | some 45 => eat; readNumber false
    | some b => if isDigitByte b then readNumber true else refuseValue expected
  match accept p with
  | .ok v => return v
  | .error e => throw (← fixPlace e)

/-- Read one of the named variants of a unit enumeration: a string, or an object with the name
as its one key and `null` as its value. -/
def readVariant (variants : List String) (depth : Nat) : ReadM Nat := do
  let name : ReadM Nat := do
    let s ← readText "variant identifier"
    match variants.idxOf? s with
    | some i => return i
    | none => throw (← fixPlace (unknownVariant s variants))
  match ← skipBlanks with
  | some 123 =>
    if depth ≤ 1 then failPeek recursionLimit
    else
      eat
      let i ← name
      readColon
      match ← skipBlanks with
      | none => failPeek eofValue
      | some 110 => eat; readIdent [117, 108, 108]
      | some _ => refuseValue "unit"
      match ← skipBlanks with
      | some 125 => eat; return i
      | some _ => failHere expectedValue
      | none => failHere eofObject
  | some 34 => name
  | some _ => failPeek expectedValue
  | none => failPeek eofValue

/-- Read the fields of a record named `name`: from an object, by key, or from an array, by
position. Each field reader gets the nesting depth left inside the record. -/
def readStruct (name : String) (fields : List (String × (Nat → ReadM α))) (depth : Nat) :
    ReadM (List α) := do
  let count := fields.length
  match ← skipBlanks with
  | none => failPeek eofValue
  | some 91 =>
    if depth ≤ 1 then failPeek recursionLimit
    else
      eat
      let expecting := "struct " ++ name ++ " with " ++ toString count ++ " elements"
      let rec items : List (String × (Nat → ReadM α)) → Nat → Bool → ReadM (List α)
        | [], _, _ => pure []
        | (_, f) :: fs, i, first => do
          match ← nextItem first with
          | none => throw (invalidLength i expecting)
          | some _ =>
            let v ← f (depth - 1)
            return v :: (← items fs (i + 1) false)
      thenClose (items fields 0 true) (closeArray)
  | some 123 =>
    if depth ≤ 1 then failPeek recursionLimit
    else
      eat
      let rec members : Nat → Bool → Array (Option α) → ReadM (Array (Option α))
        | 0, _, got => pure got
        | fuel + 1, first, got => do
          match ← nextKey first with
          | none => return got
          | some k =>
            match fields.findIdx? (·.1 = k) with
            | some j =>
              if (got[j]?.getD none).isSome then throw (duplicateField k)
              else
                readColon
                let v ← (fields[j]?.map (·.2)).getD (fun _ => skipValue *> failHere "")
                  (depth - 1)
                members fuel false (got.set! j (some v))
            | none =>
              readColon
              skipValue
              members fuel false got
      let body : ReadM (List α) := do
        let got ← members ((← read).size + 1) true (Array.replicate count none)
        let rec collect : List (String × (Nat → ReadM α)) → Nat → ReadM (List α)
          | [], _ => pure []
          | (f, _) :: fs, j =>
            match got[j]?.getD none with
            | some v => return v :: (← collect fs (j + 1))
            | none => throw (missingField f)
        collect fields 0
      thenClose body (closeObject)
  | some _ => refuseValue ("struct " ++ name)

/-- Read a whole text as one value read by `read`, with only blanks after it. -/
def readDocument (src : ByteArray) (reader : ReadM α) : Except ReadError α :=
  let whole : ReadM α := do
    let v ← reader
    match ← skipBlanks with
    | some _ => failPeek trailingCharacters
    | none => return v
  (((whole.run src).run).run 0).1

end Reader

end RegisterAtlas.Json
