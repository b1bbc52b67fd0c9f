import RegisterAtlas.Bits.Position
import RegisterAtlas.Device.Basic
import RegisterAtlas.Numeral
import RegisterAtlas.Text.Quoted
/-!
# Bit position encodings

A field states its position in one of three encodings, and `normalize` turns it into a
`Position`.

* The encoding used is the first complete one in the order: `bitOffset` with `bitWidth`, then
  `bitRange`, then `lsb` with `msb`; an empty value counts as absent (`Spec.of`).
* `bitOffset`/`bitWidth` are decimal words, blanks around them allowed.
* `bitRange` is `[msb:lsb]` (blanks allowed around the whole and around each number); it gives
  offset `lsb` and width `msb - lsb + 1`, which must be a word.
* `lsb`/`msb` is recognised but not handled.
* A width of zero is refused.
-/

namespace RegisterAtlas.Bits

/-- The three encodings of a bit position, with their raw texts. -/
inductive Spec
  /-- `bitOffset` and `bitWidth`. -/
  | offsetWidth (offset width : String)
  /-- `bitRange`, `[msb:lsb]`. -/
  | range (range : String)
  /-- `lsb` and `msb`. -/
  | lsbMsb (lsb msb : String)
  deriving Repr, DecidableEq

/-- The elements whose texts are read as numbers. -/
inductive Element
  | bitOffset
  | bitWidth
  | bitRange
  deriving Repr, DecidableEq

/-- The element's tag in a description. -/
def Element.tag : Element → String
  | .bitOffset => "bitOffset"
  | .bitWidth => "bitWidth"
  | .bitRange => "bitRange"

/-- Why a field's position cannot be normalised. -/
inductive SpecError
  /-- The element's text is not a decimal word. -/
  | invalidInteger (element : Element) (value : String)
  /-- The range is not of the form `[msb:lsb]` with `lsb ≤ msb`. -/
  | invalidRange (range : String)
  /-- The field has no bits. -/
  | zeroWidth
  /-- The field uses `lsb`/`msb`. -/
  | lsbMsbUnsupported
  /-- The field has no complete encoding. -/
  | missing
  deriving Repr, DecidableEq

/-- The text of a normalisation error. -/
def SpecError.message : SpecError → String
  | .invalidInteger e v => "unable to convert " ++ e.tag ++ " " ++ Text.quote v ++ " to an integer"
  | .invalidRange r => "bitRange " ++ Text.quote r ++ " is not of the form [msb:lsb]"
  | .zeroWidth => "bit width must be at least 1"
  | .lsbMsbUnsupported => "lsb/msb bit positions are not handled"
  | .missing => "no valid bit position found"

/-- A value that is given and not empty. -/
def present : Option String → Option String
  | some s => if s = "" then none else some s
  | none => none

/-- The encoding a field uses: the first complete one. -/
def Spec.of (f : BitField) : Option Spec :=
  match present f.bitOffset, present f.bitWidth with
  | some o, some w => some (.offsetWidth o w)
  | _, _ =>
    match present f.bitRange with
    | some r => some (.range r)
    | none =>
      match present f.lsb, present f.msb with
      | some l, some m => some (.lsbMsb l m)
      | _, _ => none

/-- A decimal word, blanks around it allowed. -/
def readWord (e : Element) (value : String) : Except SpecError UInt32 :=
  match Numeral.readWord (Text.trim value) with
  | some n => .ok n.toUInt32
  | none => .error (.invalidInteger e value)

/-- The inside of `[msb:lsb]`: the two texts around the first colon. -/
def splitRange (range : String) : Option (String × String) :=
  match (Text.trim range).toList with
  | '[' :: rest =>
    match rest.reverse with
    | ']' :: inner =>
      let cs := inner.reverse
      match cs.findIdx? (· = ':') with
      | some i => some (String.ofList (cs.take i), String.ofList (cs.drop (i + 1)))
      | none => none
    | _ => none
  | _ => none

/-- The position a bit range gives. -/
def readRange (range : String) : Except SpecError Position := do
  let some (hi, lo) := splitRange range | .error (.invalidRange range)
  let hi ← readWord .bitRange hi
  let lo ← readWord .bitRange lo
  if lo ≤ hi ∧ hi.toNat - lo.toNat + 1 ≤ maxU32 then
    .ok ⟨lo, hi - lo + 1⟩
  else
    .error (.invalidRange range)

/-- The position an encoding gives, before the width check. -/
def Spec.position : Spec → Except SpecError Position
  | .offsetWidth o w => do
    let offset ← readWord .bitOffset o
    let width ← readWord .bitWidth w
    .ok ⟨offset, width⟩
  | .range r => readRange r
  | .lsbMsb _ _ => .error .lsbMsbUnsupported

/-- The position of an encoding, refusing a width of zero. -/
def Spec.normalize (s : Spec) : Except SpecError Position := do
  let p ← s.position
  if p.width = 0 then .error .zeroWidth else .ok p

/-- The position of a field. -/
def normalize (f : BitField) : Except SpecError Position :=
  match Spec.of f with
  | some s => s.normalize
  | none => .error .missing

end RegisterAtlas.Bits
