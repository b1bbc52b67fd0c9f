/-!
# XML character classes

The classes of characters that XML 1.0 distinguishes: blanks between markup, the characters a
document may hold at all, and the characters that may start or continue a name.
-/

namespace RegisterAtlas.Xml

/-- Space, tab, line feed or carriage return. -/
def isSpace (c : Char) : Bool := c = ' ' || c = '\t' || c = '\n' || c = '\r'

/-- Whether a document may hold the character: no control character but the blanks, and neither
U+FFFE nor U+FFFF. -/
def isXmlChar (c : Char) : Bool :=
  if c.toNat < 0x20 then isSpace c else !(c.toNat == 0xFFFE || c.toNat == 0xFFFF)

/-- An ASCII letter. -/
def isAsciiLetter (c : Char) : Bool := ('a' ≤ c && c ≤ 'z') || ('A' ≤ c && c ≤ 'Z')

/-- An ASCII character that may continue a name (the colon included). -/
def isAsciiNameChar (c : Char) : Bool :=
  isAsciiLetter c || ('0' ≤ c && c ≤ '9') || c = ':' || c = '_' || c = '-' || c = '.'

/-- Whether a code point lies in one of the inclusive ranges. -/
def inRanges (n : Nat) : List (Nat × Nat) → Bool
  | [] => false
  | (lo, hi) :: rs => (lo ≤ n && n ≤ hi) || inRanges n rs

/-- Whether a character may start a name. -/
def isNameStart (c : Char) : Bool :=
  if c.toNat ≤ 128 then isAsciiLetter c || c = ':' || c = '_'
  else inRanges c.toNat
    [(0xC0, 0xD6), (0xD8, 0xF6), (0xF8, 0x2FF), (0x370, 0x37D), (0x37F, 0x1FFF),
     (0x200C, 0x200D), (0x2070, 0x218F), (0x2C00, 0x2FEF), (0x3001, 0xD7FF),
     (0xF900, 0xFDCF), (0xFDF0, 0xFFFD), (0x10000, 0xEFFFF)]

/-- Whether a character may continue a name. -/
def isNameChar (c : Char) : Bool :=
  if c.toNat ≤ 128 then isAsciiNameChar c
  else inRanges c.toNat
    [(0xB7, 0xB7), (0xC0, 0xD6), (0xD8, 0xF6), (0xF8, 0x37D), (0x37F, 0x1FFF),
     (0x200C, 0x200D), (0x203F, 0x2040), (0x2070, 0x218F), (0x2C00, 0x2FEF),
     (0x3001, 0xD7FF), (0xF900, 0xFDCF), (0xFDF0, 0xFFFD), (0x10000, 0xEFFFF)]

/-- The first byte of a character's UTF-8 form, read as a character of its own (as a
byte-oriented reader reports it). -/
def leadByteChar (c : Char) : Char :=
  match c.toString.toUTF8.toList with
  | b :: _ => Char.ofNat b.toNat
  | [] => c

end RegisterAtlas.Xml
