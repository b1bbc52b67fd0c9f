/-!
# Blank characters

The Unicode `White_Space` property: the 25 code points that separate words. Trimming a text and
splitting it into words use this set, so a no-break space (U+00A0) or an ideographic space
(U+3000) counts as blank, while a zero-width space (U+200B) does not.

* `trim` drops blanks at both ends, `words` splits at runs of blanks.
-/

namespace RegisterAtlas.Text

/-- The code points of the `White_Space` property, in increasing order. -/
def blankCodes : List Nat :=
  [0x09, 0x0A, 0x0B, 0x0C, 0x0D, 0x20, 0x85, 0xA0, 0x1680,
   0x2000, 0x2001, 0x2002, 0x2003, 0x2004, 0x2005, 0x2006, 0x2007, 0x2008, 0x2009, 0x200A,
   0x2028, 0x2029, 0x202F, 0x205F, 0x3000]

/-- Whether a character is blank (Unicode `White_Space`). -/
def isBlank (c : Char) : Bool := blankCodes.contains c.toNat

/-- The characters with blanks dropped at both ends. -/
def trimChars (cs : List Char) : List Char :=
  ((cs.dropWhile isBlank).reverse.dropWhile isBlank).reverse

/-- The text with blanks dropped at both ends. -/
def trim (s : String) : String := String.ofList (trimChars s.toList)

/-- The words of `cs`: its maximal runs of non-blank characters, in order. `word` holds the
characters of the current word seen so far, last first. -/
def wordsFrom : List Char → List Char → List String
  | [], word => if word.isEmpty then [] else [String.ofList word.reverse]
  | c :: cs, word =>
    if isBlank c then
      if word.isEmpty then wordsFrom cs [] else String.ofList word.reverse :: wordsFrom cs []
    else wordsFrom cs (c :: word)

/-- The words of a text: its maximal runs of non-blank characters, in order. -/
def words (s : String) : List String := wordsFrom s.toList []

/-- The words of a text joined by single spaces: blank runs collapse, ends are dropped. -/
def collapseBlanks (s : String) : String := " ".intercalate (words s)

end RegisterAtlas.Text
