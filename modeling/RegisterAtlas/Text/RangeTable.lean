/-!
# Tables of code point ranges

A property of characters from the Unicode database is kept as a sorted list of inclusive code
point ranges, written compactly as text: hexadecimal bounds `lo-hi` (or a single `c`), separated
by blanks. Case maps add a signed offset and, for ranges where only every other code point is
mapped (upper and lower case letters alternating), a stride: `lo-hi:+1/2`.

* `RangeTable.parse` reads the range form, `CaseRun.parseAll` the case-map form.
* `RangeTable.contains` answers membership.
-/

namespace RegisterAtlas.Text

/-- Value of one hexadecimal digit, if it is one. -/
def hexDigitValue (c : Char) : Option Nat :=
  if '0' ≤ c ∧ c ≤ '9' then some (c.toNat - '0'.toNat)
  else if 'A' ≤ c ∧ c ≤ 'F' then some (c.toNat - 'A'.toNat + 10)
  else if 'a' ≤ c ∧ c ≤ 'f' then some (c.toNat - 'a'.toNat + 10)
  else none

/-- The number written by hexadecimal digits (most significant first); non-digits count as
zero, which the tables never contain. -/
def hexValue (cs : List Char) : Nat :=
  cs.foldl (fun acc c => acc * 16 + (hexDigitValue c).getD 0) 0

/-- Inclusive code point ranges, in increasing order. -/
abbrev RangeTable := Array (Nat × Nat)

namespace RangeTable

/-- One range `lo-hi` or a single code point `c`. -/
def parseRange (word : String) : Nat × Nat :=
  match word.splitOn "-" with
  | [lo, hi] => (hexValue lo.toList, hexValue hi.toList)
  | _ => (hexValue word.toList, hexValue word.toList)

/-- Ranges separated by blanks. -/
def parse (text : String) : RangeTable :=
  ((text.splitOn " ").filter (· ≠ "")).toArray.map parseRange

/-- Whether a code point lies in one of the ranges. -/
def contains (table : RangeTable) (n : Nat) : Bool :=
  table.any fun r => r.1 ≤ n && n ≤ r.2

end RangeTable

/-- A run of a case map: the code points from `lo` to `hi` (every `stride`-th one) map to the
code point `offset` away. -/
structure CaseRun where
  lo : Nat
  hi : Nat
  offset : Int
  stride : Nat
  deriving Repr

namespace CaseRun

/-- Whether the run maps code point `n`. -/
def covers (r : CaseRun) (n : Nat) : Bool :=
  r.lo ≤ n && n ≤ r.hi && (n - r.lo) % r.stride == 0

/-- A signed decimal offset such as `+32` or `-121`. -/
def parseOffset (word : String) : Int :=
  match word.toList with
  | '-' :: ds => -((String.ofList ds).toNat?.getD 0 : Int)
  | '+' :: ds => ((String.ofList ds).toNat?.getD 0 : Int)
  | ds => ((String.ofList ds).toNat?.getD 0 : Int)

/-- One run `lo-hi:+d/2`, `lo-hi:+d` or `c:+d`. -/
def parse (word : String) : CaseRun :=
  match word.splitOn ":" with
  | [range, rest] =>
    let (lo, hi) := RangeTable.parseRange range
    match rest.splitOn "/" with
    | [off, stride] => ⟨lo, hi, parseOffset off, (stride.toNat?.getD 1)⟩
    | _ => ⟨lo, hi, parseOffset rest, 1⟩
  | _ => ⟨0, 0, 0, 1⟩

/-- Runs separated by blanks. -/
def parseAll (text : String) : Array CaseRun :=
  ((text.splitOn " ").filter (· ≠ "")).toArray.map parse

end CaseRun

end RegisterAtlas.Text
