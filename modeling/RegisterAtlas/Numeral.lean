import RegisterAtlas.Text.Blank
/-!
# Numerals

Reading and writing numbers in a radix.

A numeral is read strictly: an optional plus sign, then at least one digit of the radix and
nothing else; no minus sign, no blanks, no separators. Its value must fit the target width, so
reading is `Numeral.read radix bound`, which answers `none` for a malformed numeral and for a value
of `bound` or more.

* `Numeral.readWord` reads a 32-bit word, `Numeral.readNumber` reads the register description
  forms of a 64-bit number: `0x`/`0X` hexadecimal, `#` binary or decimal, blanks around allowed.
* `Numeral.hexUpper` writes upper case hexadecimal padded with zeros to a least width.
-/

namespace RegisterAtlas.Numeral

/-- The value of a digit in a radix up to 36, if the character is one. -/
def digitValue (radix : Nat) (c : Char) : Option Nat :=
  let v :=
    if '0' ≤ c ∧ c ≤ '9' then some (c.toNat - '0'.toNat)
    else if 'a' ≤ c ∧ c ≤ 'z' then some (c.toNat - 'a'.toNat + 10)
    else if 'A' ≤ c ∧ c ≤ 'Z' then some (c.toNat - 'A'.toNat + 10)
    else none
  v.filter (· < radix)

/-- The value of a non-empty digit string, accumulated onto `acc`. -/
def digitsValue (radix : Nat) : List Char → Nat → Option Nat
  | [], acc => some acc
  | c :: cs, acc =>
    match digitValue radix c with
    | some d => digitsValue radix cs (acc * radix + d)
    | none => none

/-- The value of a numeral without bound: an optional plus sign, then at least one digit. -/
def value (radix : Nat) (s : String) : Option Nat :=
  match s.toList with
  | [] => none
  | ['+'] => none
  | '+' :: ds => digitsValue radix ds 0
  | ds => digitsValue radix ds 0

/-- A numeral whose value is below `bound`. -/
def read (radix bound : Nat) (s : String) : Option Nat :=
  (value radix s).filter (· < bound)

/-- A decimal 32-bit word. -/
def readWord (s : String) : Option Nat := read 10 (Nat.pow 2 32) s

/-- A 64-bit number as register descriptions write it: blanks around it are ignored; `0x` or
`0X` starts hexadecimal, `#` binary, anything else is decimal. -/
def readNumber (s : String) : Option Nat :=
  match (Text.trim s).toList with
  | '0' :: 'x' :: ds => read 16 (Nat.pow 2 64) (String.ofList ds)
  | '0' :: 'X' :: ds => read 16 (Nat.pow 2 64) (String.ofList ds)
  | '#' :: ds => read 2 (Nat.pow 2 64) (String.ofList ds)
  | _ => read 10 (Nat.pow 2 64) (Text.trim s)

/-- Upper case hexadecimal digits of a number, at least `width` of them (zeros in front). -/
def hexUpper (width n : Nat) : String :=
  let ds := (Nat.toDigits 16 n).map Char.toUpper
  String.ofList (List.replicate (width - ds.length) '0' ++ ds)

end RegisterAtlas.Numeral
