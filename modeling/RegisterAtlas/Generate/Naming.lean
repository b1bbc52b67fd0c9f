import RegisterAtlas.Text.Case
/-!
# Names in generated code

Helpers that turn description values into names and numbers of generated Forth code.

* `forthHex` writes a hexadecimal number the Forth way: the first `0x` (or, if there is none, the
  first `0X`) becomes `$`; a value without either stays as it is.
* `shortPrefix` abbreviates a name to its first characters, lowered, to prefix register names.
-/

namespace RegisterAtlas.Generate

/-- The characters of `cs` with the first occurrence of `pat` replaced by `rep`, or `none`. -/
def replaceFirst (pat rep : List Char) : List Char → Option (List Char)
  | [] => none
  | c :: cs =>
    if pat.isPrefixOf (c :: cs) then some (rep ++ (c :: cs).drop pat.length)
    else (replaceFirst pat rep cs).map (c :: ·)

/-- A number in Forth's hexadecimal notation. -/
def forthHex (value : String) : String :=
  match replaceFirst ['0', 'x'] ['$'] value.toList with
  | some cs => String.ofList cs
  | none =>
    match replaceFirst ['0', 'X'] ['$'] value.toList with
    | some cs => String.ofList cs
    | none => value

/-- The first `len` characters of a name, lowered as a whole text. -/
def shortPrefix (name : String) (len : Nat) : String :=
  Text.lowercase (String.ofList (name.toList.take len))

end RegisterAtlas.Generate
