import RegisterAtlas.Text.Printable
/-!
# Quoted text

How a text or a character is shown between quotes in a message, so that every character can be
told apart: the null character, tab, carriage return, line feed and backslash take a backslash
escape (`\0`, `\t`, `\r`, `\n`, `\\`), as does the quote that delimits the value; characters that
attach to the one before them (`isGraphemeExtend`) and characters that are not printable
(`isPrintable`) are written by code point, `\u{hex}` in lower case hexadecimal. All else stands
for itself.

* `quote` shows a text between double quotes, `quoteChar` a character between single quotes.
-/

namespace RegisterAtlas.Text

/-- Lower case hexadecimal digits of a number, most significant first, at least one digit. -/
def lowerHexDigits (n : Nat) : List Char :=
  (Nat.toDigits 16 n)

/-- A character written by its code point. -/
def codePointEscape (c : Char) : List Char :=
  ['\\', 'u', '{'] ++ lowerHexDigits c.toNat ++ ['}']

/-- How a character is written between quotes; `delimiter` is the quote around it, which
takes a backslash. -/
def escapeChar (delimiter : Char) (c : Char) : List Char :=
  if c = '\x00' then ['\\', '0']
  else if c = '\t' then ['\\', 't']
  else if c = '\r' then ['\\', 'r']
  else if c = '\n' then ['\\', 'n']
  else if c = '\\' then ['\\', '\\']
  else if c = delimiter then ['\\', c]
  else if isGraphemeExtend c then codePointEscape c
  else if isPrintable c then [c]
  else codePointEscape c

/-- A text between double quotes, escaped. -/
def quote (s : String) : String :=
  String.ofList ('"' :: s.toList.flatMap (escapeChar '"') ++ ['"'])

/-- A character between single quotes, escaped. -/
def quoteChar (c : Char) : String :=
  String.ofList ('\'' :: escapeChar '\'' c ++ ['\''])

end RegisterAtlas.Text
