/-!
# JSON values

The JSON documents of the store file: values with numbers kept as unsigned integers, negative
integers or doubles, and objects as lists of members. The compact text of a value has no blanks;
strings escape `"`, `\` and the control characters, with the short forms `\b`, `\t`, `\n`, `\f`,
`\r` where they exist and `\u00xx` (lower-case hex) otherwise.

* `JsonValue.renderWith` is the compact text of a value, doubles written by a given function.
* `toMap` turns the members of an object into a map: members sorted by key, the last of equal
  keys kept. Values read back from text are compared in this form.
-/

namespace RegisterAtlas.Json

/-- A JSON number, as a reader classifies it. -/
inductive Number
  /-- A non-negative integer below `2^64`. -/
  | nat (n : Nat)
  /-- A negative integer of at least `-2^63`. -/
  | neg (n : Int)
  /-- Any other number, as a double. -/
  | float (f : Float)
  deriving Inhabited

/-- A JSON value. -/
inductive JsonValue
  /-- `null`. -/
  | null
  /-- `true` or `false`. -/
  | bool (b : Bool)
  /-- A number. -/
  | number (n : Number)
  /-- A string. -/
  | str (s : String)
  /-- An array. -/
  | arr (xs : List JsonValue)
  /-- An object, its members in order. -/
  | obj (kvs : List (String × JsonValue))
  deriving Inhabited

/-- The lower-case hex digit of a value below 16. -/
def hexDigit (n : Nat) : Char :=
  if n < 10 then Char.ofNat (48 + n) else Char.ofNat (87 + n)

/-- The escaped form of one character inside a string. -/
def escapeChar (c : Char) : List Char :=
  if c = '"' then ['\\', '"']
  else if c = '\\' then ['\\', '\\']
  else if c = '\n' then ['\\', 'n']
  else if c = '\r' then ['\\', 'r']
  else if c = '\t' then ['\\', 't']
  else if c.toNat = 8 then ['\\', 'b']
  else if c.toNat = 12 then ['\\', 'f']
  else if c.toNat < 0x20 then
    ['\\', 'u', '0', '0', hexDigit (c.toNat / 16), hexDigit (c.toNat % 16)]
  else [c]

/-- A string between double quotes, escaped. -/
def quoteString (s : String) : String :=
  String.ofList ('"' :: s.toList.flatMap escapeChar ++ ['"'])

/-- The decimal text of a number, doubles written by `showFloat`. -/
def Number.renderWith (showFloat : Float → String) : Number → String
  | .nat n => toString n
  | .neg n => toString n
  | .float f => showFloat f

mutual

/-- The compact text of a value, doubles written by `showFloat`. -/
def JsonValue.renderWith (showFloat : Float → String) : JsonValue → String
  | .null => "null"
  | .bool b => if b then "true" else "false"
  | .number n => n.renderWith showFloat
  | .str s => quoteString s
  | .arr xs => "[" ++ renderItems showFloat xs ++ "]"
  | .obj kvs => "\x7b" ++ renderMembers showFloat kvs ++ "\x7d"

/-- The items of an array, separated by commas. -/
def renderItems (showFloat : Float → String) : List JsonValue → String
  | [] => ""
  | [x] => x.renderWith showFloat
  | x :: xs => x.renderWith showFloat ++ "," ++ renderItems showFloat xs

/-- The members of an object, separated by commas. -/
def renderMembers (showFloat : Float → String) : List (String × JsonValue) → String
  | [] => ""
  | [(k, v)] => quoteString k ++ ":" ++ v.renderWith showFloat
  | (k, v) :: kvs => quoteString k ++ ":" ++ v.renderWith showFloat ++ "," ++
      renderMembers showFloat kvs

end

/-- Insert a member into a map sorted by key, replacing a member of the same key. -/
def insertMember (k : String) (v : JsonValue) :
    List (String × JsonValue) → List (String × JsonValue)
  | [] => [(k, v)]
  | (k', v') :: rest =>
    if k = k' then (k, v) :: rest
    else if k < k' then (k, v) :: (k', v') :: rest
    else (k', v') :: insertMember k v rest

/-- The members of an object as a map: sorted by key, the last of equal keys kept. -/
def toMap (kvs : List (String × JsonValue)) : List (String × JsonValue) :=
  kvs.foldl (fun m kv => insertMember kv.1 kv.2 m) []

/-- The value of a key in a map. -/
def lookup (k : String) (kvs : List (String × JsonValue)) : Option JsonValue :=
  (kvs.find? (·.1 = k)).map (·.2)

end RegisterAtlas.Json
