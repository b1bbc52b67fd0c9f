/-!
# Path texts

Paths as the operating system writes them: components separated by `/`, a leading `/` for an
absolute path. Joining and changing the extension work on the text, so that a path is shown the way
it was given.

* `Path.join base p` appends `p` after a separator, unless `p` is absolute (then it replaces
  `base`) or `base` is empty or already ends with a separator.
* `Path.withExtension p ext` replaces the extension of the last component (what follows its last
  dot, unless the dot starts the name) with `ext`; a path whose last component is `.` or `..`, or
  that has none, stays as it is.
-/

namespace RegisterAtlas.Path

/-- Append `p` to `base`. -/
def join (base p : String) : String :=
  if p.startsWith "/" then p
  else if base.isEmpty || base.endsWith "/" then base ++ p
  else base ++ "/" ++ p

/-- The components of a path text, each with the index just past its end: empty components and
`.` components are left out, except a `.` that starts a relative path. -/
def components (cs : List Char) : List (String × Nat) :=
  let rec go : List Char → Nat → List Char → Bool → List (String × Nat)
    | [], i, cur, first =>
      let s := String.ofList cur.reverse
      if s.isEmpty || (s == "." && !first) then [] else [(s, i)]
    | c :: rest, i, cur, first =>
      if c = '/' then
        let s := String.ofList cur.reverse
        let here := if s.isEmpty || (s == "." && !first) then [] else [(s, i)]
        here ++ go rest (i + 1) [] false
      else go rest (i + 1) (c :: cur) first
  go cs 0 [] (cs.head? != some '/')

/-- The length of a file name's stem: the name up to its last dot, unless that dot starts the
name or there is none. -/
def stemLength (name : List Char) : Nat :=
  match (name.reverse.findIdx? (· = '.')) with
  | some k =>
    let dot := name.length - 1 - k
    if dot = 0 then name.length else dot
  | none => name.length

/-- The path with the extension of its last component set to `ext`. -/
def withExtension (p : String) (ext : String) : String :=
  match (components p.toList).getLast? with
  | some (name, stop) =>
    if name == "." || name == ".." then p
    else
      let keep := stop - name.length + stemLength name.toList
      let base := String.ofList (p.toList.take keep)
      if ext.isEmpty then base else base ++ "." ++ ext
  | none => p

end RegisterAtlas.Path
