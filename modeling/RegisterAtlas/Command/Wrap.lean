/-!
# Wrapping help text

Help text is wrapped to a width by moving whole words to the next line; a word longer than the
width stays whole.

* `words` splits a line after each run of spaces: a word is its characters and the spaces that
  follow them, and spaces at the start of the line form a word of their own.
* `wrapLine width ws` puts a line break before every word (but the first) whose characters,
  without the blanks after them, would reach past `width`; the blanks before the break are
  dropped, and a line that started with spaces has its continuation lines start with the same
  spaces.
* `wrapText width s` wraps each line of `s` on its own and drops the blanks at the end.
* `indentLines pad s` starts every line of `s` but the first with `pad`.
-/

namespace RegisterAtlas.Command

/-- Whether a character is a blank that ends of words and texts shed. -/
def isBlankChar (c : Char) : Bool := c = ' ' || c = '\n' || c = '\t' || c = '\r'

/-- A list of characters without its trailing blanks. -/
def trimEnd (cs : List Char) : List Char := (cs.reverse.dropWhile isBlankChar).reverse

/-- The words of a line: runs of non-space characters with the spaces after them. -/
def words (line : List Char) : List (List Char) :=
  let rec go : List Char → List Char → Bool → List (List Char)
    | [], cur, _ => if cur.isEmpty then [] else [cur.reverse]
    | c :: cs, cur, spaced =>
      if spaced && c != ' ' then cur.reverse :: go cs [c] false
      else go cs (c :: cur) (c = ' ')
  go line [] false

/-- Wrap the words of one line to `width` columns. -/
def wrapLine (width : Nat) (ws : List (List Char)) : List (List Char) :=
  let carry : List Char := match ws with
    | w :: _ => if (w.filter (!isBlankChar ·)).isEmpty then w else []
    | [] => []
  let rec go : Bool → Nat → List (List Char) → List (List Char) → List (List Char)
    | _, _, out, [] => out.reverse
    | first, used, out, w :: rest =>
      let body := trimEnd w
      let shed := w.length - body.length
      if !first && width < used + body.length then
        let out := match out with
          | prev :: older => trimEnd prev :: older
          | [] => []
        go false (carry.length + body.length + shed) (w :: carry :: ['\n'] :: out) rest
      else go false (used + body.length + shed) (w :: out) rest
  go true 0 [] ws

/-- The lines of a text, each with the line break that ends it. -/
def linesWithBreaks (cs : List Char) : List (List Char) :=
  let rec go : List Char → List Char → List (List Char)
    | [], cur => if cur.isEmpty then [] else [cur.reverse]
    | c :: rest, cur => if c = '\n' then (c :: cur).reverse :: go rest [] else go rest (c :: cur)
  go cs []

/-- Wrap every line of a text to `width` columns and drop the trailing blanks. -/
def wrapText (width : Nat) (s : String) : String :=
  String.ofList (trimEnd ((linesWithBreaks s.toList).flatMap fun l =>
    (wrapLine width (words l)).flatten))

/-- Start every line but the first with `pad`. -/
def indentLines (pad : String) (s : String) : String :=
  String.ofList (s.toList.flatMap fun c => if c = '\n' then '\n' :: pad.toList else [c])

/-- A run of spaces. -/
def spaces (n : Nat) : String := String.ofList (List.replicate n ' ')

end RegisterAtlas.Command
