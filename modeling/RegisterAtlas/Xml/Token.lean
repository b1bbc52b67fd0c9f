import RegisterAtlas.Xml.Error
import RegisterAtlas.Xml.Char
/-!
# XML tokens

The first stage of reading a document: its text becomes a sequence of tokens (start and end of
tags, attributes, text, character data, comments, processing instructions), in document order.
Positions are character indices into the text.

The scanner reads a prolog (an optional byte order mark, an optional `<?xml ` declaration,
comments, instructions and blanks), refuses a document type declaration, reads one element with
its content, then a closing run of comments, instructions and blanks; anything else left over is
an unknown token. `tokens` answers the tokens read and, if reading stopped early, why: the tokens
before an error still count, since the next stage may find an earlier fault in them.

Each loop that advances through the text carries a fuel of one step per character, which is
enough because every step consumes at least one character.
-/

namespace RegisterAtlas.Xml

/-- How a tag ends. -/
inductive TagEnd
  /-- `>` after a start tag: content follows. -/
  | opened
  /-- `/>`: an empty element. -/
  | empty
  /-- `</prefix:name>`, the end tag of an element. -/
  | close (pfx name : String)
  deriving Repr, DecidableEq

/-- A token of a document, with the index where it starts. -/
inductive Token
  /-- A processing instruction `<?target content?>`. -/
  | instruction (target : String) (content : Option String)
  /-- A comment `<!-- text -->`. -/
  | comment (text : String)
  /-- The start `<prefix:name` of a start tag. -/
  | elementStart (pfx name : String) (pos : Nat)
  /-- An attribute `prefix:name="value"`; `valuePos` is where the value starts. -/
  | attribute (pos : Nat) (pfx name : String) (value : List Char) (valuePos : Nat)
  /-- The end of a tag. -/
  | elementEnd (kind : TagEnd) (pos : Nat)
  /-- Text between tags, as written. -/
  | text (chars : List Char) (pos : Nat)
  /-- Character data `<![CDATA[ chars ]]>`. -/
  | cdata (chars : List Char) (pos : Nat)
  deriving Repr

/-- Scanning: tokens accumulate in the state, and stay there when an error stops the scan. -/
abbrev Scan := ExceptT XmlError (StateM (Array Token))

/-- Run a step that may fail inside a scan. -/
def lift {α : Type} : Except XmlError α → Scan α
  | .ok a => pure a
  | .error e => throw e

/-- Add a token. -/
def emit (t : Token) : Scan Unit := modify (·.push t)

section Cursor

variable (src : Array Char)

/-- The place of index `i`. -/
def posAt (i : Nat) : TextPos := TextPos.at src i

/-- The text between two indices. -/
def slice (i j : Nat) : String := String.ofList (src.extract i j).toList

/-- Whether the text continues at `i` with `s`. -/
def startsWith (i : Nat) : List Char → Bool
  | [] => true
  | c :: cs => src[i]? == some c && startsWith (i + 1) cs

/-- The first index from `i` on whose character fails `p`. -/
def skipWhile (p : Char → Bool) (i : Nat) : Nat :=
  if h : i < src.size then
    if p src[i] then skipWhile p (i + 1) else i
  else i
termination_by src.size - i

/-- The first index from `i` on that is not a blank. -/
def skipSpaces (i : Nat) : Nat := skipWhile src isSpace i

/-- Advance from `i` while `keep` holds, refusing characters that XML does not allow (the one
that stops the run included). -/
def skipChars (keep : Nat → Char → Bool) (i : Nat) : Except XmlError Nat :=
  if h : i < src.size then
    let c := src[i]
    if !isXmlChar c then .error (.nonXmlChar c (posAt src i))
    else if keep i c then skipChars keep (i + 1) else .ok i
  else .ok i
termination_by src.size - i

/-- Read the character `c` at `i`. -/
def consumeChar (i : Nat) (c : Char) : Except XmlError Nat :=
  match src[i]? with
  | none => .error .unexpectedEndOfStream
  | some d => if d = c then .ok (i + 1) else .error (.invalidChar c (leadByteChar d) (posAt src i))

/-- Read the fixed text `s` at `i`. -/
def skipString (i : Nat) (s : String) : Except XmlError Nat :=
  if startsWith src i s.toList then .ok (i + s.length) else .error (.invalidString s (posAt src i))

/-- Read a name (no prefix split) at `i`. -/
def consumeName (i : Nat) : Except XmlError (String × Nat) :=
  match src[i]? with
  | none => .error (.invalidName (posAt src i))
  | some c =>
    if isNameStart c then
      let e := skipWhile src isNameChar (i + 1)
      .ok (slice src i e, e)
    else .error (.invalidName (posAt src i))

/-- The end of a qualified name starting at `start`, now at `i`, with the index of its colon. -/
def qnameEnd (start : Nat) (i : Nat) (colon : Option Nat) :
    Except XmlError (Nat × Option Nat) :=
  if h : i < src.size then
    let c := src[i]
    if c.toNat < 128 then
      if c = ':' then
        match colon with
        | none => qnameEnd start (i + 1) (some i)
        | some _ => .error (.invalidName (posAt src start))
      else if isAsciiNameChar c then qnameEnd start (i + 1) colon
      else .ok (i, colon)
    else if isNameChar c then qnameEnd start (i + 1) colon
    else .ok (i, colon)
  else .ok (i, colon)
termination_by src.size - i

/-- Whether a name is empty or starts with a name-start character. -/
def startsWell (s : String) : Bool :=
  match s.toList with
  | c :: _ => isNameStart c
  | [] => true

/-- Read a qualified name `prefix:name` (or a plain `name`) at `start`. -/
def consumeQName (start : Nat) : Except XmlError ((String × String) × Nat) := do
  let (e, colon) ← qnameEnd src start start none
  let (pfx, name) := match colon with
    | some k => (slice src start k, slice src (k + 1) e)
    | none => ("", slice src start e)
  if !startsWell pfx || name.isEmpty || !startsWell name then
    .error (.invalidName (posAt src start))
  else .ok ((pfx, name), e)

/-- Read `=` with blanks around it. -/
def consumeEq (i : Nat) : Except XmlError Nat := do
  let i ← consumeChar src (skipSpaces src i) '='
  .ok (skipSpaces src i)

/-- Read an opening quote. -/
def consumeQuote (i : Nat) : Except XmlError (Char × Nat) :=
  match src[i]? with
  | none => .error .unexpectedEndOfStream
  | some c =>
    if c = '\'' || c = '"' then .ok (c, i + 1)
    else .error (.invalidCharKind "a quote" (leadByteChar c) (posAt src i))

/-- Read a quoted value that holds no `<`; answers where the value starts and ends. -/
def consumeValue (i : Nat) : Except XmlError (Nat × Nat × Nat) := do
  let (q, k) ← consumeQuote src i
  let e ← skipChars src (fun _ c => c ≠ q && c ≠ '<') k
  let after ← consumeChar src e q
  .ok (k, e, after)

/-- Blanks inside the declaration: required unless `?>` or the end follows. -/
def declarationSpaces (i : Nat) : Except XmlError Nat :=
  match src[i]? with
  | none => .ok i
  | some c =>
    if isSpace c then .ok (skipSpaces src i)
    else if startsWith src i "?>".toList then .ok i
    else .error (.invalidCharKind "a whitespace" (leadByteChar c) (posAt src i))

/-- One pseudo-attribute of the declaration; its name is read as a qualified name. -/
def declarationAttribute (i : Nat) : Except XmlError Nat := do
  let (_, i) ← consumeQName src i
  let i ← consumeEq src i
  let (_, _, after) ← consumeValue src i
  .ok after

/-- The declaration `<?xml version=… encoding=… standalone=… ?>` at `start`. -/
def declaration (start : Nat) : Except XmlError Nat := do
  let i ← declarationSpaces src (start + 5)
  if !startsWith src i "version".toList then
    .error (.invalidString "version" (posAt src i))
  else
    let i ← declarationAttribute src i
    let i ← declarationSpaces src i
    let i ← if startsWith src i "encoding".toList then do
        let i ← declarationAttribute src i
        declarationSpaces src i
      else .ok i
    let i ← if startsWith src i "standalone".toList then declarationAttribute src i else .ok i
    skipString src (skipSpaces src i) "?>"

/-- Whether a list of characters contains `s` as a contiguous part. -/
def containsChars (s : List Char) : List Char → Bool
  | [] => s.isEmpty
  | c :: cs => s.isPrefixOf (c :: cs) || containsChars s cs

/-- A comment at `start`: it may neither hold `--` nor end with `-`. -/
def comment (start : Nat) : Scan Nat := do
  let i := start + 4
  let e ← lift (skipChars src (fun j c => !(c = '-' && startsWith src j "-->".toList)) i)
  let after ← lift (skipString src e "-->")
  let body := (src.extract i e).toList
  if containsChars ['-', '-'] body || body.getLast? == some '-' then
    throw (.invalidComment (posAt src start))
  emit (.comment (String.ofList body))
  return after

/-- A processing instruction at `start`; a second `<?xml ` declaration is refused. -/
def instruction (start : Nat) : Scan Nat := do
  if startsWith src start "<?xml ".toList then throw (.unexpectedDeclaration (posAt src start))
  let (target, i) ← lift (consumeName src (start + 2))
  let i := skipSpaces src i
  let e ← lift (skipChars src (fun j c => !(c = '?' && startsWith src j "?>".toList)) i)
  let after ← lift (skipString src e "?>")
  let content := slice src i e
  emit (.instruction target (if content.isEmpty then none else some content))
  return after

/-- Character data at `start`. -/
def cdata (start : Nat) : Scan Nat := do
  let i := start + 9
  let e ← lift (skipChars src (fun j c => !(c = ']' && startsWith src j "]]>".toList)) i)
  let after ← lift (skipString src e "]]>")
  emit (.cdata (src.extract i e).toList i)
  return after

/-- Text at `start`, up to the next `<`; it may not hold `]]>`, which is reported at the end of
the text. -/
def text (start : Nat) : Scan Nat := do
  let e ← lift (skipChars src (fun _ c => c ≠ '<') start)
  let body := (src.extract start e).toList
  if body.contains '>' && containsChars [']', ']', '>'] body then
    throw (.invalidCharacterData (posAt src e))
  emit (.text body start)
  return e

/-- An end tag at `start`. -/
def closeTag (start : Nat) : Scan Nat := do
  let ((pfx, name), i) ← lift (consumeQName src (start + 2))
  let after ← lift (consumeChar src (skipSpaces src i) '>')
  emit (.elementEnd (.close pfx name) start)
  return after

/-- The attributes and the end of a start tag, from `i`; answers where the tag ends and whether
content follows. An attribute must follow a blank. -/
def tagRest : Nat → Nat → Scan (Nat × Bool)
  | 0, i => return (i, false)
  | fuel + 1, i => do
    if src.size ≤ i then return (i, false)
    let hasSpace := src[i]?.any isSpace
    let j := skipSpaces src i
    match src[j]? with
    | none => throw .unexpectedEndOfStream
    | some '/' =>
      let after ← lift (consumeChar src (j + 1) '>')
      emit (.elementEnd .empty j)
      return (after, false)
    | some '>' =>
      emit (.elementEnd .opened j)
      return (j + 1, true)
    | some c =>
      if !hasSpace then throw (.invalidCharKind "a whitespace" (leadByteChar c) (posAt src j))
      let ((pfx, name), k) ← lift (consumeQName src j)
      let k ← lift (consumeEq src k)
      let (vStart, vEnd, after) ← lift (consumeValue src k)
      emit (.attribute j pfx name (src.extract vStart vEnd).toList vStart)
      tagRest fuel after

/-- A start tag at `start`. -/
def startTag (start : Nat) : Scan (Nat × Bool) := do
  let ((pfx, name), i) ← lift (consumeQName src (start + 1))
  emit (.elementStart pfx name start)
  tagRest src (src.size + 1) i

/-- The content of open elements, `depth` of them, from `i`; answers where the outermost one
ends (or the end of the text). -/
def content : Nat → Nat → Nat → Scan Nat
  | 0, _, i => return i
  | fuel + 1, depth, i => do
    match src[i]? with
    | none => return i
    | some '<' =>
      match src[i + 1]? with
      | none => throw (.unknownToken (posAt src i))
      | some '!' =>
        if startsWith src i "<!--".toList then content fuel depth (← comment src i)
        else if startsWith src i "<![CDATA[".toList then content fuel depth (← cdata src i)
        else throw (.unknownToken (posAt src i))
      | some '?' => content fuel depth (← instruction src i)
      | some '/' =>
        let e ← closeTag src i
        if depth ≤ 1 then return e else content fuel (depth - 1) e
      | some _ =>
        let (e, opened) ← startTag src i
        content fuel (if opened then depth + 1 else depth) e
    | some _ => content fuel depth (← text src i)

/-- Comments, instructions and blanks from `i`; answers where something else starts. -/
def misc : Nat → Nat → Scan Nat
  | 0, i => return i
  | fuel + 1, i => do
    if src.size ≤ i then return i
    let j := skipSpaces src i
    if startsWith src j "<!--".toList then misc fuel (← comment src j)
    else if startsWith src j "<?".toList then misc fuel (← instruction src j)
    else return j

/-- A whole document. -/
def document : Scan Unit := do
  let fuel := src.size + 1
  let i := if src[0]? == some '\uFEFF' then 1 else 0
  let i ← if startsWith src i "<?xml ".toList then lift (declaration src i) else pure i
  let i ← misc src fuel i
  let i := skipSpaces src i
  if startsWith src i "<!DOCTYPE".toList then throw .dtdDetected
  let i := skipSpaces src i
  let i ← if src[i]? == some '<' then do
      let (e, opened) ← startTag src i
      if opened then content src fuel 1 e else pure e
    else pure i
  let i ← misc src fuel i
  if i < src.size then throw (.unknownToken (posAt src i))

end Cursor

/-- The tokens of a document text, and the error that stopped the scan, if any. -/
def tokens (src : Array Char) : Array Token × Option XmlError :=
  match (document src).run.run #[] with
  | (.ok (), ts) => (ts, none)
  | (.error e, ts) => (ts, some e)

end RegisterAtlas.Xml
