import RegisterAtlas.Xml.Token
/-!
# XML documents

The second stage of reading a document: its tokens become a tree of nodes. On the way, text is
decoded (entity and character references, line ends), attribute values are normalised (each
blank becomes a space), namespaces are resolved, and the faults that need context are found:
duplicated attributes and namespace declarations, unknown prefixes and entities, and end tags
that do not match. Adjacent text and character data form one text node.

* `read` reads a whole text. It reports the first fault in document order: a fault the tree
  stage finds in the tokens that were read wins over the fault that stopped the scan.
* `Node.text` is the text of an element (its first child, when that is text),
  `Node.childrenNamed` and `Node.attribute` look up children and attributes by local name.
-/

namespace RegisterAtlas.Xml

/-- The namespace of the `xml` prefix. -/
def xmlUri : String := "http://www.w3.org/XML/1998/namespace"

/-- The namespace of `xmlns` declarations. -/
def xmlnsUri : String := "http://www.w3.org/2000/xmlns/"

/-- An attribute with its namespace resolved. -/
structure Attribute where
  uri : Option String
  name : String
  value : String
  deriving Repr, DecidableEq

/-- A node of a document tree. -/
inductive Node
  /-- An element: its prefix and local name, the row its start tag begins on, its attributes
  and children. -/
  | element (pfx name : String) (row : Nat) (attrs : List Attribute) (children : List Node)
  /-- Text (with character data). -/
  | text (value : String)
  /-- A comment or a processing instruction. -/
  | other
  deriving Repr, Inhabited

namespace Node

/-- The local name of an element, or the empty name. -/
def name : Node → String
  | .element _ n _ _ _ => n
  | _ => ""

/-- The row an element starts on. -/
def row : Node → Nat
  | .element _ _ r _ _ => r
  | _ => 0

/-- The children of a node. -/
def children : Node → List Node
  | .element _ _ _ _ cs => cs
  | _ => []

/-- Whether the node is an element of this local name. -/
def isNamed (n : Node) (tag : String) : Bool :=
  match n with
  | .element _ m _ _ _ => m == tag
  | _ => false

/-- The element children of a given local name, in order. -/
def childrenNamed (n : Node) (tag : String) : List Node :=
  n.children.filter (·.isNamed tag)

/-- The first element child of a given local name. -/
def child? (n : Node) (tag : String) : Option Node :=
  n.children.find? (·.isNamed tag)

/-- The text of an element: its first child when that is a text node. -/
def text? (n : Node) : Option String :=
  match n.children with
  | .text s :: _ => some s
  | _ => none

/-- The value of an attribute without namespace. -/
def attribute? (n : Node) (attr : String) : Option String :=
  match n with
  | .element _ _ _ attrs _ => (attrs.find? fun a => a.uri.isNone && a.name == attr).map (·.value)
  | _ => none

end Node

/-! ## References -/

/-- What a reference `&…;` stands for. -/
inductive Reference
  /-- A character (a character reference or a predefined entity). -/
  | char (c : Char)
  /-- A named entity that is not predefined. -/
  | entity (name : String)

/-- Whether a character is an ASCII hexadecimal digit. -/
def isHexDigit (c : Char) : Bool :=
  ('0' ≤ c && c ≤ '9') || ('a' ≤ c && c ≤ 'f') || ('A' ≤ c && c ≤ 'F')

/-- The character of a code point given by a character reference: an impossible code point
stands for U+FFFD, and a character XML does not allow makes the reference malformed. -/
def referencedChar (digits : List Char) (radix : Nat) : Option Char :=
  if digits.isEmpty then none
  else
    let n := digits.foldl (fun acc c => acc * radix + (Text.hexDigitValue c).getD 0) 0
    if Nat.pow 2 32 ≤ n then none
    else
      let c := if n.isValidChar then Char.ofNat n else '\uFFFD'
      if isXmlChar c then some c else none

/-- Read a reference at the start of `cs` (which starts with `&`): what it stands for and how
many characters it takes; `none` when it is malformed. -/
def readReference (cs : List Char) : Option (Reference × Nat) :=
  match cs with
  | '&' :: '#' :: 'x' :: rest =>
    let ds := rest.takeWhile isHexDigit
    match referencedChar ds 16, rest.drop ds.length with
    | some c, ';' :: _ => some (.char c, ds.length + 4)
    | _, _ => none
  | '&' :: '#' :: rest =>
    let ds := rest.takeWhile (fun c => '0' ≤ c && c ≤ '9')
    match referencedChar ds 10, rest.drop ds.length with
    | some c, ';' :: _ => some (.char c, ds.length + 3)
    | _, _ => none
  | '&' :: c :: rest =>
    if isNameStart c then
      let more := rest.takeWhile isNameChar
      let name := String.ofList (c :: more)
      match rest.drop more.length with
      | ';' :: _ =>
        let r : Reference :=
          if name == "quot" then .char '"'
          else if name == "amp" then .char '&'
          else if name == "lt" then .char '<'
          else if name == "gt" then .char '>'
          else if name == "apos" then .char '\''
          else .entity name
        some (r, more.length + 3)
      | _ => none
    else none
  | _ => none

/-! ## Text and attribute values -/

/-- Add a character of text to `buf` (last character first): a carriage return, alone or before
a line feed, becomes one line feed. `atEnd` tells whether it is the text's last character. -/
def pushText (buf : List Char) (c : Char) (atEnd : Bool) : List Char :=
  match buf with
  | '\r' :: rest =>
    let buf := '\n' :: rest
    if atEnd && c = '\r' then '\n' :: buf
    else if c = '\n' then buf
    else c :: buf
  | _ => if atEnd && c = '\r' then '\n' :: buf else c :: buf

/-- Decode text `cs` that starts at index `pos` of `src`; `buf` holds the decoded characters
(last first) and `asIs` tells that the character after a reference is kept as written. -/
def decodeText (src : Array Char) (pos : Nat) : List Char → List Char → Bool →
    Except XmlError (List Char)
  | [], buf, _ => .ok buf
  | c :: cs, buf, asIs =>
    if c = '&' then
      match readReference (c :: cs) with
      | some (.char d, n) => decodeText src (pos + n) (cs.drop (n - 1)) (d :: buf) true
      | some (.entity name, _) => .error (.unknownEntityReference name (posAt src pos))
      | none => .error (.malformedEntityReference (posAt src pos))
    else if asIs then decodeText src (pos + 1) cs (c :: buf) false
    else decodeText src (pos + 1) cs (pushText buf c cs.isEmpty) false
termination_by cs => cs.length
decreasing_by all_goals (simp only [List.length_cons, List.length_drop]; omega)

/-- The decoded value of text `cs` starting at index `pos`. -/
def textValue (src : Array Char) (pos : Nat) (cs : List Char) : Except XmlError String :=
  if cs.contains '&' || cs.contains '\r' then
    (decodeText src pos cs [] false).map fun buf => String.ofList buf.reverse
  else .ok (String.ofList cs)

/-- An attribute's character as normalised: a blank becomes a space. -/
def blankToSpace (c : Char) : Char := if c = '\n' || c = '\r' || c = '\t' then ' ' else c

/-- Normalise attribute value `cs` starting at index `pos`: references are replaced by the
character they stand for, kept as it is; of the characters written out, a carriage return before
a line feed is dropped, and every other blank becomes a space. -/
def normalizeValue (src : Array Char) (pos : Nat) : List Char → List Char →
    Except XmlError (List Char)
  | [], buf => .ok buf
  | c :: cs, buf =>
    if c = '&' then
      match readReference (c :: cs) with
      | some (.char d, n) => normalizeValue src (pos + n) (cs.drop (n - 1)) (d :: buf)
      | some (.entity name, _) => .error (.unknownEntityReference name (posAt src pos))
      | none => .error (.malformedEntityReference (posAt src pos))
    else if c = '\r' && cs.head? == some '\n' then normalizeValue src (pos + 1) cs buf
    else normalizeValue src (pos + 1) cs (blankToSpace c :: buf)
termination_by cs => cs.length
decreasing_by all_goals (simp only [List.length_cons, List.length_drop]; omega)

/-! ## Building the tree -/

/-- A namespace binding: a prefix (`none` for the default namespace) and its name. -/
abbrev Binding := Option String × String

/-- An attribute as read, before its namespace is resolved. -/
structure PendingAttribute where
  pos : Nat
  pfx : String
  name : String
  value : String

/-- An element whose end tag has not been read yet. -/
structure Frame where
  pfx : String
  name : String
  row : Nat
  scope : List Binding
  attrs : List Attribute
  children : Array Node

/-- The state of the tree stage. -/
structure Builder where
  /-- Open elements, innermost first. -/
  frames : List Frame := []
  /-- Nodes of the document itself. -/
  top : Array Node := #[]
  /-- Whether the last node added is text that more text would extend. -/
  afterText : Bool := false
  /-- The prefix, name and index of the start tag being read. -/
  tag : String × String × Nat := ("", "", 0)
  /-- Namespaces declared on the start tag being read, in order. -/
  declared : List Binding := []
  /-- Attributes of the start tag being read, in order. -/
  pending : List PendingAttribute := []
  /-- An index already reached, and its row: rows of later indices are counted on from it. -/
  mark : Nat × Nat := (0, 1)

namespace Builder

/-- The namespaces in scope of the innermost open element. -/
def scope (b : Builder) : List Binding :=
  match b.frames with
  | f :: _ => f.scope
  | [] => []

/-- Add a node to the innermost open element (or the document). -/
def add (b : Builder) (n : Node) : Builder :=
  match b.frames with
  | f :: fs => { b with frames := { f with children := f.children.push n } :: fs }
  | [] => { b with top := b.top.push n }

/-- Add text, extending the last text node when text came just before. -/
def addText (b : Builder) (s : String) : Builder :=
  let extend (a : Array Node) : Option (Array Node) :=
    match a.back? with
    | some (.text t) => if b.afterText then some (a.pop.push (.text (t ++ s))) else none
    | _ => none
  let b' :=
    match b.frames with
    | f :: fs =>
      match extend f.children with
      | some cs => { b with frames := { f with children := cs } :: fs }
      | none => b.add (.text s)
    | [] =>
      match extend b.top with
      | some ns => { b with top := ns }
      | none => b.add (.text s)
  { b' with afterText := true }

end Builder

/-- The namespace bound to a prefix. -/
def lookupScope (scope : List Binding) (pfx : Option String) : Option String :=
  (scope.find? (·.1 == pfx)).map (·.2)

/-- A prefix and a name as written. -/
def qualified (pfx name : String) : String := if pfx.isEmpty then name else pfx ++ ":" ++ name

/-- An attribute of the start tag being read: a namespace declaration, or an attribute to
resolve at the end of the tag. -/
def Builder.attribute (src : Array Char) (b : Builder) (pos : Nat) (pfx name : String)
    (value : List Char) (valuePos : Nat) : Except XmlError Builder := do
  let v := String.ofList (← normalizeValue src valuePos value []).reverse
  if pfx == "xmlns" then
    if v == xmlnsUri then throw (.unexpectedXmlnsUri (posAt src pos))
    let isXml := v == xmlUri
    if name == "xml" then
      if !isXml then throw (.invalidXmlPrefixUri (posAt src pos))
    else if isXml then throw (.unexpectedXmlUri (posAt src pos))
    if b.declared.any (·.1 == some name) then throw (.duplicatedNamespace name (posAt src pos))
    if isXml then return b
    return { b with declared := b.declared ++ [(some name, v)] }
  else if name == "xmlns" then
    if v == xmlUri then throw (.unexpectedXmlUri (posAt src pos))
    if v == xmlnsUri then throw (.unexpectedXmlnsUri (posAt src pos))
    return { b with declared := b.declared ++ [(none, v)] }
  else
    return { b with pending := b.pending ++ [⟨pos, pfx, name, v⟩] }

/-- Resolve the attributes of a start tag in `scope`, refusing unknown prefixes and two
attributes of one expanded name. `done` holds those resolved so far. -/
def resolveAttributes (src : Array Char) (scope : List Binding) :
    List PendingAttribute → List Attribute → Except XmlError (List Attribute)
  | [], done => .ok done
  | a :: rest, done => do
    let uri ←
      if a.pfx == "xml" then pure (some xmlUri)
      else if a.pfx.isEmpty then pure none
      else match lookupScope scope (some a.pfx) with
        | some u => pure (some u)
        | none => throw (.unknownNamespace a.pfx (posAt src a.pos))
    if done.any (fun d => d.uri == uri && d.name == a.name) then
      throw (.duplicatedAttribute a.name (posAt src a.pos))
    resolveAttributes src scope rest (done ++ [⟨uri, a.name, a.value⟩])

/-- The row of index `i`, counted on from index `start` at row `row`. -/
def rowFrom (src : Array Char) (start row i : Nat) : Nat :=
  row + ((src.extract start i).toList.count '\n')

/-- The row of a start tag at index `i`, counted on from the builder's mark, which moves to
`i`: tags come in text order, so the whole text is counted once. -/
def Builder.rowOf (src : Array Char) (b : Builder) (i : Nat) : Nat × Builder :=
  let row := rowFrom src b.mark.1 b.mark.2 i
  (row, { b with mark := (i, row) })

/-- The end of a tag. -/
def Builder.tagEnd (src : Array Char) (b : Builder) (kind : TagEnd) (pos : Nat) :
    Except XmlError Builder := do
  let scope := b.declared ++ b.scope
  let attrs ← resolveAttributes src scope b.pending []
  let b := { b with declared := [], pending := [], afterText := false }
  let (pfx, name, start) := b.tag
  let (row, b) := b.rowOf src start
  let checkPrefix : Except XmlError Unit :=
    if !pfx.isEmpty && (lookupScope scope (some pfx)).isNone then
      .error (.unknownNamespace pfx (posAt src (start + 1)))
    else .ok ()
  match kind with
  | .empty =>
    checkPrefix
    return b.add (.element pfx name row attrs [])
  | .opened =>
    checkPrefix
    return { b with frames := ⟨pfx, name, row, scope, attrs, #[]⟩ :: b.frames }
  | .close cpfx cname =>
    match b.frames with
    | f :: fs =>
      if cpfx != f.pfx || cname != f.name then
        throw (.unexpectedCloseTag (qualified f.pfx f.name) (qualified cpfx cname) (posAt src pos))
      let done := Node.element f.pfx f.name f.row f.attrs f.children.toList
      return { b with frames := fs }.add done
    | [] => return b

/-- Feed one token to the tree stage. -/
def Builder.feed (src : Array Char) (b : Builder) : Token → Except XmlError Builder
  | .instruction _ _ => .ok { b.add .other with afterText := false }
  | .comment _ => .ok { b.add .other with afterText := false }
  | .elementStart pfx name pos =>
    if pfx == "xmlns" then .error (.invalidElementNamePrefix (posAt src (pos + 1)))
    else .ok { b with tag := (pfx, name, pos) }
  | .attribute pos pfx name value valuePos => b.attribute src pos pfx name value valuePos
  | .elementEnd kind pos => b.tagEnd src kind pos
  | .text cs pos => do
    let s ← textValue src pos cs
    return if s.isEmpty then b else b.addText s
  | .cdata cs _ =>
    if cs.contains '\r' then
      let buf := (cs.zipIdx.foldl (fun acc (c, k) => pushText acc c (k + 1 == cs.length)) [])
      .ok (b.addText (String.ofList buf.reverse))
    else .ok (b.addText (String.ofList cs))

/-- A well-formed document: its nodes at the top level (one of them the root element). -/
structure Document where
  nodes : List Node
  deriving Repr

/-- The root element of a document. -/
def Document.root (d : Document) : Node :=
  (d.nodes.find? fun n => match n with | .element .. => true | _ => false).getD .other

/-- Read a document text into its tree, or the first fault in it. -/
def read (text : String) : Except XmlError Document :=
  let src := text.toList.toArray
  let (ts, stop) := tokens src
  match ts.toList.foldlM (Builder.feed src) {} with
  | .error e => .error e
  | .ok b =>
    match stop with
    | some e => .error e
    | none =>
      let hasElement := b.top.any fun n => match n with | .element .. => true | _ => false
      if !hasElement && b.frames.isEmpty then .error .noRootNode
      else if !b.frames.isEmpty then .error .unclosedRootNode
      else .ok ⟨b.top.toList⟩

end RegisterAtlas.Xml
