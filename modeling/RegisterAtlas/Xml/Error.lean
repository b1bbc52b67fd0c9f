import RegisterAtlas.Text.Quoted
/-!
# XML reading errors

Why a text is not a well-formed XML document, with the place where reading stopped. A place is a
row (counting line feeds, from 1) and a column (counting characters since the last line feed,
from 1), written `row:col`.
-/

namespace RegisterAtlas.Xml

/-- A place in the document text. -/
structure TextPos where
  row : Nat
  col : Nat
  deriving Repr, DecidableEq

/-- The place as `row:col`. -/
def TextPos.render (p : TextPos) : String := toString p.row ++ ":" ++ toString p.col

/-- The place of the character at index `i` of `src`. -/
def TextPos.at (src : Array Char) (i : Nat) : TextPos :=
  let before := (src.extract 0 i).toList
  let row := 1 + before.count '\n'
  let col := 1 + (before.reverse.takeWhile (· ≠ '\n')).length
  ⟨row, col⟩

/-- Why a text is not a well-formed document. -/
inductive XmlError
  /-- The `xml` prefix is bound to a namespace other than its own. -/
  | invalidXmlPrefixUri (pos : TextPos)
  /-- The namespace of the `xml` prefix is bound to another prefix. -/
  | unexpectedXmlUri (pos : TextPos)
  /-- The namespace of `xmlns` is declared. -/
  | unexpectedXmlnsUri (pos : TextPos)
  /-- An element name uses the `xmlns` prefix. -/
  | invalidElementNamePrefix (pos : TextPos)
  /-- A prefix is declared twice on one element. -/
  | duplicatedNamespace (name : String) (pos : TextPos)
  /-- A prefix is used but never declared. -/
  | unknownNamespace (name : String) (pos : TextPos)
  /-- A closing tag names another element than the open one. -/
  | unexpectedCloseTag (expected actual : String) (pos : TextPos)
  /-- An entity reference is not `&name;`, `&#digits;` or `&#xhex;` of a valid character. -/
  | malformedEntityReference (pos : TextPos)
  /-- An entity reference names no known entity. -/
  | unknownEntityReference (name : String) (pos : TextPos)
  /-- An element has two attributes of one name. -/
  | duplicatedAttribute (name : String) (pos : TextPos)
  /-- The document has no element. -/
  | noRootNode
  /-- The document ends inside an element. -/
  | unclosedRootNode
  /-- An XML declaration stands after the start. -/
  | unexpectedDeclaration (pos : TextPos)
  /-- The document has a document type declaration, which is refused. -/
  | dtdDetected
  /-- A name is missing or does not start with a name character. -/
  | invalidName (pos : TextPos)
  /-- A character that XML does not allow. -/
  | nonXmlChar (c : Char) (pos : TextPos)
  /-- A given character where another was expected. -/
  | invalidChar (expected actual : Char) (pos : TextPos)
  /-- A given character where a kind of character was expected. -/
  | invalidCharKind (expected : String) (actual : Char) (pos : TextPos)
  /-- A fixed text was expected. -/
  | invalidString (expected : String) (pos : TextPos)
  /-- A comment holds `--` or ends with `-`. -/
  | invalidComment (pos : TextPos)
  /-- Character data holds `]]>`. -/
  | invalidCharacterData (pos : TextPos)
  /-- Something that is no XML construct. -/
  | unknownToken (pos : TextPos)
  /-- The text ends where more was expected. -/
  | unexpectedEndOfStream
  deriving Repr, DecidableEq

/-- The text of a reading error. -/
def XmlError.message : XmlError → String
  | .invalidXmlPrefixUri p => "'xml' namespace prefix mapped to wrong URI at " ++ p.render
  | .unexpectedXmlUri p => "the 'xml' namespace URI is used for not 'xml' prefix at " ++ p.render
  | .unexpectedXmlnsUri p =>
    "the 'xmlns' URI is used at " ++ p.render ++ ", but it must not be declared"
  | .invalidElementNamePrefix p =>
    "the 'xmlns' prefix is used at " ++ p.render ++ ", but it must not be"
  | .duplicatedNamespace n p => "namespace '" ++ n ++ "' at " ++ p.render ++ " is already defined"
  | .unknownNamespace n p => "an unknown namespace prefix '" ++ n ++ "' at " ++ p.render
  | .unexpectedCloseTag e a p =>
    "expected '" ++ e ++ "' tag, not '" ++ a ++ "' at " ++ p.render
  | .malformedEntityReference p => "malformed entity reference at " ++ p.render
  | .unknownEntityReference n p => "unknown entity reference '" ++ n ++ "' at " ++ p.render
  | .duplicatedAttribute n p => "attribute '" ++ n ++ "' at " ++ p.render ++ " is already defined"
  | .noRootNode => "the document does not have a root node"
  | .unclosedRootNode => "the root node was opened but never closed"
  | .unexpectedDeclaration p => "unexpected XML declaration at " ++ p.render
  | .dtdDetected => "XML with DTD detected"
  | .invalidName p => "invalid name token at " ++ p.render
  | .nonXmlChar c p => "a non-XML character " ++ Text.quoteChar c ++ " found at " ++ p.render
  | .invalidChar e a p =>
    "expected '" ++ e.toString ++ "' not '" ++ a.toString ++ "' at " ++ p.render
  | .invalidCharKind e a p => "expected " ++ e ++ " not '" ++ a.toString ++ "' at " ++ p.render
  | .invalidString e p => "expected '" ++ e ++ "' at " ++ p.render
  | .invalidComment p => "comment at " ++ p.render ++ " contains '--'"
  | .invalidCharacterData p =>
    "']]>' at " ++ p.render ++ " is not allowed inside a character data"
  | .unknownToken p => "unknown token at " ++ p.render
  | .unexpectedEndOfStream => "unexpected end of stream"

end RegisterAtlas.Xml
