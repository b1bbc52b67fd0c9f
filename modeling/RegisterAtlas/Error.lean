import RegisterAtlas.Device.Read
import RegisterAtlas.Bits.Spec
/-!
# Errors of the register store

Every way converting, querying or generating can fail. Each error is final for the operation
that raised it; nothing is retried.

* `AtlasError.message` is the error's text.
* `AtlasError.causes` lists the texts of its underlying causes, outermost first: a chain of
  contexts shows each of them after the error's own text.
-/

namespace RegisterAtlas

/-- Why converting, querying or generating failed. -/
inductive AtlasError
  /-- The source document is not a readable device description. -/
  | source (e : SourceError)
  /-- A field's bit position cannot be brought to offset and width. -/
  | malformedField (register field : String) (cause : Bits.SpecError)
  /-- A peripheral is derived from one that has not been entered before it. -/
  | unresolvedDerivation (peripheral target : String)
  /-- No store file could be located or opened. -/
  | storeNotFound (path detail : String)
  /-- A store file to be created exists already. -/
  | storeExists (path : String)
  /-- A lookup by name matched nothing. -/
  | entityNotFound (entity key : String)
  /-- The store refused or failed an operation. -/
  | queryFailure (entity key reason : String)
  /-- A stored address offset is not a 32-bit number. -/
  | invalidAddress (value : String)
  /-- The file system failed. -/
  | io (e : OsError)
  deriving Repr, DecidableEq

namespace AtlasError

/-- The text of an error. -/
def message : AtlasError → String
  | .source e => e.message
  | .malformedField r f c => "field " ++ r ++ "." ++ f ++ ": " ++ c.message
  | .unresolvedDerivation p t => "peripheral " ++ p ++ " derived from " ++ t ++ " not yet entered"
  | .storeNotFound p d => "database file " ++ p ++ " not found: " ++ d
  | .storeExists p => "database file " ++ p ++ " already exists"
  | .entityNotFound e k => "no " ++ e ++ " with name like: " ++ k
  | .queryFailure e k r => e ++ " query failed for " ++ k ++ ": " ++ r
  | .invalidAddress v => "unable to parse address " ++ Text.quote v
  | .io e => e.message

/-- The texts of the underlying causes, outermost first. -/
def causes : AtlasError → List String
  | .source e => e.causes
  | .malformedField _ _ c => [c.message]
  | _ => []

/-- A refused operation on a row of `table` with the given id. -/
def rowFailure (table : String) (id : Int) (reason : String) : AtlasError :=
  .queryFailure table ("id " ++ toString id) reason

end AtlasError

end RegisterAtlas
