import RegisterAtlas.Text.Case
/-!
# Register filters

A register filter keeps the registers whose name contains a pattern, ignoring case: pattern and
name are lowered as whole texts (`Text.lowercase`) and the lowered pattern must occur in the
lowered name. The empty pattern keeps every register.

* `RegisterFilter.containing` builds a filter from a pattern, `RegisterFilter.keeps` tests a name,
  `RegisterFilter.apply` keeps the matching items of a list in their order.
-/

namespace RegisterAtlas

/-- Whether `p` occurs in `t` as a contiguous part. -/
def occursIn (p : List Char) : List Char → Bool
  | [] => p.isEmpty
  | c :: cs => p.isPrefixOf (c :: cs) || occursIn p cs

/-- A register filter: `none` keeps everything, `some p` keeps names containing the lowered
pattern `p`. -/
structure RegisterFilter where
  pattern : Option String := none
  deriving Repr, DecidableEq

namespace RegisterFilter

/-- The filter that keeps everything. -/
def all : RegisterFilter := {}

/-- The filter for a pattern; the empty pattern keeps everything. -/
def containing (p : String) : RegisterFilter :=
  if p = "" then all else ⟨some (Text.lowercase p)⟩

/-- Whether the filter keeps everything. -/
def keepsAll (f : RegisterFilter) : Bool := f.pattern.isNone

/-- Whether the filter keeps a name. -/
def keeps (f : RegisterFilter) (name : String) : Bool :=
  match f.pattern with
  | some p => occursIn p.toList (Text.lowercase name).toList
  | none => true

/-- The items whose name the filter keeps, in order. -/
def apply {α : Type} (f : RegisterFilter) (name : α → String) (xs : List α) : List α :=
  xs.filter fun x => f.keeps (name x)

end RegisterFilter

end RegisterAtlas
