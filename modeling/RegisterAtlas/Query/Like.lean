import RegisterAtlas.Text.Case
/-!
# Name patterns

Peripherals are looked up by patterns in the manner of SQL `LIKE`: `%` matches any run of
characters (the empty one too), `_` matches exactly one character, and every other character
matches itself. Case is ignored: pattern and name are both lowered character by character
(`Text.lowerChars`) before they are compared.

The matcher walks pattern and text side by side. It remembers the last `%` it met and the text
position that `%` is assumed to have consumed up to; when the characters after it stop fitting,
it lets that `%` consume one character more and reads the pattern after it again. Earlier `%`s
are never revisited.
-/

namespace RegisterAtlas.Like

/-- The matching loop at pattern position `p` and text position `t`, the last `%` seen being at
`star` and assumed to have consumed the text up to `consumed` when `backtrack = some (star,
consumed)`. That `%` lies before `p`, and the text it consumed ends at or before `t`. -/
def loop (pattern text : List Char) (p t : Nat) (backtrack : Option (Nat × Nat))
    (hbt : ∀ star consumed, backtrack = some (star, consumed) → star < p ∧ consumed ≤ t) :
    Bool :=
  if ht : t < text.length then
    if hpct : pattern[p]? = some '%' then
      loop pattern text (p + 1) t (some (p, t)) (by
        intro star consumed h
        cases h
        omega)
    else if pattern[p]?.any (fun c => c = '_' || c = text[t]) then
      loop pattern text (p + 1) (t + 1) backtrack (by
        intro star consumed h
        have := hbt star consumed h
        omega)
    else
      match backtrack with
      | some (star, consumed) =>
        loop pattern text (star + 1) (consumed + 1) (some (star, consumed + 1)) (by
          intro s c h
          cases h
          omega)
      | none => false
  else (pattern.drop p).all (· = '%')
-- a retry lets the last `%` consume one more character; a new `%` starts consuming where the
-- last one ended, or, when nothing was read since, stands further on in the pattern
termination_by (backtrack.elim (text.length + 1) fun b => text.length - b.2,
  backtrack.elim 0 fun b => pattern.length - b.1, text.length - t)
decreasing_by
  · have hp : p < pattern.length := (List.getElem?_eq_some_iff.1 hpct).1
    cases backtrack with
    | none => exact Prod.Lex.left _ _ (by simp only [Option.elim]; omega)
    | some b =>
      obtain ⟨s, c⟩ := b
      have := hbt s c rfl
      simp only [Option.elim]
      by_cases hc : c = t
      · subst hc
        exact Prod.Lex.right _ (Prod.Lex.left _ _ (by omega))
      · exact Prod.Lex.left _ _ (by omega)
  · exact Prod.Lex.right _ (Prod.Lex.right _ (by omega))
  · have := hbt star consumed rfl
    exact Prod.Lex.left _ _ (by simp only [Option.elim]; omega)

/-- Whether a (lowered) pattern matches a whole (lowered) text. -/
def matchesChars (pattern text : List Char) : Bool :=
  loop pattern text 0 0 none (by simp)

/-- Whether a pattern accepts a name, ignoring case. -/
def accepts (pattern name : String) : Bool :=
  matchesChars (Text.lowerChars pattern.toList) (Text.lowerChars name.toList)

end RegisterAtlas.Like
