import Mathlib
import RegisterAtlas.Query.Like
/-!
# The pattern matcher is correct

A pattern matches a text when every `%` can be given a run of the text to stand for, every `_`
one character and every other character that character itself (`Like.Matches`). The matcher
decides this in one walk from left to right that only ever goes back to the last `%` it met.
That is enough: once the pattern between two `%`s has been placed at its leftmost place, a later
place can only leave less text to the second `%`, which could have consumed that text itself
(`Like.matches_percent_append_percent`). So a pattern accepts a name exactly when the lowered
pattern matches the lowered name (`Like.accepts_iff_matches`), every name matches itself
(`Like.accepts_self`), and a lone `%` accepts every name (`Like.accepts_percent`).

* `Like.Matches` and its laws: a `%` stands for any suffix (`matches_percent_iff`); a piece
  without `%` consumes one text character per pattern character (`matches_append_of_forall₂`,
  `matches_drop_of_append`).
* `Like.Settled`, `Like.Target`, `Like.loop_iff`: from every position the walk reaches, it
  decides what is left to match.
-/

namespace RegisterAtlas

namespace Like

/-- A pattern character that stands for one text character: `_` for any, any other but `%` for
itself. -/
def Fits (c x : Char) : Prop := c ≠ '%' ∧ (c = '_' ∨ c = x)

/-- The `LIKE` relation between a pattern and a text. -/
inductive Matches : List Char → List Char → Prop
  /-- The empty pattern matches the empty text. -/
  | nil : Matches [] []
  /-- `%` followed by `p` matches a text when `p` matches one of its suffixes, the text itself
  and the empty suffix included. -/
  | percent {p t s : List Char} : s <:+ t → Matches p s → Matches ('%' :: p) t
  /-- `_` matches any one character. -/
  | underscore {p t : List Char} (x : Char) : Matches p t → Matches ('_' :: p) (x :: t)
  /-- Any other character matches itself. -/
  | char {p t : List Char} {c : Char} : c ≠ '%' → c ≠ '_' → Matches p t →
      Matches (c :: p) (c :: t)

/-! ## The laws of matching -/

/-- **Inversion on the first pattern character.** A `%` stands for a prefix of the text, any
other character for the text's first character. -/
theorem matches_cons_iff {c : Char} {q w : List Char} :
    Matches (c :: q) w ↔
      (c = '%' ∧ ∃ s, s <:+ w ∧ Matches q s) ∨ ∃ x w', w = x :: w' ∧ Fits c x ∧ Matches q w' := by
  constructor
  · intro h
    cases h with
    | percent hs hm => exact .inl ⟨rfl, _, hs, hm⟩
    | underscore x hm => exact .inr ⟨x, _, rfl, ⟨by decide, .inl rfl⟩, hm⟩
    | char hc _ hm => exact .inr ⟨c, _, rfl, ⟨hc, .inr rfl⟩, hm⟩
  · rintro (⟨rfl, s, hs, hm⟩ | ⟨x, w', rfl, ⟨hc, hx⟩, hm⟩)
    · exact .percent hs hm
    · by_cases hu : c = '_'
      · subst hu
        exact .underscore x hm
      · obtain rfl : c = x := hx.resolve_left hu
        exact .char hc hu hm

theorem not_matches_nil_cons {x : Char} {w : List Char} : ¬ Matches [] (x :: w) := by
  intro h
  cases h

/-- A `%` stands for any suffix of the text, that is, for any number of its first characters. -/
theorem matches_percent_iff {q w : List Char} :
    Matches ('%' :: q) w ↔ ∃ j, Matches q (w.drop j) := by
  rw [matches_cons_iff]
  constructor
  · rintro (⟨-, s, hs, hm⟩ | ⟨x, w', -, ⟨hc, -⟩, -⟩)
    · exact ⟨w.length - s.length, List.suffix_iff_eq_drop.1 hs ▸ hm⟩
    · exact absurd rfl hc
  · rintro ⟨j, hm⟩
    exact .inl ⟨rfl, _, List.drop_suffix j w, hm⟩

/-- A `%` that can stand for a suffix can stand for the whole text. -/
theorem matches_percent_of_drop {q w : List Char} (j : Nat) (h : Matches ('%' :: q) (w.drop j)) :
    Matches ('%' :: q) w := by
  obtain ⟨i, hi⟩ := matches_percent_iff.1 h
  rw [List.drop_drop] at hi
  exact matches_percent_iff.2 ⟨_, hi⟩

/-- A `%` stands for nothing, or for the first character and then as much as it likes. -/
theorem matches_percent_iff_tail {q w : List Char} :
    Matches ('%' :: q) w ↔ Matches q w ∨ Matches ('%' :: q) w.tail := by
  rw [matches_percent_iff, matches_percent_iff]
  constructor
  · rintro ⟨_ | j, hm⟩
    · exact .inl hm
    · exact .inr ⟨j, by rwa [List.drop_tail]⟩
  · rintro (hm | ⟨j, hm⟩)
    · exact ⟨0, hm⟩
    · exact ⟨j + 1, by rwa [List.drop_tail] at hm⟩

/-- A character that fits the text's first character matches there when the rest does. -/
theorem matches_cons_cons_iff {c x : Char} (h : Fits c x) {q w : List Char} :
    Matches (c :: q) (x :: w) ↔ Matches q w := by
  rw [matches_cons_iff]
  constructor
  · rintro (⟨hc, -⟩ | ⟨y, w', hxw, -, hm⟩)
    · exact absurd hc h.1
    · obtain ⟨rfl, rfl⟩ := List.cons.inj hxw
      exact hm
  · intro hm
    exact .inr ⟨x, w, rfl, h, hm⟩

/-- Only `%`s match the empty text. -/
theorem matches_nil_iff {q : List Char} : Matches q [] ↔ ∀ c ∈ q, c = '%' := by
  induction q with
  | nil => exact ⟨fun _ _ h => absurd h List.not_mem_nil, fun _ => .nil⟩
  | cons c q ih =>
    rw [matches_cons_iff, List.forall_mem_cons, ← ih]
    constructor
    · rintro (⟨hc, s, hs, hm⟩ | ⟨x, w', h, -⟩)
      · obtain rfl := List.eq_nil_of_suffix_nil hs
        exact ⟨hc, hm⟩
      · cases h
    · rintro ⟨hc, hm⟩
      exact .inl ⟨hc, [], List.suffix_refl [], hm⟩

/-! ## Pieces without `%` -/

/-- A piece of pattern without `%` that fits a piece of text character by character matches it
whatever follows. -/
theorem matches_append_of_forall₂ {seg u : List Char} (h : List.Forall₂ Fits seg u)
    (q w : List Char) : Matches (seg ++ q) (u ++ w) ↔ Matches q w := by
  induction h with
  | nil => rfl
  | cons hcx _ ih => rw [List.cons_append, List.cons_append, matches_cons_cons_iff hcx, ih]

/-- A piece of pattern without `%` consumes as many characters as it has. -/
theorem matches_drop_of_append {seg q w : List Char} (hseg : ∀ c ∈ seg, c ≠ '%')
    (h : Matches (seg ++ q) w) : Matches q (w.drop seg.length) := by
  induction seg generalizing w with
  | nil => exact h
  | cons c seg ih =>
    rw [List.cons_append, matches_cons_iff] at h
    rcases h with ⟨hc, -⟩ | ⟨x, w', rfl, -, hm⟩
    · exact absurd hc (hseg c List.mem_cons_self)
    · exact ih (fun d hd => hseg d (List.mem_cons_of_mem c hd)) hm

theorem not_percent_of_forall₂ {seg u : List Char} (h : List.Forall₂ Fits seg u) :
    ∀ c ∈ seg, c ≠ '%' := by
  induction h with
  | nil => intro c hc; cases hc
  | cons hcx _ ih =>
    intro c hc
    rcases List.mem_cons.1 hc with rfl | hc
    · exact hcx.1
    · exact ih c hc

/-- **Placing the piece after a `%` leftmost.** When the pattern between two `%`s fits the text
right after where the first one starts, the first `%` may as well stand for nothing: a match that
places that piece further right leaves the second `%` a suffix of what it gets here. -/
theorem matches_percent_append_percent {seg u : List Char} (h : List.Forall₂ Fits seg u)
    (q w : List Char) :
    Matches ('%' :: (seg ++ '%' :: q)) (u ++ w) ↔ Matches ('%' :: q) w := by
  have hlen : seg.length = u.length := h.length_eq
  constructor
  · intro hm
    obtain ⟨j, hj⟩ := matches_percent_iff.1 hm
    have hrest := matches_drop_of_append (not_percent_of_forall₂ h) hj
    rw [List.drop_drop, hlen, Nat.add_comm, ← List.drop_drop, List.drop_left] at hrest
    exact matches_percent_of_drop j hrest
  · intro hm
    exact matches_percent_iff.2 ⟨0, (matches_append_of_forall₂ h _ _).2 hm⟩

/-- At the end of the text, a `%` followed by a piece that fits the text it would consume leaves
only `%`s to match. -/
theorem matches_percent_append_end {seg u : List Char} (h : List.Forall₂ Fits seg u)
    (q : List Char) : Matches ('%' :: (seg ++ q)) u ↔ Matches q [] := by
  have hlen : seg.length = u.length := h.length_eq
  constructor
  · intro hm
    obtain ⟨j, hj⟩ := matches_percent_iff.1 hm
    have hrest := matches_drop_of_append (not_percent_of_forall₂ h) hj
    rwa [List.drop_drop, hlen, List.drop_eq_nil_of_le (by omega)] at hrest
  · intro hm
    have hfit := (matches_append_of_forall₂ h q []).2 hm
    rw [List.append_nil] at hfit
    exact matches_percent_iff.2 ⟨0, hfit⟩

/-! ## The walk -/

variable (P T : List Char)

/-- What the walk has established at a position: after a `%` at `star`, assumed to have
consumed the text up to `consumed`, the pattern from `star` starts with that `%`, and the pattern
read since it fits the text read since `consumed`, character by character. -/
def Settled (p t : Nat) : Option (Nat × Nat) → Prop
  | none => True
  | some (star, consumed) => P.drop star = '%' :: P.drop (star + 1) ∧
      ∃ seg u, P.drop (star + 1) = seg ++ P.drop p ∧ T.drop consumed = u ++ T.drop t ∧
        List.Forall₂ Fits seg u

/-- What the walk decides from a position: the rest of the pattern against the rest of the text,
or, after a `%`, the pattern from that `%` against the text from where it began to consume. -/
def Target (p t : Nat) : Option (Nat × Nat) → Prop
  | none => Matches (P.drop p) (T.drop t)
  | some (star, consumed) => Matches (P.drop star) (T.drop consumed)

variable {P T}

/-- The pattern from a position that holds `c` is `c` and the pattern after it. -/
theorem drop_eq_cons_of_getElem? {p : Nat} {c : Char} (h : P[p]? = some c) :
    P.drop p = c :: P.drop (p + 1) := by
  obtain ⟨hp, rfl⟩ := List.getElem?_eq_some_iff.1 h
  exact List.drop_eq_getElem_cons hp

/-- Where the pattern has no character that fits the text's next one, the rest of the pattern
does not match the rest of the text. -/
theorem not_matches_of_stuck {p t : Nat} (ht : t < T.length) (hpct : ¬ P[p]? = some '%')
    (hfit : ¬ (P[p]?.any fun c => c = '_' || c = T[t]) = true) :
    ¬ Matches (P.drop p) (T.drop t) := by
  rw [List.drop_eq_getElem_cons ht]
  cases hp : P[p]? with
  | none =>
    rw [List.drop_eq_nil_of_le (List.getElem?_eq_none_iff.1 hp)]
    exact not_matches_nil_cons
  | some c =>
    rw [hp] at hpct hfit
    rw [drop_eq_cons_of_getElem? hp, matches_cons_iff]
    rintro (⟨hc, -⟩ | ⟨x, w', hxw, ⟨-, hx⟩, -⟩)
    · exact hpct (by rw [hc])
    · obtain ⟨rfl, -⟩ := List.cons.inj hxw
      simp only [Option.any_some, Bool.or_eq_true, decide_eq_true_eq] at hfit
      exact hfit hx

/-- **The walk decides what is left to match.** From every position it reaches, with what it
has established there, the matching loop answers whether the target of that position holds. -/
theorem loop_iff (p t : Nat) (bt : Option (Nat × Nat))
    (hbt : ∀ star consumed, bt = some (star, consumed) → star < p ∧ consumed ≤ t)
    (hs : Settled P T p t bt) : loop P T p t bt hbt = true ↔ Target P T p t bt := by
  fun_induction loop P T p t bt hbt with
  | case1 p t bt hbt ht hpct ih =>
    have hp := drop_eq_cons_of_getElem? hpct
    rw [ih ⟨hp, [], [], by simp, by simp, .nil⟩]
    cases bt with
    | none => rfl
    | some b =>
      obtain ⟨star, consumed⟩ := b
      obtain ⟨hstar, seg, u, hseg, hu, hfit⟩ := hs
      show _ ↔ Matches (P.drop star) (T.drop consumed)
      rw [hstar, hseg, hu, hp, matches_percent_append_percent hfit, ← hp]
      exact Iff.rfl
  | case2 p t bt hbt ht hpct hfit ih =>
    obtain ⟨c, hc, hcx⟩ := (Option.any_eq_true _ _).1 hfit
    have hfits : Fits c T[t] := by
      refine ⟨fun h => hpct (by rw [hc, h]), ?_⟩
      simpa using hcx
    have hp := drop_eq_cons_of_getElem? hc
    cases bt with
    | none =>
      rw [ih trivial]
      show Matches (P.drop (p + 1)) (T.drop (t + 1)) ↔ Matches (P.drop p) (T.drop t)
      rw [hp, List.drop_eq_getElem_cons ht, matches_cons_cons_iff hfits]
    | some b =>
      obtain ⟨star, consumed⟩ := b
      obtain ⟨hstar, seg, u, hseg, hu, hsegu⟩ := hs
      -- the piece read since the `%` grows by the character just read
      refine ih ⟨hstar, seg ++ [c], u ++ [T[t]], ?_, ?_, List.rel_append hsegu (.cons hfits .nil)⟩
      · rw [hseg, hp, List.append_assoc, List.singleton_append]
      · rw [hu, List.drop_eq_getElem_cons ht, List.append_assoc, List.singleton_append]
  | case3 p t ht hpct hfit star consumed hbt hbt' ih =>
    obtain ⟨hstar, seg, u, hseg, hu, hsegu⟩ := hs
    rw [ih ⟨hstar, [], [], by simp, by simp, .nil⟩]
    show Matches (P.drop star) (T.drop (consumed + 1)) ↔ Matches (P.drop star) (T.drop consumed)
    -- the `%` standing for nothing would have needed the rest of the pattern to fit here
    have hnot : ¬ Matches (P.drop (star + 1)) (T.drop consumed) := by
      rw [hseg, hu, matches_append_of_forall₂ hsegu]
      exact not_matches_of_stuck ht hpct hfit
    rw [hstar, matches_percent_iff_tail (w := T.drop consumed), List.tail_drop]
    exact ⟨.inr, fun h => h.resolve_left hnot⟩
  | case4 p t ht hpct hfit hbt hbt' =>
    exact ⟨fun h => absurd h Bool.false_ne_true,
      fun h => absurd h (not_matches_of_stuck ht hpct hfit)⟩
  | case5 p t bt hbt ht =>
    have hend : T.drop t = [] := List.drop_eq_nil_of_le (by omega)
    have hall : (P.drop p).all (· = '%') = true ↔ Matches (P.drop p) [] := by
      simp [matches_nil_iff]
    rw [hall]
    cases bt with
    | none =>
      show _ ↔ Matches (P.drop p) (T.drop t)
      rw [hend]
    | some b =>
      obtain ⟨star, consumed⟩ := b
      obtain ⟨hstar, seg, u, hseg, hu, hsegu⟩ := hs
      show _ ↔ Matches (P.drop star) (T.drop consumed)
      rw [hend, List.append_nil] at hu
      rw [hstar, hseg, hu, matches_percent_append_end hsegu]

theorem matchesChars_iff (pattern text : List Char) :
    matchesChars pattern text = true ↔ Matches pattern text := by
  rw [matchesChars, loop_iff 0 0 none _ trivial]
  show Matches (pattern.drop 0) (text.drop 0) ↔ _
  rw [List.drop_zero, List.drop_zero]

/-- **The matcher decides `LIKE`.** A pattern accepts a name exactly when the pattern, each of
its characters lowered, matches the name so lowered. -/
theorem accepts_iff_matches (pattern name : String) :
    accepts pattern name = true ↔
      Matches (Text.lowerChars pattern.toList) (Text.lowerChars name.toList) :=
  matchesChars_iff _ _

/-- Every text matches itself read as a pattern: a `%` stands for itself, as every other
character does. -/
theorem matches_self (l : List Char) : Matches l l := by
  induction l with
  | nil => exact .nil
  | cons c l ih =>
    by_cases hc : c = '%'
    · subst hc
      exact .percent (List.suffix_cons '%' l) ih
    · exact (matches_cons_cons_iff ⟨hc, .inr rfl⟩).2 ih

/-- **A name matches itself** as a pattern, whatever wildcards it holds. -/
theorem accepts_self (name : String) : accepts name name = true :=
  (matchesChars_iff _ _).2 (matches_self _)

/-- A lone `%` accepts every name. -/
theorem accepts_percent (name : String) : accepts "%" name = true := by
  rw [accepts_iff_matches]
  have hpct : Text.lowerChars "%".toList = ['%'] := by decide
  rw [hpct]
  exact .percent List.nil_suffix .nil

end Like

end RegisterAtlas
