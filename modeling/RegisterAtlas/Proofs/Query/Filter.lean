import Mathlib
import RegisterAtlas.Report
import RegisterAtlas.Generate.Emit
/-!
# What the register filter keeps

A register filter lowers its pattern, and each name it is asked about, as whole texts, and keeps
the name when the lowered pattern occurs in the lowered name. Lowering a whole text lowers every
character on its own, with one exception: a capital sigma becomes the final `ς` when it ends a
word, and `σ` otherwise. Where no capital sigma is involved the filter is therefore the plain
case-insensitive occurrence test, character by character; where one is, the two sides may be
lowered differently (a name ending in `Σ` lowers it to `ς`, the pattern `Σ` alone to `σ`, and
the name is dropped although it holds the pattern).

Every character but one lowers to one character; the capital I with dot above (U+0130) lowers to
two, `i` and a combining dot. Where a name has none, the lowered pattern occurs in the lowered
name exactly where a part of the name lowers to it, so the filter keeps the names with a part
equal to the pattern ignoring case. Where it has one, the lowered pattern may take half of its
lowering: the pattern `i` keeps the name `İ`, no part of which is `i` ignoring case.

Display and the three generators filter the registers of the peripheral they resolve, and read the
filter nowhere else: two filters that keep the same registers give the same text.

* `occursIn_iff_infix`: the occurrence test is the library's `<:+:`.
* `Text.lowercaseFrom_append`, `Text.lowercaseFrom_append_of_not_mem`: lowering a text splits at
  any point, and a part without a capital sigma is lowered character by character.
* `RegisterFilter.keeps_containing_iff`: a filter keeps a name exactly when the lowered pattern
  occurs in the lowered name, the empty pattern included.
* `RegisterFilter.apply_containing`: away from the capital sigma, filtering a list keeps the items
  whose names hold the pattern ignoring case, in order.
* `Text.lowerChars_infix_iff`: without the capital I with dot, the lowered pattern occurs in a
  lowered text exactly where a part of the text lowers to it.
* `display_congr_kept` and its likes for the generators: the text depends on the filter only
  through the registers it keeps.
* `filter_keeps_lowered_occurrence`: without a capital sigma in the pattern, the filter keeps a
  name without one exactly when the pattern occurs in it ignoring case, character by character,
  and, when the name has no capital I with dot either, exactly when a part of it equals the
  pattern ignoring case; applied to a list it keeps exactly those items, in order, and display
  and the generators show exactly those registers.
* `filter_keeps_dotted_capital_i`: the pattern `i` keeps `İ`, which has no part equal to it.
-/

namespace RegisterAtlas

/-- The occurrence test is the infix relation of lists. -/
theorem occursIn_iff_infix (p t : List Char) : occursIn p t = true ↔ p <:+: t := by
  induction t with
  | nil =>
    simp only [occursIn, List.isEmpty_iff]
    exact ⟨fun h => h ▸ List.infix_refl [], List.eq_nil_of_infix_nil⟩
  | cons c cs ih =>
    simp only [occursIn, Bool.or_eq_true, ih, List.isPrefixOf_iff_prefix]
    exact List.infix_cons_iff.symm

namespace Text

/-- Lowering a text splits at any point: the second part is lowered with the first behind it. -/
theorem lowercaseFrom_append (xs ys before : List Char) :
    ∃ front, lowercaseFrom (xs ++ ys) before = front ++ lowercaseFrom ys (xs.reverse ++ before) := by
  induction xs generalizing before with
  | nil => exact ⟨[], rfl⟩
  | cons c xs ih =>
    obtain ⟨front, hfront⟩ := ih (c :: before)
    refine ⟨(if c = capitalSigma then [lowerSigma before (xs ++ ys)] else lowerChar c) ++ front, ?_⟩
    rw [List.cons_append, lowercaseFrom, hfront]
    simp

/-- A part without a capital sigma is lowered character by character, whatever surrounds it. -/
theorem lowercaseFrom_append_of_not_mem {xs : List Char} (hxs : capitalSigma ∉ xs)
    (ys before : List Char) :
    lowercaseFrom (xs ++ ys) before = lowerChars xs ++ lowercaseFrom ys (xs.reverse ++ before) := by
  induction xs generalizing before with
  | nil => rfl
  | cons c xs ih =>
    have hc : c ≠ capitalSigma := fun h => hxs (h ▸ List.mem_cons_self)
    have hrest : capitalSigma ∉ xs := fun h => hxs (List.mem_cons_of_mem c h)
    simp [lowercaseFrom, hc, ih hrest, lowerChars]

/-- A text without a capital sigma is lowered character by character. -/
theorem lowercase_of_not_mem {s : String} (hs : capitalSigma ∉ s.toList) :
    (lowercase s).toList = lowerChars s.toList := by
  rw [lowercase, String.toList_ofList, ← List.append_nil s.toList,
    lowercaseFrom_append_of_not_mem hs]
  simp [lowercaseFrom, lowerChars]

/-- A part of a text without a capital sigma, lowered character by character, occurs in the
lowered text. -/
theorem lowerChars_infix_lowercase {u : List Char} {s : String} (hu : capitalSigma ∉ u)
    (h : u <:+: s.toList) : lowerChars u <:+: (lowercase s).toList := by
  obtain ⟨a, b, hab⟩ := h
  obtain ⟨front, hfront⟩ := lowercaseFrom_append a (u ++ b) []
  rw [lowercase, String.toList_ofList, ← hab, List.append_assoc, hfront,
    lowercaseFrom_append_of_not_mem hu]
  exact ⟨front, lowercaseFrom b (u.reverse ++ (a.reverse ++ [])), by simp⟩

/-- Without the capital I with dot above, every character lowers to one. -/
theorem lowerChars_eq_map {cs : List Char} (h : 'İ' ∉ cs) : lowerChars cs = cs.map lowerSingle := by
  induction cs with
  | nil => rfl
  | cons c cs ih =>
    have hc : c ≠ 'İ' := fun e => h (e ▸ List.mem_cons_self)
    have hcs : 'İ' ∉ cs := fun m => h (List.mem_cons_of_mem _ m)
    have hcons : lowerChars (c :: cs) = lowerChar c ++ lowerChars cs := List.flatMap_cons
    rw [hcons, ih hcs]
    simp [lowerChar, hc]

/-- Where every character of a text lowers to one, the lowered pattern occurs in the lowered text
exactly where a part of the text lowers to it. -/
theorem lowerChars_infix_iff {p n : List Char} (hn : 'İ' ∉ n) :
    lowerChars p <:+: lowerChars n ↔ ∃ u, u <:+: n ∧ lowerChars u = lowerChars p := by
  constructor
  · rintro ⟨a, b, hab⟩
    rw [lowerChars_eq_map hn] at hab
    -- cut the text where the occurrence begins and where it ends
    obtain ⟨front, back, rfl, hfront, -⟩ := List.map_eq_append_iff.1 hab.symm
    obtain ⟨before, u, rfl, -, hu⟩ := List.map_eq_append_iff.1 hfront
    have hnu : 'İ' ∉ u := fun h => hn (List.mem_append_left _ (List.mem_append_right _ h))
    exact ⟨u, ⟨before, back, rfl⟩, by rw [lowerChars_eq_map hnu, hu]⟩
  · rintro ⟨u, ⟨a, b, rfl⟩, hu⟩
    refine ⟨lowerChars a, lowerChars b, ?_⟩
    rw [← hu]
    simp only [lowerChars, List.flatMap_append]

end Text

namespace RegisterFilter

/-- A filter keeps a name exactly when its lowered pattern occurs in the lowered name; the empty
pattern, which lowers to the empty text, occurs in every name. -/
theorem keeps_containing_iff (p n : String) :
    (containing p).keeps n = true ↔ (Text.lowercase p).toList <:+: (Text.lowercase n).toList := by
  unfold containing
  split
  case isTrue hp =>
    subst hp
    have hempty : (Text.lowercase "").toList = [] := by
      simp [Text.lowercase, Text.lowercaseFrom]
    simp [keeps, all, hempty, List.nil_infix]
  case isFalse hp =>
    simp only [keeps]
    exact occursIn_iff_infix _ _

/-- Away from the capital sigma a filter keeps a name exactly when its pattern, each character
lowered, occurs in the name so lowered. -/
theorem keeps_iff_lowerChars {p n : String} (hp : Text.capitalSigma ∉ p.toList)
    (hn : Text.capitalSigma ∉ n.toList) :
    (containing p).keeps n = true ↔ Text.lowerChars p.toList <:+: Text.lowerChars n.toList := by
  rw [keeps_containing_iff, Text.lowercase_of_not_mem hp, Text.lowercase_of_not_mem hn]

/-- Over items whose names hold no capital sigma, a filter by a pattern without one keeps exactly
the items whose lowered name holds the lowered pattern, in their order. -/
theorem apply_containing {p : String} (hp : Text.capitalSigma ∉ p.toList) {α : Type}
    (name : α → String) (xs : List α) (hxs : ∀ x ∈ xs, Text.capitalSigma ∉ (name x).toList) :
    (containing p).apply name xs =
      xs.filter fun x => decide (Text.lowerChars p.toList <:+: Text.lowerChars (name x).toList) :=
  List.filter_congr fun x hx => by
    rw [Bool.eq_iff_iff, keeps_iff_lowerChars hp (hxs x hx), decide_eq_true_iff]

end RegisterFilter

/-! ## The texts that filter registers -/

section Outputs

variable {s : Store} {peripheral : String} {R : ResolvedPeripheral} {f g : RegisterFilter}

/-- Display reads its filter only through the registers of the peripheral it keeps. -/
theorem display_congr_kept (hR : resolve s peripheral = .ok R)
    (h : f.apply (·.name) R.registers = g.apply (·.name) R.registers) (verbose : Bool) :
    display s peripheral f verbose = display s peripheral g verbose := by
  unfold display
  cases mpuName s with
  | error e => rfl
  | ok name => simp only [bind, Except.bind, hR, h]

/-- The assembler constants read their filter only through the registers of the peripheral, or of
the family's first member, that it keeps. -/
theorem generateAsm_congr_kept (hR : (expand s peripheral).resolve s = .ok R)
    (h : f.apply (·.name) R.registers = g.apply (·.name) R.registers) (o : GenerateOptions) :
    generateAsm s peripheral { o with filter := f } =
      generateAsm s peripheral { o with filter := g } := by
  simp only [generateAsm, bind, Except.bind, hR, h]

theorem generateForthConstants_congr_kept (hR : resolve s peripheral = .ok R)
    (h : f.apply (·.name) R.registers = g.apply (·.name) R.registers) (o : GenerateOptions) :
    generateForthConstants s peripheral { o with filter := f } =
      generateForthConstants s peripheral { o with filter := g } := by
  simp only [generateForthConstants, bind, Except.bind, hR, h]

theorem generateForthRegisters_congr_kept (hR : resolve s peripheral = .ok R)
    (h : f.apply (·.name) R.registers = g.apply (·.name) R.registers) (o : GenerateOptions) :
    generateForthRegisters s peripheral { o with filter := f } =
      generateForthRegisters s peripheral { o with filter := g } := by
  simp only [generateForthRegisters, bind, Except.bind, hR, h]

end Outputs

/-- **The filter is a case-insensitive occurrence test, away from the capital sigma.** For a
pattern without a capital sigma: a name without one is kept exactly when the pattern, each
character lowered, occurs in the name so lowered, and, when the name has no capital I with dot
above either, exactly when a part of the name equals the pattern ignoring case (each character
lowered). A name holding a part without a capital sigma that equals the pattern ignoring case, the
pattern itself for one, is kept. A list of items whose names hold no capital sigma is cut down to
exactly the items the test keeps, in their order; and display and the three generators, on a
peripheral whose registers' names hold no capital sigma, write with the pattern what they write
with any filter that keeps exactly the registers the test keeps. -/
theorem filter_keeps_lowered_occurrence {p : String} (hp : Text.capitalSigma ∉ p.toList) :
    (∀ n : String, Text.capitalSigma ∉ n.toList →
      ((RegisterFilter.containing p).keeps n = true ↔
        Text.lowerChars p.toList <:+: Text.lowerChars n.toList)) ∧
    (∀ n : String, Text.capitalSigma ∉ n.toList → 'İ' ∉ n.toList →
      ((RegisterFilter.containing p).keeps n = true ↔
        ∃ u, u <:+: n.toList ∧ Text.lowerChars u = Text.lowerChars p.toList)) ∧
    (∀ (n : String) (u : List Char), u <:+: n.toList → Text.capitalSigma ∉ u →
      Text.lowerChars u = Text.lowerChars p.toList → (RegisterFilter.containing p).keeps n = true) ∧
    (∀ {α : Type} (name : α → String) (xs : List α),
      (∀ x ∈ xs, Text.capitalSigma ∉ (name x).toList) →
      (RegisterFilter.containing p).apply name xs =
        xs.filter fun x => decide (Text.lowerChars p.toList <:+: Text.lowerChars (name x).toList)) ∧
    (∀ (s : Store) (peripheral : String) (R : ResolvedPeripheral) (f : RegisterFilter),
      (∀ r ∈ R.registers, Text.capitalSigma ∉ r.name.toList) →
      f.apply (·.name) R.registers = R.registers.filter (fun r =>
        decide (Text.lowerChars p.toList <:+: Text.lowerChars r.name.toList)) →
      (resolve s peripheral = .ok R →
        (∀ verbose, display s peripheral (.containing p) verbose = display s peripheral f verbose) ∧
        ∀ o : GenerateOptions,
          generateForthConstants s peripheral { o with filter := .containing p } =
            generateForthConstants s peripheral { o with filter := f } ∧
          generateForthRegisters s peripheral { o with filter := .containing p } =
            generateForthRegisters s peripheral { o with filter := f }) ∧
      ((expand s peripheral).resolve s = .ok R → ∀ o : GenerateOptions,
        generateAsm s peripheral { o with filter := .containing p } =
          generateAsm s peripheral { o with filter := f })) := by
  refine ⟨fun n hn => RegisterFilter.keeps_iff_lowerChars hp hn, fun n hn hi => ?_,
    fun n u hu hsig hlow => ?_, fun name xs hxs => RegisterFilter.apply_containing hp name xs hxs,
    fun s peripheral R f hregs hf => ?_⟩
  · rw [RegisterFilter.keeps_iff_lowerChars hp hn]
    exact Text.lowerChars_infix_iff hi
  · rw [RegisterFilter.keeps_containing_iff, Text.lowercase_of_not_mem hp, ← hlow]
    exact Text.lowerChars_infix_lowercase hsig hu
  · -- the pattern keeps the registers `f` keeps
    have hkept : (RegisterFilter.containing p).apply (·.name) R.registers =
        f.apply (·.name) R.registers := by
      rw [hf]
      exact RegisterFilter.apply_containing hp _ _ hregs
    exact ⟨fun hR => ⟨fun verbose => display_congr_kept hR hkept verbose,
      fun o => ⟨generateForthConstants_congr_kept hR hkept o,
        generateForthRegisters_congr_kept hR hkept o⟩⟩,
      fun hR o => generateAsm_congr_kept hR hkept o⟩

/-- The pattern `cr`, as in the filter's documentation, keeps of the names `CR1`, `SR` and `ACR`
the first and the last. -/
theorem filter_keeps_lowered_occurrence_of_cr :
    Text.capitalSigma ∉ "cr".toList ∧
      (RegisterFilter.containing "cr").apply id ["CR1", "SR", "ACR"] = ["CR1", "ACR"] := by
  have hcr : Text.capitalSigma ∉ "cr".toList := by decide
  refine ⟨hcr, ?_⟩
  rw [(filter_keeps_lowered_occurrence hcr).2.2.2.1 id _ (by decide)]
  decide

/-- The pattern `i` keeps the name `İ`, though no part of it is `i` ignoring case: `İ` lowers to
`i` and a combining dot above, both in the name and on its own. -/
theorem filter_keeps_dotted_capital_i :
    (RegisterFilter.containing "i").keeps "İ" = true ∧
      ¬ ∃ u, u <:+: "İ".toList ∧ Text.lowerChars u = Text.lowerChars "i".toList := by
  refine ⟨by decide, ?_⟩
  rintro ⟨u, hu, hlow⟩
  have hname : "İ".toList = ['İ'] := rfl
  rw [hname] at hu
  -- the parts of a name of one character: none of it, or all; neither lowers to one character
  rcases List.sublist_singleton.1 hu.sublist with rfl | rfl <;>
    exact absurd (congrArg List.length hlow) (by decide)

end RegisterAtlas
