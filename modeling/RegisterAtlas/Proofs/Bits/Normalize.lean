import Mathlib
import RegisterAtlas.Bits.Spec
import RegisterAtlas.Proofs.Numeral
/-!
# Normalising bit positions

A field's position is read from the first complete one of its three encodings, an empty value
counting as absent, and the encodings that follow it are not looked at. A bit range `[hi:lo]`
and the pair `bitOffset = lo`, `bitWidth = hi - lo + 1`, both in decimal and with any blanks
around, give the same position; the range is refused when `hi < lo` or when its width does not fit
a 32-bit word. A position that normalises has at least one bit.

* `BitField.Given`, `BitField.OffsetWidthGiven`, …: which encodings a field gives completely.
* `Bits.Spec.of_cases`: the encoding chosen is the first complete one.
* `Bits.normalize_of_offsetWidth`, `Bits.normalize_of_range`: a field normalises as the field
  with only its chosen encoding.
* `Bits.normalize_eq_lsbMsbUnsupported_iff`, `Bits.normalize_eq_missing_iff`: exactly when those
  two errors arise.
* `Bits.normalize_onlyRange_rangeText`, `Bits.normalize_onlyOffsetWidth_pad`: the decimal forms
  of a range and of an offset with a width.
* `bit_positions_normalize`: all of it together.
-/

namespace RegisterAtlas

/-! ## Which encodings a field gives -/

namespace BitField

/-- A value that is given and not empty; an empty value counts as absent. -/
def Given (v : Option String) : Prop := ∃ s, v = some s ∧ s ≠ ""

/-- The field gives both `bitOffset` and `bitWidth`. -/
def OffsetWidthGiven (f : BitField) : Prop := Given f.bitOffset ∧ Given f.bitWidth

/-- The field gives `bitRange`. -/
def RangeGiven (f : BitField) : Prop := Given f.bitRange

/-- The field gives both `lsb` and `msb`. -/
def LsbMsbGiven (f : BitField) : Prop := Given f.lsb ∧ Given f.msb

/-- The field with `bitOffset = o` and `bitWidth = w` as its only encoding. -/
def onlyOffsetWidth (f : BitField) (o w : String) : BitField :=
  { f with bitOffset := some o, bitWidth := some w, bitRange := none, lsb := none, msb := none }

/-- The field with `bitRange = r` as its only encoding. -/
def onlyRange (f : BitField) (r : String) : BitField :=
  { f with bitOffset := none, bitWidth := none, bitRange := some r, lsb := none, msb := none }

end BitField

namespace Bits

open BitField

theorem present_eq_some_iff {v : Option String} {s : String} :
    present v = some s ↔ v = some s ∧ s ≠ "" := by
  cases v with
  | none => simp [present]
  | some t =>
    by_cases ht : t = ""
    · simp [present, ht, eq_comm]
    · simp only [present, ht, if_false, Option.some.injEq]
      exact ⟨fun h => ⟨h, h ▸ ht⟩, And.left⟩

theorem present_eq_none_iff {v : Option String} : present v = none ↔ ¬ Given v := by
  cases v with
  | none => simp [present, Given]
  | some t => by_cases ht : t = "" <;> simp [present, Given, ht]

/-- **The first complete encoding is chosen.** Offset and width when both are given, else the
range when given, else `lsb` and `msb` when both are given, else none. -/
theorem Spec.of_cases (f : BitField) :
    (∃ o w, f.bitOffset = some o ∧ f.bitWidth = some w ∧ o ≠ "" ∧ w ≠ "" ∧
      Spec.of f = some (.offsetWidth o w)) ∨
    (¬ f.OffsetWidthGiven ∧ ∃ r, f.bitRange = some r ∧ r ≠ "" ∧ Spec.of f = some (.range r)) ∨
    (¬ f.OffsetWidthGiven ∧ ¬ f.RangeGiven ∧ f.LsbMsbGiven ∧
      ∃ l m, Spec.of f = some (.lsbMsb l m)) ∨
    (¬ f.OffsetWidthGiven ∧ ¬ f.RangeGiven ∧ ¬ f.LsbMsbGiven ∧ Spec.of f = none) := by
  unfold Spec.of
  split
  · rename_i o w ho hw
    obtain ⟨ho, ho'⟩ := present_eq_some_iff.1 ho
    obtain ⟨hw, hw'⟩ := present_eq_some_iff.1 hw
    exact .inl ⟨o, w, ho, hw, ho', hw', rfl⟩
  · -- the pair is incomplete, so the choice falls to the range
    rename_i hnot
    have hpair : ¬ f.OffsetWidthGiven := fun ⟨⟨o, ho⟩, ⟨w, hw⟩⟩ =>
      hnot o w (present_eq_some_iff.2 ho) (present_eq_some_iff.2 hw)
    split
    · rename_i r hr
      obtain ⟨hr, hr'⟩ := present_eq_some_iff.1 hr
      exact .inr (.inl ⟨hpair, r, hr, hr', rfl⟩)
    · rename_i hr
      have hr' : ¬ f.RangeGiven := present_eq_none_iff.1 hr
      split
      · rename_i l m hl hm
        have hlm : f.LsbMsbGiven := ⟨⟨l, present_eq_some_iff.1 hl⟩, ⟨m, present_eq_some_iff.1 hm⟩⟩
        exact .inr (.inr (.inl ⟨hpair, hr', hlm, l, m, rfl⟩))
      · rename_i hnot'
        have hlm : ¬ f.LsbMsbGiven := fun ⟨⟨l, hl⟩, ⟨m, hm⟩⟩ =>
          hnot' l m (present_eq_some_iff.2 hl) (present_eq_some_iff.2 hm)
        exact .inr (.inr (.inr ⟨hpair, hr', hlm, rfl⟩))

/-! ## The chosen encoding decides -/

theorem normalize_congr {f g : BitField} (h : Spec.of f = Spec.of g) : normalize f = normalize g := by
  simp only [normalize, h]

/-- **Offset and width come first.** A field that gives an offset and a width normalises as the
field with only them: its range and its `lsb`/`msb` are not looked at. -/
theorem normalize_of_offsetWidth {f : BitField} {o w : String} (ho : f.bitOffset = some o)
    (hw : f.bitWidth = some w) (ho' : o ≠ "") (hw' : w ≠ "") :
    normalize f = normalize (f.onlyOffsetWidth o w) := by
  apply normalize_congr
  simp [Spec.of, onlyOffsetWidth, present, ho, hw, ho', hw']

/-- **The range comes second.** A field that gives no complete offset and width but a range
normalises as the field with only its range. -/
theorem normalize_of_range {f : BitField} {r : String} (hpair : ¬ f.OffsetWidthGiven)
    (hr : f.bitRange = some r) (hr' : r ≠ "") : normalize f = normalize (f.onlyRange r) := by
  apply normalize_congr
  have hgiven : f.RangeGiven := ⟨r, hr, hr'⟩
  have hof : Spec.of f = some (.range r) := by
    rcases Spec.of_cases f with ⟨o, w, ho, hw, ho', hw', -⟩ | ⟨-, r', hr'', -, hof⟩ |
      ⟨-, hnot, -⟩ | ⟨-, hnot, -⟩
    · exact absurd ⟨⟨o, ho, ho'⟩, ⟨w, hw, hw'⟩⟩ hpair
    · rw [hof, ← Option.some_inj.1 (hr''.symm.trans hr)]
    · exact absurd hgiven hnot
    · exact absurd hgiven hnot
  rw [hof]
  simp [Spec.of, onlyRange, present, hr']

/-! ## What the errors say -/

theorem readWord_error {e : Element} {v : String} {err : SpecError}
    (h : readWord e v = .error err) : err = .invalidInteger e v := by
  unfold readWord at h
  cases hw : Numeral.readWord (Text.trim v) with
  | none =>
    rw [hw] at h
    exact (Except.error.inj h).symm
  | some n =>
    rw [hw] at h
    cases h

/-- A bit range is refused as malformed or for a number that does not read. -/
theorem readRange_error {r : String} {err : SpecError} (h : readRange r = .error err) :
    err = .invalidRange r ∨ ∃ v, err = .invalidInteger .bitRange v := by
  unfold readRange at h
  split at h
  · rename_i hi lo _
    cases hhi : readWord .bitRange hi with
    | error e =>
      simp only [hhi, bind, Except.bind] at h
      injection h with h
      exact .inr ⟨hi, h ▸ readWord_error hhi⟩
    | ok vhi =>
      cases hlo : readWord .bitRange lo with
      | error e =>
        simp only [hhi, hlo, bind, Except.bind] at h
        injection h with h
        exact .inr ⟨lo, h ▸ readWord_error hlo⟩
      | ok vlo =>
        simp only [hhi, hlo, bind, Except.bind] at h
        split at h
        · cases h
        · injection h with h
          exact .inl h.symm
  · injection h with h
    exact .inl h.symm

/-- The offset/width and range encodings never fail for want of an encoding, nor as `lsb`/`msb`. -/
theorem Spec.normalize_error {s : Spec} (hs : ∀ l m, s ≠ .lsbMsb l m) {err : SpecError}
    (h : s.normalize = .error err) : err ≠ .missing ∧ err ≠ .lsbMsbUnsupported := by
  -- the errors a position can give, before the width check
  have hpos : ∀ e, s.position = .error e → e ≠ .missing ∧ e ≠ .lsbMsbUnsupported := by
    intro e he
    cases s with
    | offsetWidth o w =>
      simp only [Spec.position, bind, Except.bind] at he
      cases ho : readWord .bitOffset o with
      | error e' =>
        rw [ho] at he
        injection he with he
        simp [← he, readWord_error ho]
      | ok vo =>
        rw [ho] at he
        cases hw : readWord .bitWidth w with
        | error e' =>
          simp only [hw] at he
          injection he with he
          simp [← he, readWord_error hw]
        | ok vw => simp [hw] at he
    | range r =>
      simp only [Spec.position] at he
      rcases readRange_error (r := r) he with rfl | ⟨v, rfl⟩ <;> simp
    | lsbMsb l m => exact absurd rfl (hs l m)
  unfold Spec.normalize at h
  cases hp : s.position with
  | error e =>
    rw [hp] at h
    injection h with h
    exact h ▸ hpos e hp
  | ok p =>
    simp only [hp, bind, Except.bind] at h
    split at h
    · injection h with h
      simp [← h]
    · cases h

/-- The width check refuses a position without bits. -/
theorem Spec.normalize_ok {s : Spec} {p : Position} (h : s.normalize = .ok p) : p.width ≠ 0 := by
  unfold Spec.normalize at h
  cases hp : s.position with
  | error e => simp [hp, bind, Except.bind] at h
  | ok q =>
    simp only [hp, bind, Except.bind] at h
    split at h
    · cases h
    · rename_i hq
      injection h with h
      exact h ▸ hq

/-- **A normalised position has a bit.** -/
theorem normalize_width_pos {f : BitField} {p : Position} (h : normalize f = .ok p) :
    1 ≤ p.width.toNat := by
  unfold normalize at h
  split at h
  · have hne : p.width.toNat ≠ 0 := fun h0 => Spec.normalize_ok h (UInt32.toNat_inj.1 h0)
    omega
  · cases h

/-- **`lsb`/`msb` are refused exactly when they are the chosen encoding.** -/
theorem normalize_eq_lsbMsbUnsupported_iff (f : BitField) :
    normalize f = .error .lsbMsbUnsupported ↔
      ¬ f.OffsetWidthGiven ∧ ¬ f.RangeGiven ∧ f.LsbMsbGiven := by
  rcases Spec.of_cases f with ⟨o, w, ho, hw, ho', hw', hof⟩ | ⟨hpair, r, hr, hr', hof⟩ |
    ⟨hpair, hrange, hlm, l, m, hof⟩ | ⟨-, -, hlm, hof⟩
  · simp only [normalize, hof]
    exact ⟨fun h => ((Spec.normalize_error (fun _ _ => by simp) h).2 rfl).elim, fun h => absurd ⟨⟨o, ho, ho'⟩, ⟨w, hw, hw'⟩⟩ h.1⟩
  · simp only [normalize, hof]
    exact ⟨fun h => ((Spec.normalize_error (fun _ _ => by simp) h).2 rfl).elim, fun h => absurd ⟨r, hr, hr'⟩ h.2.1⟩
  · simp [normalize, hof, Spec.normalize, Spec.position, bind, Except.bind, hpair, hrange, hlm]
  · simp [normalize, hof, hlm]

/-- **`Missing` exactly when no encoding is complete.** -/
theorem normalize_eq_missing_iff (f : BitField) :
    normalize f = .error .missing ↔
      ¬ f.OffsetWidthGiven ∧ ¬ f.RangeGiven ∧ ¬ f.LsbMsbGiven := by
  rcases Spec.of_cases f with ⟨o, w, ho, hw, ho', hw', hof⟩ | ⟨hpair, r, hr, hr', hof⟩ |
    ⟨-, -, hlm, l, m, hof⟩ | ⟨hpair, hrange, hlm, hof⟩
  · simp only [normalize, hof]
    exact ⟨fun h => ((Spec.normalize_error (fun _ _ => by simp) h).1 rfl).elim, fun h => absurd ⟨⟨o, ho, ho'⟩, ⟨w, hw, hw'⟩⟩ h.1⟩
  · simp only [normalize, hof]
    exact ⟨fun h => ((Spec.normalize_error (fun _ _ => by simp) h).1 rfl).elim, fun h => absurd ⟨r, hr, hr'⟩ h.2.1⟩
  · simp [normalize, hof, Spec.normalize, Spec.position, bind, Except.bind, hlm]
  · simp [normalize, hof, hpair, hrange, hlm]

/-! ## Decimal forms -/

/-- The bit range `[hi:lo]` written in decimal, with the blanks `a` and `z` around it, `b` and
`c` around `hi`, and `d` and `e` around `lo`. -/
def rangeText (a b c d e z : String) (hi lo : UInt32) : String :=
  a ++ "[" ++ b ++ toString hi ++ c ++ ":" ++ d ++ toString lo ++ e ++ "]" ++ z

/-- A 32-bit word in decimal between blanks reads as itself. -/
theorem readWord_pad (el : Element) {a b : String} (ha : Text.Blank a) (hb : Text.Blank b)
    (n : UInt32) : readWord el (a ++ toString n ++ b) = .ok n := by
  have hlt : n.toNat < Nat.pow 2 32 := by
    have := n.toNat_lt
    rw [Nat.pow_eq]
    omega
  unfold readWord
  rw [show toString n = toString n.toNat from rfl, Numeral.readWord_pad ha hb hlt]
  simp

/-- No colon in a decimal word between blanks. -/
theorem colon_not_mem_pad {a b : String} (ha : Text.Blank a) (hb : Text.Blank b) (n : UInt32) :
    ':' ∉ (a ++ toString n ++ b).toList := by
  have hcolon : Text.isBlank ':' = false := by decide
  intro hmem
  simp only [String.toList_append, List.mem_append] at hmem
  rcases hmem with (hmem | hmem) | hmem
  · exact absurd (ha ':' hmem) (by simp [hcolon])
  · rw [show toString n = toString n.toNat from rfl, Numeral.toList_toString] at hmem
    have := Nat.isDigit_of_mem_toDigits (by decide) (by decide) hmem
    exact absurd this (by decide)
  · exact absurd (hb ':' hmem) (by simp [hcolon])

/-- The inside of a bracketed text between blanks is split at its first colon. -/
theorem splitRange_pad {a z x y : String} (ha : Text.Blank a) (hz : Text.Blank z)
    (hx : ':' ∉ x.toList) : splitRange (a ++ "[" ++ x ++ ":" ++ y ++ "]" ++ z) = some (x, y) := by
  have hlist : (a ++ "[" ++ x ++ ":" ++ y ++ "]" ++ z).toList =
      a.toList ++ ('[' :: (x.toList ++ ':' :: y.toList ++ [']'])) ++ z.toList := by
    simp
  have htrim : (Text.trim (a ++ "[" ++ x ++ ":" ++ y ++ "]" ++ z)).toList =
      '[' :: (x.toList ++ ':' :: y.toList ++ [']']) := by
    rw [Text.trim, String.toList_ofList, hlist, Text.trimChars_pad ha hz]
    · intro c hc
      simp only [List.head?_cons, Option.mem_def, Option.some.injEq] at hc
      subst hc
      decide
    · intro c hc
      have hend : '[' :: (x.toList ++ ':' :: y.toList ++ [']']) =
          ('[' :: (x.toList ++ ':' :: y.toList)) ++ [']'] := by simp
      rw [hend, List.getLast?_concat, Option.mem_def, Option.some.injEq] at hc
      subst hc
      decide
  -- the first colon is the one after `x`
  have hfind : (x.toList ++ ':' :: y.toList).findIdx? (· = ':') = some x.toList.length := by
    have hnone : x.toList.findIdx? (· = ':') = none := List.findIdx?_eq_none_iff.2 fun c hc => by
      simp only [decide_eq_false_iff_not]
      rintro rfl
      exact hx hc
    rw [List.findIdx?_append, hnone]
    simp [List.findIdx?_cons]
  unfold splitRange
  rw [htrim]
  simp [hfind]

/-- **Offset and width in decimal.** A field whose only encoding is an offset and a width written
in decimal, with blanks around each, normalises to them, unless the width is zero. -/
theorem normalize_onlyOffsetWidth_pad (f : BitField) (o w : UInt32) {a b c d : String}
    (hpad : ∀ p ∈ [a, b, c, d], Text.Blank p) :
    normalize (f.onlyOffsetWidth (a ++ toString o ++ b) (c ++ toString w ++ d)) =
      if w = 0 then .error .zeroWidth else .ok ⟨o, w⟩ := by
  simp only [List.mem_cons, List.not_mem_nil, or_false, forall_eq_or_imp, forall_eq] at hpad
  obtain ⟨ha, hb, hc, hd⟩ := hpad
  have hne : ∀ n : UInt32, ∀ p q : String, p ++ toString n ++ q ≠ "" := by
    intro n p q h
    have := congrArg String.length h
    simp [toString, Nat.repr] at this
  simp [normalize, Spec.of, onlyOffsetWidth, present, hne, Spec.normalize, Spec.position,
    readWord_pad _ ha hb, readWord_pad _ hc hd, bind, Except.bind]

/-- The width of `[hi:lo]` is exactly `hi - lo + 1` when that fits a 32-bit word. -/
theorem width_toNat {lo hi : UInt32} (hle : lo ≤ hi) (hfit : hi.toNat - lo.toNat + 1 ≤ maxU32) :
    (hi - lo + 1).toNat = hi.toNat - lo.toNat + 1 := by
  have hle' : lo.toNat ≤ hi.toNat := UInt32.le_iff_toNat_le.1 hle
  rw [UInt32.toNat_add, UInt32.toNat_sub_of_le _ _ hle]
  simp only [maxU32] at hfit
  rw [Nat.pow_eq] at hfit
  simp
  omega

/-- **A bit range in decimal.** A field whose only encoding is `[hi:lo]` written in decimal, with
any blanks around the whole and around each number, normalises to offset `lo` and width
`hi - lo + 1` when `lo ≤ hi` and that width fits a 32-bit word, and is refused as malformed
otherwise. -/
theorem normalize_onlyRange_rangeText (f : BitField) (lo hi : UInt32) {a b c d e z : String}
    (hpad : ∀ p ∈ [a, b, c, d, e, z], Text.Blank p) :
    normalize (f.onlyRange (rangeText a b c d e z hi lo)) =
      if lo ≤ hi ∧ hi.toNat - lo.toNat + 1 ≤ maxU32 then .ok ⟨lo, hi - lo + 1⟩
      else .error (.invalidRange (rangeText a b c d e z hi lo)) := by
  simp only [List.mem_cons, List.not_mem_nil, or_false, forall_eq_or_imp, forall_eq] at hpad
  obtain ⟨ha, hb, hc, hd, he, hz⟩ := hpad
  have hsplit : splitRange (rangeText a b c d e z hi lo) =
      some (b ++ toString hi ++ c, d ++ toString lo ++ e) := by
    have := splitRange_pad (y := d ++ toString lo ++ e) ha hz (colon_not_mem_pad hb hc hi)
    simpa [rangeText, String.append_assoc] using this
  have hread : readRange (rangeText a b c d e z hi lo) =
      if lo ≤ hi ∧ hi.toNat - lo.toNat + 1 ≤ maxU32 then .ok ⟨lo, hi - lo + 1⟩
      else .error (.invalidRange (rangeText a b c d e z hi lo)) := by
    simp only [readRange, hsplit, readWord_pad _ hb hc, readWord_pad _ hd he, bind, Except.bind]
  have hspec : Spec.of (f.onlyRange (rangeText a b c d e z hi lo)) =
      some (.range (rangeText a b c d e z hi lo)) := by
    have hne : rangeText a b c d e z hi lo ≠ "" := by
      intro h
      have := congrArg String.length h
      simp [rangeText] at this
    simp [Spec.of, onlyRange, present, hne]
  simp only [normalize, hspec]
  unfold Spec.normalize
  simp only [Spec.position, hread]
  split
  · -- the width `hi - lo + 1` is no wrapped-around zero
    rename_i hok
    have hnz : hi - lo + 1 ≠ 0 := fun h0 => by
      have := congrArg UInt32.toNat h0
      rw [width_toNat hok.1 hok.2] at this
      simp at this
    simp [bind, Except.bind, hnz]
  · rfl

end Bits

open Bits BitField in
/-- **Bit positions normalise consistently.** A normalised position has at least one bit. The
encoding used is the first complete one, offset and width before the range before `lsb`/`msb`,
an empty value counting as absent: a field normalises as the field with only that encoding,
`lsb`/`msb` are refused exactly when they are the one chosen, and `Missing` comes exactly when
none is complete. For 32-bit words `lo ≤ hi` whose width `hi - lo + 1` fits a word, the range
`[hi:lo]` and the offset `lo` with the width `hi - lo + 1`, in decimal with any blanks around,
both give offset `lo` and width `hi - lo + 1`; any other range of two words is malformed. -/
theorem bit_positions_normalize :
    (∀ (f : BitField) p, Bits.normalize f = .ok p → 1 ≤ p.width.toNat) ∧
    (∀ (f : BitField) o w, f.bitOffset = some o → f.bitWidth = some w → o ≠ "" → w ≠ "" →
      Bits.normalize f = Bits.normalize (f.onlyOffsetWidth o w)) ∧
    (∀ (f : BitField) r, ¬ f.OffsetWidthGiven → f.bitRange = some r → r ≠ "" →
      Bits.normalize f = Bits.normalize (f.onlyRange r)) ∧
    (∀ f : BitField, Bits.normalize f = .error .lsbMsbUnsupported ↔
      ¬ f.OffsetWidthGiven ∧ ¬ f.RangeGiven ∧ f.LsbMsbGiven) ∧
    (∀ f : BitField, Bits.normalize f = .error .missing ↔
      ¬ f.OffsetWidthGiven ∧ ¬ f.RangeGiven ∧ ¬ f.LsbMsbGiven) ∧
    (∀ (f : BitField) (lo hi : UInt32) (a b c d e z : String),
      (∀ p ∈ [a, b, c, d, e, z], Text.Blank p) →
      Bits.normalize (f.onlyRange (rangeText a b c d e z hi lo)) =
        if lo ≤ hi ∧ hi.toNat - lo.toNat + 1 ≤ maxU32 then .ok ⟨lo, hi - lo + 1⟩
        else .error (.invalidRange (rangeText a b c d e z hi lo))) ∧
    (∀ (f : BitField) (lo hi : UInt32) (a b c d : String), (∀ p ∈ [a, b, c, d], Text.Blank p) →
      lo ≤ hi → hi.toNat - lo.toNat + 1 ≤ maxU32 →
      Bits.normalize (f.onlyOffsetWidth (a ++ toString lo ++ b) (c ++ toString (hi - lo + 1) ++ d)) =
        .ok ⟨lo, hi - lo + 1⟩) := by
  refine ⟨fun _ _ => normalize_width_pos, fun _ _ _ => normalize_of_offsetWidth,
    fun _ _ => normalize_of_range, normalize_eq_lsbMsbUnsupported_iff, normalize_eq_missing_iff,
    fun f lo hi _ _ _ _ _ _ => normalize_onlyRange_rangeText f lo hi, ?_⟩
  intro f lo hi a b c d hpad hle hfit
  -- the width is the exact `hi - lo + 1`, so it is not zero
  have hnz : hi - lo + 1 ≠ 0 := fun h0 => by
    have := congrArg UInt32.toNat h0
    rw [width_toNat hle hfit] at this
    simp at this
  rw [normalize_onlyOffsetWidth_pad f lo (hi - lo + 1) hpad, if_neg hnz]

/-- The nibble at bits 16 to 19, as the range ` [19: 16]\t` and as the offset ` 16` with the width
`4\t`. -/
theorem bit_positions_normalize_nibble :
    (∀ p ∈ [" ", "", "", " ", "", "\t"], Text.Blank p) ∧ (16 : UInt32) ≤ 19 ∧
      (19 : UInt32).toNat - (16 : UInt32).toNat + 1 ≤ Bits.maxU32 ∧
      Bits.normalize (({ name := "F" } : BitField).onlyRange
        (Bits.rangeText " " "" "" " " "" "\t" 19 16)) = .ok ⟨16, 4⟩ ∧
      Bits.normalize (({ name := "F" } : BitField).onlyOffsetWidth
        (" " ++ toString (16 : UInt32) ++ "") ("" ++ toString ((19 : UInt32) - 16 + 1) ++ "\t")) =
        .ok ⟨16, 4⟩ := by
  have hpad : ∀ p ∈ [" ", "", "", " ", "", "\t"], Text.Blank p := by
    simp [Text.Blank, Text.isBlank, Text.blankCodes]
  have hle : (16 : UInt32) ≤ 19 := by decide
  have hfit : (19 : UInt32).toNat - (16 : UInt32).toNat + 1 ≤ Bits.maxU32 := by decide
  refine ⟨hpad, hle, hfit, ?_, ?_⟩
  · rw [bit_positions_normalize.2.2.2.2.2.1 _ 16 19 _ _ _ _ _ _ hpad, if_pos ⟨hle, hfit⟩]
    rfl
  · exact bit_positions_normalize.2.2.2.2.2.2 _ 16 19 " " "" "" "\t"
      (by simp [Text.Blank, Text.isBlank, Text.blankCodes]) hle hfit


end RegisterAtlas
