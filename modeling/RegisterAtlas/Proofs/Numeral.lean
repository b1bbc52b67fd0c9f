import Mathlib
import RegisterAtlas.Numeral
/-!
# Numerals read back

A number written out reads back as itself. The digits of a number in a radix up to 16 read as
the number, whatever the letter case of the digits; a numeral may be padded with zeros in front,
and a decimal word read with blanks around it.

* `Numeral.digitsValue_toDigits`: the digits of a number read back as it.
* `Numeral.value_hexUpper`: a number in upper case hexadecimal, padded with zeros, reads back.
* `Text.trimChars_pad`: trimming drops blank padding around a text that starts and ends with
  a character that is not blank.
* `Numeral.readWord_pad`: a 32-bit word written in decimal between blanks reads back after
  trimming.
-/

namespace RegisterAtlas

/-! ## Digits -/

namespace Numeral

theorem digitsValue_append (radix : Nat) (l₁ l₂ : List Char) (acc : Nat) :
    digitsValue radix (l₁ ++ l₂) acc = (digitsValue radix l₁ acc).bind (digitsValue radix l₂) := by
  induction l₁ generalizing acc with
  | nil => rfl
  | cons c cs ih =>
    simp only [List.cons_append, digitsValue]
    cases digitValue radix c with
    | none => rfl
    | some d => exact ih _

theorem digitsValue_zeros (k : Nat) : digitsValue 16 (List.replicate k '0') 0 = some 0 := by
  induction k with
  | zero => rfl
  | succ k ih =>
    rw [List.replicate_succ, digitsValue]
    exact ih

/-- Every hexadecimal digit, written in upper case, reads back as itself. -/
theorem digitValue_upper : ∀ d < 16, digitValue 16 (Nat.digitChar d).toUpper = some d := by
  decide

/-- Every decimal digit reads back as itself. -/
theorem digitValue_decimal : ∀ d < 10, digitValue 10 (Nat.digitChar d) = some d := by
  decide

/-- A plus sign is no digit in any radix. -/
theorem digitValue_plus (radix : Nat) : digitValue radix '+' = none := by
  simp [digitValue]

/-- The digits of a number read back as the number, when each digit, as written by `g`, reads
as its value. -/
theorem digitsValue_toDigits {radix : Nat} (hradix : 1 < radix) (g : Char → Char)
    (hg : ∀ d < radix, digitValue radix (g (Nat.digitChar d)) = some d) (n : Nat) :
    digitsValue radix ((Nat.toDigits radix n).map g) 0 = some n := by
  induction n using Nat.strong_induction_on with
  | _ n ih =>
    rw [Nat.toDigits_eq_if hradix]
    split
    · rename_i hlt
      simp [digitsValue, hg n hlt]
    · -- the digits of `n / radix`, then the last digit
      rename_i hge
      have hdiv : n / radix < n := Nat.div_lt_self (by omega) hradix
      rw [List.map_append, digitsValue_append, ih (n / radix) hdiv]
      simp only [Option.bind_some, List.map_cons, List.map_nil, digitsValue,
        hg (n % radix) (Nat.mod_lt n (by omega))]
      rw [Nat.div_add_mod']

/-- A numeral that is not empty and reads as digits is read by `value`: it has no sign. -/
theorem value_ofList {radix : Nat} {l : List Char} (hne : l ≠ []) {v : Nat}
    (h : digitsValue radix l 0 = some v) : value radix (String.ofList l) = some v := by
  have hplus := digitValue_plus radix
  unfold value
  rw [String.toList_ofList]
  split
  · exact absurd rfl hne
  · simp [digitsValue, hplus] at h
  · simp [digitsValue, hplus] at h
  · exact h

/-- **Hexadecimal numerals read back.** A number written in upper case hexadecimal, padded with
zeros to any width, reads as the number. -/
theorem value_hexUpper (width n : Nat) : value 16 (hexUpper width n) = some n := by
  unfold hexUpper
  apply value_ofList
  · simp
  · rw [digitsValue_append, digitsValue_zeros, Option.bind_some,
      digitsValue_toDigits (by decide) Char.toUpper digitValue_upper]

theorem toList_toString (n : Nat) : (toString n).toList = Nat.toDigits 10 n := by
  simp [toString, Nat.repr]

/-- **Decimal words read back.** -/
theorem readWord_toString {n : Nat} (h : n < Nat.pow 2 32) : readWord (toString n) = some n := by
  have hdigits : digitsValue 10 (Nat.toDigits 10 n) 0 = some n := by
    simpa using digitsValue_toDigits (by decide) id digitValue_decimal n
  have hvalue : value 10 (toString n) = some n := by
    rw [← String.ofList_toList (s := toString n), toList_toString]
    exact value_ofList (Nat.toDigits_ne_nil) hdigits
  unfold readWord read
  rw [hvalue]
  simp [h]

end Numeral

/-! ## Blank padding -/

namespace Text

/-- A text of blanks only, possibly empty. -/
def Blank (s : String) : Prop := ∀ c ∈ s.toList, isBlank c = true

/-- Trimming drops blanks `a` in front and `b` behind a text whose first and last characters
are not blank. -/
theorem trimChars_pad {a s b : List Char} (ha : ∀ c ∈ a, isBlank c = true)
    (hb : ∀ c ∈ b, isBlank c = true) (hhead : ∀ c ∈ s.head?, isBlank c = false)
    (hlast : ∀ c ∈ s.getLast?, isBlank c = false) : trimChars (a ++ s ++ b) = s := by
  rcases s with _ | ⟨c, cs⟩
  · -- nothing but blanks
    have hall : (a ++ [] ++ b).dropWhile isBlank = [] := by
      rw [List.append_nil, List.dropWhile_append_of_pos ha]
      exact List.dropWhile_eq_nil_iff.2 hb
    rw [trimChars, hall]
    rfl
  -- in front, the blanks go and the first character stops the drop
  have hfront : (a ++ c :: cs ++ b).dropWhile isBlank = c :: cs ++ b := by
    rw [List.append_assoc, List.dropWhile_append_of_pos ha, List.cons_append,
      List.dropWhile_cons_of_neg (by simpa using hhead c rfl)]
  -- behind, the same on the reversed text
  have hback : (b.reverse ++ (c :: cs).reverse).dropWhile isBlank = (c :: cs).reverse := by
    rw [List.dropWhile_append_of_pos (by simpa using hb)]
    cases hs : (c :: cs).reverse with
    | nil => rfl
    | cons d ds =>
      have hd : isBlank d = false := hlast d (by
        rw [← List.head?_reverse, hs]
        rfl)
      simp [hd]
  rw [trimChars, hfront, List.reverse_append, hback, List.reverse_reverse]

end Text

namespace Numeral

/-- Decimal digits are not blank. -/
theorem isBlank_of_mem_toDigits {n : Nat} {c : Char} (h : c ∈ Nat.toDigits 10 n) :
    Text.isBlank c = false := by
  have hdigit := Nat.isDigit_of_mem_toDigits (by decide) (by decide) h
  simp only [Char.isDigit, Bool.and_eq_true, decide_eq_true_eq] at hdigit
  -- a digit's code lies between those of `0` and `9`, where no blank is
  have hcode : 48 ≤ c.toNat ∧ c.toNat ≤ 57 := ⟨hdigit.1, hdigit.2⟩
  simp [Text.isBlank, Text.blankCodes]
  omega

/-- **Padded decimal words read back.** A 32-bit word written in decimal, with blanks around
it, reads as itself once trimmed. -/
theorem readWord_pad {a b : String} (ha : Text.Blank a) (hb : Text.Blank b) {n : Nat}
    (h : n < Nat.pow 2 32) : readWord (Text.trim (a ++ toString n ++ b)) = some n := by
  have htrim : Text.trim (a ++ toString n ++ b) = toString n := by
    rw [Text.trim, String.toList_append, String.toList_append, Text.trimChars_pad ha hb,
      String.ofList_toList]
    · intro c hc
      rw [toList_toString] at hc
      exact isBlank_of_mem_toDigits (List.mem_of_mem_head? hc)
    · intro c hc
      rw [toList_toString] at hc
      exact isBlank_of_mem_toDigits (List.mem_of_mem_getLast? hc)
  rw [htrim, readWord_toString h]

end Numeral

end RegisterAtlas
