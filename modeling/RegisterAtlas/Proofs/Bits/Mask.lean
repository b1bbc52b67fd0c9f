import Mathlib
import RegisterAtlas.Bits.Position
/-!
# Field masks

A field's mask is its run of one bits, at the bottom of a 64-bit word or moved up into place. It
is clipped to the word: a field of 64 bits or more gives the full word, and moving the mask up
keeps only the bits that still fall in the word, so that a field starting at bit 64 or above
leaves no bit at all. The bits that stay are counted exactly, with no wrap of `offset + width`.

* `mask_eq`, `mask_eq_of_le`, `testBit_mask`: the mask is `2 ^ min width 64 - 1`, the bits below
  `min width 64`.
* `testBit_shiftedMask`, `shiftedMask_lt`: the mask in place has bit `i` set exactly when
  `i < 64` and `offset ≤ i < offset + width`.
* `shiftedMask_eq_of_fits`, `shiftedMask_shiftRight_of_fits`: a field that fits in 64 bits has
  the mask `(2 ^ width - 1) * 2 ^ offset` in place, and moving it back down gives the mask.
* `masks_are_clipped_bit_set`: the whole account, with `endBit` held at the largest 32-bit word.
-/

namespace RegisterAtlas.Bits.Position

variable (p : Position)

theorem mask_eq : p.mask = 2 ^ min p.width.toNat 64 - 1 := by
  unfold mask
  split
  case isTrue hw => rw [min_eq_right hw]; rfl
  case isFalse hw => rw [min_eq_left (by omega), Nat.pow_eq]

/-- A field of at most 64 bits has exactly its width in ones. -/
theorem mask_eq_of_le (h : p.width.toNat ≤ 64) : p.mask = 2 ^ p.width.toNat - 1 := by
  rw [mask_eq, min_eq_left h]

theorem testBit_mask (i : Nat) : p.mask.testBit i = decide (i < min p.width.toNat 64) := by
  rw [mask_eq, Nat.testBit_two_pow_sub_one]

/-- Below bit 64 the mask in place holds exactly the field's bits; above, nothing. -/
theorem testBit_shiftedMask (i : Nat) :
    p.shiftedMask.testBit i =
      decide (i < 64 ∧ p.offset.toNat ≤ i ∧ i < p.offset.toNat + p.width.toNat) := by
  unfold shiftedMask
  split
  case isTrue ho =>
    -- a field from bit 64 up has no bit left in the word
    simp only [Nat.zero_testBit, false_eq_decide_iff, not_and, not_lt]
    omega
  case isFalse ho =>
    rw [Nat.pow_eq, Nat.pow_eq, Nat.testBit_mod_two_pow, Nat.testBit_mul_two_pow, testBit_mask]
    by_cases hi : i < 64
    · by_cases hoi : p.offset.toNat ≤ i
      · -- bit `i` of the mask in place is bit `i - offset` of the mask, below `min width 64`
        simp only [hi, hoi, decide_true, Bool.true_and, true_and, decide_eq_decide]
        omega
      · simp [hoi]
    · simp [hi]

theorem shiftedMask_lt : p.shiftedMask < 2 ^ 64 :=
  Nat.lt_pow_two_of_testBit _ fun i hi => by
    rw [testBit_shiftedMask, decide_eq_false_iff_not]
    omega

/-- A field that fits in the word has its mask in place exactly, with no bit lost. -/
theorem shiftedMask_eq_of_fits (h : p.offset.toNat + p.width.toNat ≤ 64) :
    p.shiftedMask = (2 ^ p.width.toNat - 1) * 2 ^ p.offset.toNat := by
  unfold shiftedMask
  split
  case isTrue ho =>
    -- only the empty field at bit 64 starts outside the word
    have hw : p.width.toNat = 0 := by omega
    simp [hw]
  case isFalse ho =>
    have hfit : (2 ^ p.width.toNat - 1) * 2 ^ p.offset.toNat < 2 ^ 64 :=
      calc (2 ^ p.width.toNat - 1) * 2 ^ p.offset.toNat
          < 2 ^ p.width.toNat * 2 ^ p.offset.toNat :=
            Nat.mul_lt_mul_of_pos_right (Nat.sub_lt (Nat.two_pow_pos _) Nat.one_pos)
              (Nat.two_pow_pos _)
        _ = 2 ^ (p.width.toNat + p.offset.toNat) := (Nat.pow_add _ _ _).symm
        _ ≤ 2 ^ 64 := Nat.pow_le_pow_right (by decide) (by omega)
    rw [Nat.pow_eq, Nat.pow_eq, mask_eq_of_le p (by omega), Nat.mod_eq_of_lt hfit]

theorem shiftedMask_shiftRight_of_fits (h : p.offset.toNat + p.width.toNat ≤ 64) :
    p.shiftedMask >>> p.offset.toNat = p.mask := by
  rw [shiftedMask_eq_of_fits p h, Nat.shiftRight_eq_div_pow,
    Nat.mul_div_cancel _ (Nat.two_pow_pos _), mask_eq_of_le p (by omega)]

theorem endBit_eq : p.endBit = min (p.offset.toNat + p.width.toNat) (2 ^ 32 - 1) := rfl

/-- **Masks are the field's bits, clipped to 64.** For every offset and width: the mask is
`2 ^ min width 64 - 1`; below bit 64 the mask in place has exactly the bits from `offset` up to,
not including, `offset + width`, counted exactly, and no bit above; a field that fits in 64 bits has the mask
`(2 ^ width - 1) * 2 ^ offset` in place, which moves back down to the mask; and the field's end is
`offset + width`, held at the largest 32-bit word. -/
theorem masks_are_clipped_bit_set :
    p.mask = 2 ^ min p.width.toNat 64 - 1 ∧
    (∀ i < 64, p.shiftedMask.testBit i = true ↔
      p.offset.toNat ≤ i ∧ i < p.offset.toNat + p.width.toNat) ∧
    p.shiftedMask < 2 ^ 64 ∧
    (p.offset.toNat + p.width.toNat ≤ 64 →
      p.shiftedMask = (2 ^ p.width.toNat - 1) * 2 ^ p.offset.toNat ∧
        p.shiftedMask >>> p.offset.toNat = p.mask) ∧
    p.endBit = min (p.offset.toNat + p.width.toNat) (2 ^ 32 - 1) := by
  refine ⟨mask_eq p, fun i hi => ?_, shiftedMask_lt p, fun h => ⟨shiftedMask_eq_of_fits p h,
    shiftedMask_shiftRight_of_fits p h⟩, endBit_eq p⟩
  rw [testBit_shiftedMask, decide_eq_true_iff]
  exact and_iff_right hi

end RegisterAtlas.Bits.Position
