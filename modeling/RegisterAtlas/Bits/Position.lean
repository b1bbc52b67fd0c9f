/-!
# Bit positions

Where a bit field sits in a register: its lowest bit (`offset`) and its number of bits
(`width`), both 32-bit words.

* `mask`: `width` one bits, clipped to 64 bits (all 64 bits set once `width` reaches 64).
* `shiftedMask`: the mask moved up by `offset`, keeping the low 64 bits; zero once `offset`
  reaches 64.
* `endBit`: the first bit above the field, `offset + width`, held at the largest word.
-/

namespace RegisterAtlas.Bits

/-- The largest 64-bit number. -/
def maxU64 : Nat := Nat.pow 2 64 - 1

/-- The largest 32-bit word. -/
def maxU32 : Nat := Nat.pow 2 32 - 1

/-- A bit field's place in a register. -/
structure Position where
  offset : UInt32
  width : UInt32
  deriving Repr, DecidableEq, Inhabited

namespace Position

/-- The field's bits at the bottom of a 64-bit word. -/
def mask (p : Position) : Nat :=
  if 64 ≤ p.width.toNat then maxU64 else Nat.pow 2 p.width.toNat - 1

/-- The field's bits in place, as a 64-bit word. -/
def shiftedMask (p : Position) : Nat :=
  if 64 ≤ p.offset.toNat then 0 else p.mask * Nat.pow 2 p.offset.toNat % Nat.pow 2 64

/-- The bit just above the field, at most the largest 32-bit word. -/
def endBit (p : Position) : Nat := min (p.offset.toNat + p.width.toNat) maxU32

end Position

end RegisterAtlas.Bits
