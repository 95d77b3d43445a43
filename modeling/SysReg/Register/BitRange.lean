import SysReg.Word

/-!
# Bit ranges

An inclusive range `[high:low]` of the bits of a register. Bounds are any natural numbers: a range
is checked where it is used, and `IsValid` says when it lies within the 64 bits the right way round.

`mask` and `extract` are meant for valid ranges. For those, `mask` has exactly the bits of the range
(`getLsbD_mask`) and `extract` is the number these bits form (`getLsbD_extract`).
-/

namespace SysReg

/-- The bits from `low` to `high`, both included. -/
structure BitRange where
  high : Nat
  low : Nat
  deriving DecidableEq, Repr

namespace BitRange

/-- The range of a single bit. -/
def bit (n : Nat) : BitRange :=
  ⟨n, n⟩

/-- The range names bits of a 64-bit register, the higher bound first. -/
def IsValid (b : BitRange) : Prop :=
  b.low ≤ b.high ∧ b.high ≤ 63

instance (b : BitRange) : Decidable b.IsValid :=
  inferInstanceAs (Decidable (_ ∧ _))

/-- The number of bits covered; none if the bounds are inverted. -/
def width (b : BitRange) : Nat :=
  b.high + 1 - b.low

/-- The word whose set bits are those of the range. -/
def mask (b : BitRange) : Word :=
  if 64 ≤ b.width then BitVec.allOnes 64
  else BitVec.ofNat 64 (Nat.pow 2 b.width - 1) <<< b.low

/-- The bits of the range, moved down to bit 0. -/
def extract (b : BitRange) (w : Word) : Word :=
  (w &&& b.mask) >>> b.low

/-- The ranges share a bit, if neither is inverted. -/
def Overlaps (a b : BitRange) : Prop :=
  a.low ≤ b.high ∧ b.low ≤ a.high

instance (a b : BitRange) : Decidable (a.Overlaps b) :=
  inferInstanceAs (Decidable (_ ∧ _))

/-- The spelling `[high:low]`, or `[n]` for a single bit. -/
def text (b : BitRange) : String :=
  if b.high = b.low then "[" ++ Numeral.decimal b.low ++ "]"
  else "[" ++ Numeral.decimal b.high ++ ":" ++ Numeral.decimal b.low ++ "]"

/-- The spelling with both bounds, also for a single bit. -/
def bounds (b : BitRange) : String :=
  "[" ++ Numeral.decimal b.high ++ ":" ++ Numeral.decimal b.low ++ "]"

/-! ## Bits of a mask and of a part -/

theorem getLsbD_mask {b : BitRange} (h : b.IsValid) (k : Nat) :
    b.mask.getLsbD k = decide (b.low ≤ k ∧ k ≤ b.high) := by
  obtain ⟨hl, hh⟩ := h
  unfold mask width
  split
  · next hw =>
    rw [BitVec.getLsbD_allOnes]
    congr 1
    exact propext ⟨fun _ => by omega, fun _ => by omega⟩
  · rw [BitVec.getLsbD_shiftLeft, BitVec.getLsbD_ofNat, Nat.pow_eq, Nat.testBit_two_pow_sub_one]
    by_cases h1 : b.low ≤ k <;> by_cases h2 : k ≤ b.high <;> simp [h1, h2] <;> omega

theorem getLsbD_extract {b : BitRange} (h : b.IsValid) (w : Word) (k : Nat) :
    (b.extract w).getLsbD k = (decide (k < b.width) && w.getLsbD (b.low + k)) := by
  unfold extract
  rw [BitVec.getLsbD_ushiftRight, BitVec.getLsbD_and, getLsbD_mask h, Bool.and_comm]
  congr 1
  obtain ⟨hl, hh⟩ := h
  unfold width
  congr 1
  exact propext ⟨fun _ => by omega, fun _ => by omega⟩

end BitRange
end SysReg
