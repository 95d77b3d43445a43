import Mathlib.Algebra.GroupWithZero.Nat
import Mathlib.Logic.ExistsUnique
import Mathlib.Tactic.Lemma
import SysReg.Encoding.Basic

/-!
# The packed bits of an encoding

The move instructions hold an encoding in sixteen bits, and an encoding is nothing but these bits.
Here it is kept as its five components, with `packed` for the number that they make.  `packed_exact`
says that this is the same: every component is taken out of the number by a shift and a mask, the
number is put together from any five numbers by masks and shifts, and every number of sixteen bits is
that of one encoding.

The fields do not overlap, so that joining them is adding them (`shiftLeft_or`); with that, both
directions are arithmetic.
-/

namespace SysReg.Encoding

/-- Bits below a shifted number are added to it. -/
lemma shiftLeft_or {a b i : Nat} (h : b < 2 ^ i) : a <<< i ||| b = a * 2 ^ i + b := by
  rw [← Nat.shiftLeft_add_eq_or_of_lt h, Nat.shiftLeft_eq]

/-- Masking the low bits is taking a remainder. -/
lemma and_mask (n : Nat) : n &&& 0b11 = n % 4 ∧ n &&& 0b111 = n % 8 ∧ n &&& 0b1111 = n % 16 :=
  ⟨Nat.and_two_pow_sub_one_eq_mod n 2, Nat.and_two_pow_sub_one_eq_mod n 3,
    Nat.and_two_pow_sub_one_eq_mod n 4⟩

/-- The components as fields of the packed bits. -/
structure Fields (e : Encoding) (bits : Nat) : Prop where
  op0 : e.op0.val = bits >>> 14 &&& 0b11
  op1 : e.op1.val = bits >>> 11 &&& 0b111
  crn : e.crn.val = bits >>> 7 &&& 0b1111
  crm : e.crm.val = bits >>> 3 &&& 0b1111
  op2 : e.op2.val = bits &&& 0b111

lemma fields_packed (e : Encoding) : e.Fields e.packed := by
  obtain ⟨⟨op0, h0⟩, ⟨op1, h1⟩, ⟨crn, h2⟩, ⟨crm, h3⟩, ⟨op2, h4⟩⟩ := e
  constructor <;>
    simp only [packed, Nat.shiftRight_eq_div_pow, and_mask] <;> omega

lemma packed_truncating_eq_or (op0 op1 crn crm op2 : Nat) :
    (truncating op0 op1 crn crm op2).packed =
      (op0 &&& 0b11) <<< 14 ||| (op1 &&& 0b111) <<< 11 ||| (crn &&& 0b1111) <<< 7 |||
        (crm &&& 0b1111) <<< 3 ||| op2 &&& 0b111 := by
  simp only [and_mask, Nat.or_assoc]
  rw [shiftLeft_or (i := 3) (by omega), shiftLeft_or (i := 7) (by omega),
    shiftLeft_or (i := 11) (by omega), shiftLeft_or (i := 14) (by omega)]
  simp only [packed, truncating, Fin.ofNat]
  omega

/-- The encoding whose components are the fields of a number. -/
lemma exists_packed_eq {n : Nat} (h : n < 65536) : ∃ e : Encoding, e.packed = n := by
  refine ⟨truncating (n >>> 14) (n >>> 11) (n >>> 7) (n >>> 3) n, ?_⟩
  simp only [packed, truncating, Fin.ofNat, Nat.shiftRight_eq_div_pow]
  omega

/-- **An encoding is its packed bits.**  Its components are fields of sixteen bits, two for `op0`, three
for `op1`, four for each of the next two and three for `op2`, from the uppermost down; numbers are cut
to these fields where they are not checked; and every number of sixteen bits, and no other, is that of
exactly one encoding. -/
theorem packed_exact :
    (∀ e : Encoding, e.Fields e.packed) ∧
    (∀ op0 op1 crn crm op2 : Nat, (truncating op0 op1 crn crm op2).packed =
      (op0 &&& 0b11) <<< 14 ||| (op1 &&& 0b111) <<< 11 ||| (crn &&& 0b1111) <<< 7 |||
        (crm &&& 0b1111) <<< 3 ||| op2 &&& 0b111) ∧
    ∀ n, (∃! e : Encoding, e.packed = n) ↔ n < 65536 := by
  refine ⟨fields_packed, packed_truncating_eq_or, fun n => ⟨?_, fun h => ?_⟩⟩
  · rintro ⟨e, rfl, -⟩
    exact e.packed_lt
  · obtain ⟨e, rfl⟩ := exists_packed_eq h
    exact ⟨e, rfl, fun e' h' => packed_injective h'⟩

end SysReg.Encoding
