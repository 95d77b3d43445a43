import Mathlib.Data.Int.ModEq
import SysReg.Proofs.Decoding
import SysReg.Proofs.Encoding.Spelling
import SysReg.Proofs.Text.Digits

/-!
# Signed fields

A signed field reads as the integer that its bits stand for in two's complement, and behind it as
the hexadecimal numeral of the bits themselves (`Field.signed_exact`).

Decoding looks at the highest bit of the field and subtracts.  `StandsFor` does not mention this bit:
of the integers congruent to the sub-value it takes the one in the signed range of the width.  There
is one such integer and no second one, since the range is as long as the modulus
(`StandsFor.unique`).  The bit comes in only where decoding is shown to find that integer
(`standsFor_twosComplement`).  Numerals are likewise described by their digits, with `Spells`.
-/

namespace SysReg

/-! ## Numerals as they are written -/

namespace Numeral

variable {b n : Nat}

/-- The text is the numeral of the number as reports write it: in lower case, and without a zero in
front. -/
structure Spells (b : Nat) (cs : List Char) (n : Nat) : Prop where
  denotes : Denotes b cs n
  lower : ∀ c ∈ cs, c.toLower = c
  plain : cs.head? = some '0' → cs = ['0']

/-- The text is the decimal numeral of the integer, with a minus sign in front of a negative one. -/
inductive SpellsInteger : List Char → Int → Prop
  | natural {digits : List Char} {n : Nat} (h : Spells 10 digits n) : SpellsInteger digits n
  | negative {digits : List Char} {n : Nat} (h : Spells 10 digits n) (hn : n ≠ 0) :
      SpellsInteger ('-' :: digits) (-n)

lemma toLower_of_mem_toDigits (hb : 1 < b) (hb' : b ≤ 16) {c : Char}
    (hc : c ∈ Nat.toDigits b n) : c.toLower = c := by
  have hdigit : ∀ d < 16, (Nat.digitChar d).toLower = Nat.digitChar d := by decide
  induction n using Nat.base_induction b hb with
  | single m hm =>
    rw [Nat.toDigits_of_lt_base hm, List.mem_singleton] at hc
    exact hc ▸ hdigit m (Nat.lt_of_lt_of_le hm hb')
  | digit m k hk hm ih =>
    rw [← Nat.toDigits_append_toDigits hb hm hk, List.mem_append, Nat.toDigits_of_lt_base hk,
      List.mem_singleton] at hc
    rcases hc with hc | rfl
    · exact ih hc
    · exact hdigit k (Nat.lt_of_lt_of_le hk hb')

lemma spells_toDigits (hb : 1 < b) (hb' : b ≤ 16) (n : Nat) : Spells b (Nat.toDigits b n) n where
  denotes := by
    have hread := continueBelow_toDigits hb hb' n.lt_succ_self
    rw [continueBelow_eq_ok_iff_denotes (by omega) n.succ_pos Nat.toDigits_ne_nil] at hread
    exact hread.2
  lower _ := toLower_of_mem_toDigits hb hb'
  plain h := by
    rcases Nat.eq_zero_or_pos n with rfl | hn
    · exact Nat.toDigits_zero b
    · exact absurd h (head?_toDigits_ne_zero hb hb' hn)

lemma spellsInteger_signedDecimal (n : Int) : SpellsInteger (signedDecimal n).toList n := by
  cases n with
  | ofNat n =>
    rw [Int.ofNat_eq_natCast, toList_signedDecimal_natCast]
    exact .natural (spells_toDigits (by decide) (by decide) n)
  | negSucc n =>
    rw [toList_signedDecimal_negSucc]
    exact .negative (spells_toDigits (by decide) (by decide) (n + 1)) n.succ_ne_zero

end Numeral

/-! ## Two's complement -/

/-- The integer is what so many bits stand for in two's complement: it is congruent to the number
that they form, and lies in the signed range of their width. -/
structure StandsFor (width value : Nat) (n : Int) : Prop where
  least : -2 ^ (width - 1) ≤ n
  most : n < 2 ^ (width - 1)
  congruent : n ≡ value [ZMOD 2 ^ width]

section TwosComplement

variable {width value : Nat} {raw : Word}

/-- The signed range is as long as the modulus, so that it holds no two congruent integers. -/
lemma StandsFor.unique (hw : 1 ≤ width) {m n : Int} (hm : StandsFor width value m)
    (hn : StandsFor width value n) : m = n := by
  have hlength : (2 : Int) ^ (width - 1) + 2 ^ (width - 1) = 2 ^ width := by
    exact_mod_cast Nat.two_pow_pred_add_two_pow_pred hw
  have hdvd : (2 : Int) ^ width ∣ m - n := (hn.congruent.trans hm.congruent.symm).dvd
  have hsmall : |m - n| < 2 ^ width := by
    rw [abs_lt, ← hlength]
    have := hm.least
    have := hm.most
    have := hn.least
    have := hn.most
    constructor <;> linarith
  exact sub_eq_zero.1 (Int.eq_zero_of_abs_lt_dvd hdvd hsmall)

/-- The highest bit of a sub-value is set if the sub-value is in the upper half of what fits. -/
lemma getLsbD_top_iff (hw : 1 ≤ width) (h : raw.toNat < 2 ^ width) :
    raw.getLsbD (width - 1) = true ↔ 2 ^ (width - 1) ≤ raw.toNat := by
  rw [← BitVec.testBit_toNat]
  constructor
  · intro hbit
    by_contra hlow
    rw [Nat.testBit_eq_false_of_lt (Nat.not_le.1 hlow)] at hbit
    exact Bool.false_ne_true hbit
  · intro hhigh
    refine Nat.testBit_of_two_pow_le_and_two_pow_add_one_gt hhigh ?_
    rwa [Nat.sub_add_cancel hw]

lemma standsFor_twosComplement (hw : 1 ≤ width) (hw' : width ≤ 64) (h : raw.toNat < 2 ^ width) :
    StandsFor width raw.toNat (twosComplement width raw) := by
  have hlength := Nat.two_pow_pred_add_two_pow_pred hw
  have hpos : (0 : Int) < 2 ^ (width - 1) := by positivity
  by_cases hbit : raw.getLsbD (width - 1) = true
  · have hhigh := (getLsbD_top_iff hw h).1 hbit
    have hcast : ((Nat.pow 2 width : Nat) : Int) = 2 ^ width := Nat.cast_pow 2 width
    rw [twosComplement, if_pos ⟨hw, hw', hbit⟩, hcast]
    zify at h hhigh hlength
    exact ⟨by linarith, by linarith, Int.modEq_iff_dvd.2 ⟨1, by ring⟩⟩
  · have hlow : raw.toNat < 2 ^ (width - 1) :=
      Nat.not_le.1 fun hhigh => hbit ((getLsbD_top_iff hw h).2 hhigh)
    rw [twosComplement, if_neg fun hall => hbit hall.2.2]
    zify at hlow
    exact ⟨by linarith [Int.natCast_nonneg raw.toNat], hlow, Int.ModEq.refl _⟩

end TwosComplement

/-! ## The text of a signed field -/

namespace Field

/-- The text is the numeral of the integer, with the hexadecimal numeral of the sub-value behind it
in brackets. -/
def ReadsAs (text : String) (n : Int) (raw : Word) : Prop :=
  ∃ number digits, text.toList = number ++ " (0x".toList ++ digits ++ ")".toList ∧
    Numeral.SpellsInteger number n ∧ Numeral.Spells 16 digits raw.toNat

lemma readsAs_withHex (n : Int) (raw : Word) :
    ReadsAs (withHex (Numeral.signedDecimal n) raw) n raw := by
  refine ⟨(Numeral.signedDecimal n).toList, Nat.toDigits 16 raw.toNat, ?_,
    Numeral.spellsInteger_signedDecimal n, Numeral.spells_toDigits (by decide) (by decide) _⟩
  simp [withHex, String.toList_append, Word.compact, Numeral.toList_hex]

/-- **A signed field reads as the two's complement of its bits.**  Whatever the width of the field,
from one bit to all 64, and whatever the value of the register, decoding gives the sub-value, one
integer stands for it, and the text is the numeral of that integer with the sub-value in hexadecimal
behind it. -/
theorem signed_exact {f : Field} (hkind : f.kind = .signed) (hvalid : f.bits.IsValid)
    (register : String) (value : Word) :
    1 ≤ f.bits.width ∧ f.bits.width ≤ 64 ∧
      ∃ part, f.decode register value = .ok part ∧ part.label = f.label ∧ part.bits = f.bits ∧
        part.raw.toNat = value.toNat / 2 ^ f.bits.low % 2 ^ f.bits.width ∧
        ∃ n, StandsFor f.bits.width part.raw.toNat n ∧
          (∀ m, StandsFor f.bits.width part.raw.toNat m → m = n) ∧
          ReadsAs part.text n part.raw := by
  have hwidth : 1 ≤ f.bits.width ∧ f.bits.width ≤ 64 := by
    obtain ⟨hordered, hhigh⟩ := hvalid
    unfold BitRange.width
    omega
  have hraw := BitRange.toNat_extract hvalid value
  have hsmall : (f.bits.extract value).toNat < 2 ^ f.bits.width := by
    rw [hraw]
    exact Nat.mod_lt _ (Nat.two_pow_pos _)
  have hstands := standsFor_twosComplement hwidth.1 hwidth.2 hsmall
  have htext : (f.part value).text =
      withHex (Numeral.signedDecimal (twosComplement f.bits.width (f.bits.extract value)))
        (f.bits.extract value) := by
    simp only [part, render, hkind]
  refine ⟨hwidth.1, hwidth.2, f.part value, if_pos hvalid, rfl, rfl, hraw, _, hstands,
    fun m hm => hm.unique hwidth.1 hstands, ?_⟩
  rw [htext]
  exact readsAs_withHex _ _

/-- A field of all 64 bits reaches the least integer of the register, and a field of one bit reads as
minus one if the bit is set. -/
theorem signed_exact_least :
    ∃ whole bit : Field, whole.kind = .signed ∧ bit.kind = .signed ∧
      whole.bits.IsValid ∧ bit.bits.IsValid ∧ whole.bits.width = 64 ∧ bit.bits.width = 1 ∧
      (∃ part, whole.decode "PMC0" 0x8000000000000000 = .ok part ∧
        ReadsAs part.text (-9223372036854775808) 0x8000000000000000) ∧
      ∃ part, bit.decode "PMC0" 0x8000000000000000 = .ok part ∧ ReadsAs part.text (-1) 1 := by
  refine ⟨⟨⟨63, 0⟩, "Offset", .signed⟩, ⟨⟨63, 63⟩, "Sign", .signed⟩, rfl, rfl, by decide, by decide,
    rfl, rfl, ?_, ?_⟩
  · obtain ⟨-, -, part, hpart, -, -, hraw, n, -, honly, htext⟩ :=
      @signed_exact ⟨⟨63, 0⟩, "Offset", .signed⟩ rfl (by decide) "PMC0" 0x8000000000000000
    have hword : part.raw = 0x8000000000000000 := BitVec.eq_of_toNat_eq (hraw.trans (by decide))
    have hleast : StandsFor 64 part.raw.toNat (-9223372036854775808) := by
      rw [hword]
      exact ⟨by decide, by decide, by decide⟩
    rw [← honly _ hleast, hword] at htext
    exact ⟨part, hpart, htext⟩
  · obtain ⟨-, -, part, hpart, -, -, hraw, n, -, honly, htext⟩ :=
      @signed_exact ⟨⟨63, 63⟩, "Sign", .signed⟩ rfl (by decide) "PMC0" 0x8000000000000000
    have hword : part.raw = 1 := BitVec.eq_of_toNat_eq (hraw.trans (by decide))
    have hminus : StandsFor 1 part.raw.toNat (-1) := by
      rw [hword]
      exact ⟨by decide, by decide, by decide⟩
    rw [← honly _ hminus, hword] at htext
    exact ⟨part, hpart, htext⟩

end Field
end SysReg
