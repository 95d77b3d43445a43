import Mathlib.Data.Nat.Bitwise
import SysReg.Catalog.Basic
import SysReg.Decoding
import SysReg.Proofs.Result

/-!
# Decoding keeps every bit

A register of a catalog decodes any value, and the parts account for all of it
(`exists_decode_splits`): each part is the number that the bits of its field form, and the parts,
moved back to their places, add up with the undocumented bits to the value.

Adding up rests on the bits lying apart.  `terms` lists the value cut by the mask of each field and
by the mask of what no field covers; these words share no bit (`pairwise_terms`) and together are
the value (`join_terms`), and words that share no bit add without a carry (`toNat_join`).
-/

namespace SysReg

/-! ## Words that lie apart -/

/-- The bits of any of the words. -/
def Word.join (words : List Word) : Word :=
  words.foldr (· ||| ·) 0

/-- Words lie apart if no bit is set in both. -/
lemma Word.and_eq_zero_iff {a b : Word} :
    a &&& b = 0 ↔ ∀ k, a.getLsbD k = true → b.getLsbD k = false := by
  have hzero (k : Nat) : (0 : Word).getLsbD k = false := BitVec.getLsbD_zero
  constructor
  · intro h k ha
    have hk : (a &&& b).getLsbD k = false := by rw [h, hzero]
    rwa [BitVec.getLsbD_and, ha, Bool.true_and] at hk
  · intro h
    apply BitVec.eq_of_getLsbD_eq
    intro k _
    rw [BitVec.getLsbD_and, hzero, Bool.and_eq_false_imp]
    exact h k

lemma Word.getLsbD_join (words : List Word) (k : Nat) :
    (join words).getLsbD k = words.any (·.getLsbD k) := by
  induction words with
  | nil => simp [join]
  | cons w words ih =>
    rw [List.any_cons, ← ih]
    exact BitVec.getLsbD_or

/-- Words that share no bit with each other add up to their join. -/
lemma Word.toNat_join {words : List Word} (h : words.Pairwise fun a b => a &&& b = 0) :
    (join words).toNat = (words.map BitVec.toNat).sum := by
  induction words with
  | nil => rfl
  | cons w words ih =>
    rw [List.pairwise_cons] at h
    have hapart : w &&& join words = 0 := by
      rw [and_eq_zero_iff]
      intro k hw
      rw [getLsbD_join, List.any_eq_false]
      intro other hother
      rw [and_eq_zero_iff.1 (h.1 other hother) k hw]
      exact Bool.false_ne_true
    have hcons : join (w :: words) = w + join words :=
      (BitVec.add_eq_or_of_and_eq_zero w (join words) hapart).symm
    rw [hcons, BitVec.toNat_add_of_and_eq_zero hapart, ih h.2, List.map_cons, List.sum_cons]

/-! ## The bits of a range -/

namespace BitRange

variable {b : BitRange}

/-- The bits of a range form the value divided by the place of the lowest one, cut to the width. -/
lemma toNat_extract (h : b.IsValid) (w : Word) :
    (b.extract w).toNat = w.toNat / 2 ^ b.low % 2 ^ b.width := by
  apply Nat.eq_of_testBit_eq
  intro k
  rw [BitVec.testBit_toNat, getLsbD_extract h, Nat.testBit_mod_two_pow, Nat.testBit_div_two_pow,
    BitVec.testBit_toNat, Nat.add_comm k]

/-- Moved back to their place, the bits of a range are those that its mask leaves. -/
lemma toNat_extract_mul (h : b.IsValid) (w : Word) :
    (b.extract w).toNat * 2 ^ b.low = (w &&& b.mask).toNat := by
  apply Nat.eq_of_testBit_eq
  intro k
  rw [Nat.testBit_mul_two_pow, BitVec.testBit_toNat, BitVec.testBit_toNat, BitVec.getLsbD_and,
    getLsbD_extract h, getLsbD_mask h]
  by_cases hk : b.low ≤ k
  · have hwidth : k - b.low < b.width ↔ k ≤ b.high := by
      unfold width
      omega
    rw [Nat.add_sub_cancel' hk]
    simp [hk, hwidth, Bool.and_comm]
  · simp [hk]

end BitRange

/-! ## The parts of a value -/

/-- What a part contributes to the value of the register. -/
def DecodedField.contribution (part : DecodedField) : Nat :=
  part.raw.toNat * 2 ^ part.bits.low

/-- The parts are those of the fields, in order, and account for each bit of the value once. -/
structure Definition.Splits (d : Definition) (value : Word) (parts : List DecodedField) :
    Prop where
  fields : List.Forall₂ (fun f part => part.label = f.label ∧ part.bits = f.bits) d.fields parts
  small : ∀ part ∈ parts, part.raw.toNat < 2 ^ part.bits.width
  raw : ∀ part ∈ parts, part.raw.toNat = value.toNat / 2 ^ part.bits.low % 2 ^ part.bits.width
  total : value.toNat =
    (d.undocumentedBits value).toNat + (parts.map DecodedField.contribution).sum
  apart : ((d.undocumentedBits value).toNat :: parts.map DecodedField.contribution).Pairwise
    fun a b => a &&& b = 0

/-- The part of a value that a field reads. -/
def Field.part (f : Field) (value : Word) : DecodedField :=
  ⟨f.label, f.bits, f.bits.extract value, f.render (f.bits.extract value)⟩

namespace Definition

variable {d : Definition}

/-- The value cut by what no field covers, and by each field. -/
def terms (d : Definition) (value : Word) : List Word :=
  d.undocumentedBits value :: d.fields.map fun f => value &&& f.bits.mask

lemma decode_eq_ok (h : ∀ f ∈ d.fields, f.bits.IsValid) (value : Word) :
    d.decode value = .ok (d.fields.map (·.part value)) := by
  rw [decode, mapM_eq_ok_iff, List.forall₂_map_right_iff, List.forall₂_same]
  intro f hf
  rw [Field.decode, if_pos (h f hf)]
  rfl

/-- The fields that read differently are those whose texts differ. -/
lemma changedFields_eq_ok (h : ∀ f ∈ d.fields, f.bits.IsValid) (before after : Word) :
    d.changedFields before after = .ok ((d.fields.filter fun f =>
      (f.part before).text != (f.part after).text).map Field.label) := by
  rw [changedFields, decode_eq_ok h, decode_eq_ok h]
  change Except.ok _ = Except.ok _
  rw [List.zip_map', List.filter_map, List.map_map]
  rfl

lemma getLsbD_documentedMask (h : ∀ f ∈ d.fields, f.bits.IsValid) (k : Nat) :
    d.documentedMask.getLsbD k = d.fields.any (·.bits.mask.getLsbD k) := by
  have hfold (fields : List Field) (covered : Word) :
      (fields.foldl (fun covered f => covered ||| f.bits.mask) covered).getLsbD k =
        (covered.getLsbD k || fields.any (·.bits.mask.getLsbD k)) := by
    induction fields generalizing covered with
    | nil => simp
    | cons f fields ih => rw [List.foldl_cons, ih, BitVec.getLsbD_or, List.any_cons, Bool.or_assoc]
  have hfilter : (d.fields.filter fun f => f.bits.IsValid) = d.fields :=
    List.filter_eq_self.2 fun f hf => decide_eq_true (h f hf)
  rw [documentedMask, hfilter, hfold]
  simp

/-- Together the terms are the value. -/
lemma join_terms (h : ∀ f ∈ d.fields, f.bits.IsValid) (value : Word) :
    Word.join (d.terms value) = value := by
  apply BitVec.eq_of_getLsbD_eq
  intro k hk
  rw [Word.getLsbD_join, terms, List.any_cons, undocumentedBits, undocumentedMask,
    BitVec.getLsbD_and, BitVec.getLsbD_not, getLsbD_documentedMask h, List.any_map]
  have hfields : d.fields.any ((·.getLsbD k) ∘ fun f => value &&& f.bits.mask) =
      (value.getLsbD k && d.fields.any (·.bits.mask.getLsbD k)) := by
    rw [List.and_any_distrib_left]
    congr 1
    funext f
    exact BitVec.getLsbD_and
  rw [hfields]
  cases value.getLsbD k <;> cases d.fields.any (·.bits.mask.getLsbD k) <;> simp [hk]

/-- No two terms share a bit: the masks of the fields lie apart, and the rest is cut by what none
of them covers. -/
lemma pairwise_terms (h : d.WellLaidOut) (value : Word) :
    (d.terms value).Pairwise fun a b => a &&& b = 0 := by
  rw [terms, List.pairwise_cons, List.pairwise_map]
  constructor
  · intro word hword
    obtain ⟨f, hf, rfl⟩ := List.mem_map.1 hword
    rw [Word.and_eq_zero_iff]
    intro k hrest
    rw [undocumentedBits, undocumentedMask, BitVec.getLsbD_and, BitVec.getLsbD_not,
      getLsbD_documentedMask h.valid, Bool.and_eq_true, Bool.and_eq_true, Bool.not_eq_true',
      List.any_eq_false] at hrest
    have hmask := Bool.eq_false_of_not_eq_true (hrest.2.2 f hf)
    rw [BitVec.getLsbD_and, hmask, Bool.and_false]
  · refine h.apart.imp_of_mem fun {a b} ha hb hab => ?_
    rw [Word.and_eq_zero_iff]
    intro k hka
    rw [BitVec.getLsbD_and, BitRange.getLsbD_mask (h.valid a ha), Bool.and_eq_true,
      decide_eq_true_eq] at hka
    have hkb : ¬(b.bits.low ≤ k ∧ k ≤ b.bits.high) := fun hkb =>
      hab ⟨Nat.le_trans hka.2.1 hkb.2, Nat.le_trans hkb.1 hka.2.2⟩
    rw [BitVec.getLsbD_and, BitRange.getLsbD_mask (h.valid b hb), decide_eq_false hkb,
      Bool.and_false]

/-- The numbers of the terms are the undocumented bits and what the parts contribute. -/
lemma map_toNat_terms (h : ∀ f ∈ d.fields, f.bits.IsValid) (value : Word) :
    (d.terms value).map BitVec.toNat = (d.undocumentedBits value).toNat ::
      (d.fields.map (·.part value)).map DecodedField.contribution := by
  rw [terms, List.map_cons, List.map_map, List.map_map]
  congr 1
  exact List.map_congr_left fun f hf => (BitRange.toNat_extract_mul (h f hf) value).symm

lemma splits_parts (h : d.WellLaidOut) (value : Word) :
    d.Splits value (d.fields.map (·.part value)) where
  fields := by
    rw [List.forall₂_map_right_iff, List.forall₂_same]
    exact fun f _ => ⟨rfl, rfl⟩
  small := by
    rw [List.forall_mem_map]
    intro f hf
    rw [Field.part, BitRange.toNat_extract (h.valid f hf)]
    exact Nat.mod_lt _ (Nat.two_pow_pos _)
  raw := by
    rw [List.forall_mem_map]
    exact fun f hf => BitRange.toNat_extract (h.valid f hf) value
  total := by
    have hsum := Word.toNat_join (pairwise_terms h value)
    rwa [join_terms h.valid, map_toNat_terms h.valid, List.sum_cons] at hsum
  apart := by
    rw [← map_toNat_terms h.valid, List.pairwise_map]
    refine (pairwise_terms h value).imp fun {a b} hab => ?_
    rw [← BitVec.toNat_and, hab]
    rfl

end Definition

/-! ## Registers of a catalog -/

/-- **Decoding loses no bit.**  A register of a catalog decodes every value, and the parts account
for each of its 64 bits once. -/
theorem Catalog.exists_decode_splits (c : Catalog) {d : Definition} (hd : d ∈ c.registers)
    (value : Word) : ∃ parts, d.decode value = .ok parts ∧ d.Splits value parts := by
  have h : d.WellLaidOut := c.wellFormed.layouts d hd
  exact ⟨_, Definition.decode_eq_ok h.valid value, Definition.splits_parts h value⟩

/-- A counter that leaves bit 62 undocumented below its overflow flag. -/
def Catalog.overflowing : Catalog where
  registers := [⟨"UPMC0", .truncating 3 7 15 7 4, .uncorePerf, none,
    [.counter 61 0 "Count", .flag 63 "Overflow"]⟩]
  wellFormed := (Violation.ofList_eq_nil_iff _).1 (by decide)

/-- All bits set: the parts hold `2 ^ 62 - 1` and `1`, and bit 62 is left over. -/
theorem Catalog.overflowing_splits :
    ∃ d ∈ overflowing.registers, d.undocumentedBits (BitVec.allOnes 64) = 0x4000000000000000 ∧
      ∃ parts, d.decode (BitVec.allOnes 64) = .ok parts ∧ d.Splits (BitVec.allOnes 64) parts :=
  ⟨_, List.mem_cons_self, by decide, overflowing.exists_decode_splits List.mem_cons_self _⟩

end SysReg
