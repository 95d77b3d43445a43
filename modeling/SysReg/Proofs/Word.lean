import Mathlib.Data.Bool.Basic
import Mathlib.Tactic.Lemma
import SysReg.Proofs.Text.Numeral
import SysReg.Word

/-!
# Register values

The union of words has the bits that some of them have, their intersection the bits that all of them
have.  Words are compared bit by bit, so that what holds of each bit of a union is never followed
through the order in which it was formed.

A value is spelled in hexadecimal, padded or not, and as a decimal numeral.  `Word.SpeltBy` is what
the readers of hexadecimal values rely on, so that each of them is followed once for both widths.
-/

/-! ## Bits of several words -/

namespace SysReg.Word

variable {words : List Word} {x y : Word} {k : Nat}

/-- The bits that some word has. -/
def union (words : List Word) : Word :=
  words.foldl (· ||| ·) 0

/-- The bits that every word has. -/
def intersection (words : List Word) : Word :=
  words.foldl (· &&& ·) (BitVec.allOnes 64)

lemma eq_of_getLsbD_iff (h : ∀ k, x.getLsbD k = true ↔ y.getLsbD k = true) : x = y :=
  BitVec.eq_of_getLsbD_eq fun k _ => Bool.eq_iff_iff.2 (h k)

lemma getLsbD_xor_iff : (x ^^^ y).getLsbD k = true ↔ x.getLsbD k ≠ y.getLsbD k := by
  rw [BitVec.getLsbD_xor, Bool.xor_iff_ne]

lemma getLsbD_union_iff : (union words).getLsbD k = true ↔ ∃ w ∈ words, w.getLsbD k = true := by
  have hfold (start : Word) : (words.foldl (· ||| ·) start).getLsbD k = true ↔
      start.getLsbD k = true ∨ ∃ w ∈ words, w.getLsbD k = true := by
    induction words generalizing start with
    | nil => simp
    | cons w words ih =>
      simp only [List.foldl_cons, ih, BitVec.getLsbD_or, Bool.or_eq_true, or_assoc, List.mem_cons,
        exists_eq_or_imp]
  rw [union, hfold]
  simp

/-- A union is zero if all that it is made of is. -/
lemma union_eq_zero_iff : union words = 0 ↔ ∀ w ∈ words, w = 0 := by
  have hzero (w : Word) : w = 0 ↔ ∀ k, ¬w.getLsbD k = true := by
    constructor
    · rintro rfl k
      simp
    · exact fun h => eq_of_getLsbD_iff fun k => by simp [h k]
  simp only [hzero, getLsbD_union_iff]
  exact ⟨fun h w hw k hk => h k ⟨w, hw, hk⟩, fun h k ⟨w, hw, hk⟩ => h w hw k hk⟩

lemma getLsbD_intersection_iff :
    (intersection words).getLsbD k = true ↔ k < 64 ∧ ∀ w ∈ words, w.getLsbD k = true := by
  have hfold (start : Word) : (words.foldl (· &&& ·) start).getLsbD k = true ↔
      start.getLsbD k = true ∧ ∀ w ∈ words, w.getLsbD k = true := by
    induction words generalizing start with
    | nil => simp
    | cons w words ih =>
      rw [List.foldl_cons, ih, BitVec.getLsbD_and, Bool.and_eq_true, and_assoc,
        List.forall_mem_cons]
  rw [intersection, hfold, BitVec.getLsbD_allOnes, decide_eq_true_eq]

/-! ## Numerals -/

/-- Every numeral of a value stays below the limit of its readers. -/
lemma toNat_lt_count (w : Word) : w.toNat < count :=
  w.isLt

lemma ofNumeral_eq_ok {w : Word} {base : Nat} {cs : List Char}
    (h : Numeral.readBelow base count cs = .ok w.toNat) : ofNumeral base cs = .ok w := by
  rw [ofNumeral, h, Except.map, BitVec.ofNat_toNat, BitVec.setWidth_eq]

lemma ofNumeral_decimal (w : Word) : ofNumeral 10 (Nat.toDigits 10 w.toNat) = .ok w := by
  have hplus : (Nat.toDigits 10 w.toNat).head? ≠ some '+' := fun h =>
    Numeral.not_mem_decimal (by decide) (List.mem_of_mem_head? h)
  apply ofNumeral_eq_ok
  rw [Numeral.readBelow_eq_continueBelow Nat.toDigits_ne_nil hplus,
    Numeral.continueBelow_toDigits (by decide) (by decide) w.toNat_lt_count]

/-! ## Hexadecimal spellings -/

/-- The digits spell the value in hexadecimal, with any number of zeros in front. -/
structure SpeltBy (w : Word) (digits : List Char) : Prop where
  nonempty : digits ≠ []
  hex : ∀ c ∈ digits, Numeral.isHexDigit c = true
  value : ofNumeral 16 digits = .ok w

lemma speltBy_leftpad (w : Word) (width : Nat) :
    w.SpeltBy ((Nat.toDigits 16 w.toNat).leftpad width '0') where
  nonempty := Numeral.leftpad_toDigits_ne_nil
  hex _ := Numeral.of_mem_leftpad (by decide) fun _ => Numeral.isHexDigit_of_mem_toDigits
  value := ofNumeral_eq_ok (Numeral.readBelow_leftpad_hex w.toNat_lt_count)

/-- The two ways in which the value is written in hexadecimal. -/
def hexSpellings (w : Word) : List String :=
  [w.padded, w.compact]

/-- Both begin alike and are told apart by the zeros in front. -/
lemma exists_speltBy {w : Word} {hex : String} (h : hex ∈ w.hexSpellings) :
    ∃ digits, hex.toList = '0' :: 'x' :: digits ∧ w.SpeltBy digits := by
  simp only [hexSpellings, List.mem_cons, List.not_mem_nil, or_false] at h
  rcases h with rfl | rfl
  · exact ⟨_, Numeral.toList_hex64 _, w.speltBy_leftpad 16⟩
  · refine ⟨_, Numeral.toList_hex _, ?_⟩
    simpa [List.leftpad] using w.speltBy_leftpad 0

end SysReg.Word
