import SysReg.Encoding.Notation
import SysReg.Proofs.Text.Numeral

/-!
# The canonical notation read back

The five pieces of `s3_0_c15_c0_0` are decimal numerals, the letters in front of some of them aside,
so that no piece holds an underscore and splitting gives back the pieces that were joined.  That is so
of any five numbers in this notation (`splitOn_canonicalText`), of which the components of an encoding
are a case.  `ofCanonical_canonical` reads the canonical spelling of every encoding of a system
register as that encoding.
-/

namespace SysReg

/-! ## Components -/

/-- All components, in their order. -/
def Component.all : List Component :=
  [op0, op1, crn, crm, op2]

lemma Component.mem_all (c : Component) : c ∈ all := by
  cases c <;> decide

/-- The letter in front of a component in the canonical notation. -/
def Component.letter? : Component → Option Char
  | op0 => some 's'
  | crn | crm => some 'c'
  | op1 | op2 => none

lemma isCanonicalNumeral_toDigits (n : Nat) :
    Encoding.isCanonicalNumeral (Nat.toDigits 10 n) = true := by
  have hdigits : (Nat.toDigits 10 n).all Char.isDigit = true :=
    List.all_eq_true.2 fun _ => Numeral.isDigit_of_mem_decimal
  have hzero : ((Nat.toDigits 10 n).head? == some '0' &&
      decide (1 < (Nat.toDigits 10 n).length)) = false := by
    rcases Nat.eq_zero_or_pos n with rfl | hn
    · decide
    · rw [beq_false_of_ne (Numeral.head?_toDigits_ne_zero (by decide) (by decide) hn),
        Bool.false_and]
  simp [Encoding.isCanonicalNumeral, hdigits, hzero]

/-- A numeral is read as its number, brought into 64 bits. -/
lemma readNumber_toDigits (c : Component) (n : Nat) :
    Encoding.readNumber c (Nat.toDigits 10 n) = .ok (Encoding.saturate n) := by
  have hminus : ∀ digits, Nat.toDigits 10 n ≠ '-' :: digits := by
    intro digits h
    have hmem : '-' ∈ Nat.toDigits 10 n := h ▸ List.mem_cons_self
    exact Numeral.not_mem_decimal (by decide) hmem
  unfold Encoding.readNumber
  split
  · next digits h => exact absurd h (hminus digits)
  · rw [if_pos (isCanonicalNumeral_toDigits n), Nat.ofDigitChars_ten_toDigits]

lemma Component.size_le (c : Component) : c.size ≤ 16 := by
  cases c <;> decide

/-- A numeral is read as its number; the number of a component needs no saturation. -/
lemma readNumber_component (c : Component) (n : Fin c.size) :
    Encoding.readNumber c (Nat.toDigits 10 n) = .ok n.val := by
  have hn : n.val < 16 := Nat.lt_of_lt_of_le n.isLt c.size_le
  have hsaturate : Encoding.saturate n.val = n.val := by
    unfold Encoding.saturate
    omega
  rw [readNumber_toDigits, hsaturate]

lemma readLettered_component (c : Component) (letter : Char) (n : Fin c.size) :
    Encoding.readLettered c letter (letter :: Nat.toDigits 10 n) = .ok n.val := by
  rw [Encoding.readLettered, if_pos rfl, readNumber_component]

lemma Component.check_val (c : Component) (n : Fin c.size) (h : c.least ≤ n.val) :
    c.check n.val = .ok n := by
  have hle : n.val ≤ c.greatest := Nat.le_sub_one_of_lt n.isLt
  unfold Component.check
  rw [if_neg (by omega), dif_pos (by simpa using ⟨h, hle⟩)]
  rfl

/-- Any other natural number is out of range. -/
lemma Component.check_eq_error {c : Component} {n : Nat} (h : ¬(c.least ≤ n ∧ n < c.size)) :
    c.check n = .error (.outOfRange c n) := by
  have hsize := c.greatest_lt_size
  have hnot : ¬(c.least ≤ (n : Int).toNat ∧ (n : Int).toNat ≤ c.greatest) := fun hbounds =>
    h ⟨hbounds.1, Nat.lt_of_le_of_lt hbounds.2 hsize⟩
  rw [check, if_neg (by omega), dif_neg hnot]

/-! ## The whole notation -/

namespace Encoding

/-- Only `op0` can keep five components from being those of a system register. -/
lemma ofIntegers_components {e : Encoding} (h : e.isSystemRegister = true) :
    ofIntegers e.op0.val e.op1.val e.crn.val e.crm.val e.op2.val = .ok e := by
  have hop0 : 2 ≤ e.op0.val := by simpa [isSystemRegister] using h
  unfold ofIntegers
  rw [Component.op0.check_val e.op0 hop0, Component.op1.check_val e.op1 (Nat.zero_le _),
    Component.crn.check_val e.crn (Nat.zero_le _), Component.crm.check_val e.crm (Nat.zero_le _),
    Component.op2.check_val e.op2 (Nat.zero_le _)]
  rfl

/-- The numerals of five numbers, each behind the letter of its component. -/
def numerals (letter? : Component → Option Char) (op0 op1 crn crm op2 : Nat) : List (List Char) :=
  List.zipWith (fun c n => (letter? c).toList ++ Nat.toDigits 10 n) Component.all
    [op0, op1, crn, crm, op2]

/-- Five numbers in the canonical notation, be they the components of an encoding or not. -/
def canonicalText (op0 op1 crn crm op2 : Nat) : String :=
  "s" ++ Numeral.decimal op0 ++ "_" ++ Numeral.decimal op1 ++ "_c" ++ Numeral.decimal crn ++
    "_c" ++ Numeral.decimal crm ++ "_" ++ Numeral.decimal op2

lemma canonical_eq (e : Encoding) : e.canonical = canonicalText e.op0 e.op1 e.crn e.crm e.op2 :=
  rfl

/-- The underscores of the canonical notation separate the numerals. -/
lemma splitOn_canonicalText (op0 op1 crn crm op2 : Nat) :
    (canonicalText op0 op1 crn crm op2).toList.splitOn '_' =
      numerals Component.letter? op0 op1 crn crm op2 := by
  have hdigits (n : Nat) : '_' ∉ Nat.toDigits 10 n := Numeral.not_mem_decimal (by decide)
  have hpieces : ∀ piece ∈ numerals Component.letter? op0 op1 crn crm op2, '_' ∉ piece := by
    simp [numerals, Component.all, Component.letter?, hdigits]
  have hjoined : (canonicalText op0 op1 crn crm op2).toList =
      ['_'].intercalate (numerals Component.letter? op0 op1 crn crm op2) := by
    simp [canonicalText, numerals, Component.all, Component.letter?, String.toList_append]
  rw [hjoined]
  exact List.splitOn_intercalate '_' hpieces (List.cons_ne_nil _ _)

lemma splitOn_canonical (e : Encoding) : e.canonical.toList.splitOn '_' =
    ['s' :: Nat.toDigits 10 e.op0, Nat.toDigits 10 e.op1, 'c' :: Nat.toDigits 10 e.crn,
      'c' :: Nat.toDigits 10 e.crm, Nat.toDigits 10 e.op2] := by
  rw [canonical_eq]
  exact splitOn_canonicalText _ _ _ _ _

/-- Encodings with one canonical spelling are one encoding. -/
lemma canonical_injective {a b : Encoding} (h : a.canonical = b.canonical) : a = b := by
  have hpieces := congrArg (fun s : String => s.toList.splitOn '_') h
  have hdigits {m n : Nat} (hmn : Nat.toDigits 10 m = Nat.toDigits 10 n) : m = n :=
    Numeral.toDigits_injective (by decide) (by decide) hmn
  obtain ⟨a0, a1, a2, a3, a4⟩ := a
  obtain ⟨b0, b1, b2, b3, b4⟩ := b
  simp only [splitOn_canonical, List.cons.injEq, true_and, and_true] at hpieces
  obtain ⟨hop0, hop1, hcrn, hcrm, hop2⟩ := hpieces
  rw [Fin.ext (hdigits hop0), Fin.ext (hdigits hop1), Fin.ext (hdigits hcrn),
    Fin.ext (hdigits hcrm), Fin.ext (hdigits hop2)]

/-- Beside digits there are only the letters and underscores of the notation. -/
lemma not_mem_canonical {c : Char} (hdigit : c.isDigit = false) (hother : c ∉ ['s', 'c', '_'])
    (e : Encoding) : c ∉ e.canonical.toList := by
  have hdigits (n : Nat) : c ∉ Nat.toDigits 10 n := Numeral.not_mem_decimal hdigit
  simp only [List.mem_cons, List.not_mem_nil, or_false, not_or] at hother
  simp [canonical, String.toList_append, hdigits, hother]

/-- The canonical spelling of the encoding of a system register is read as the encoding. -/
theorem ofCanonical_canonical {e : Encoding} (h : e.isSystemRegister = true) :
    ofCanonical e.canonical = .ok e := by
  unfold ofCanonical
  rw [splitOn_canonical]
  simp only [readLettered_component .op0 's' e.op0, readNumber_component .op1 e.op1,
    readLettered_component .crn 'c' e.crn, readLettered_component .crm 'c' e.crm,
    readNumber_component .op2 e.op2]
  exact ofIntegers_components h

end Encoding
end SysReg
