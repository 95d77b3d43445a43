import SysReg.Proofs.Encoding.Notation
import SysReg.Proofs.Result

/-!
# The canonical notation has one spelling

The strict reader takes the canonical spelling of an encoding and no other text
(`ofCanonical_eq_ok_iff`).  What keeps a second spelling out is a component at a time: a text that
is read as a number is the decimal spelling of an integer (`readNumber_eq_ok_iff`), and an integer
that lies in the bounds of a component is the one that was spelled, since bringing an integer into
64 bits carries none into these bounds.
-/

namespace SysReg

/-! ## Numbers -/

namespace Numeral

@[simp] lemma toList_signedDecimal_natCast (n : Nat) :
    (signedDecimal n).toList = Nat.toDigits 10 n :=
  toList_decimal n

@[simp] lemma toList_signedDecimal_negSucc (n : Nat) :
    (signedDecimal (Int.negSucc n)).toList = '-' :: Nat.toDigits 10 (n + 1) := by
  simp [signedDecimal, String.toList_append]

end Numeral

namespace Encoding

lemma eq_toDigits_of_isCanonicalNumeral {digits : List Char}
    (h : isCanonicalNumeral digits = true) :
    digits = Nat.toDigits 10 (Nat.ofDigitChars 10 digits 0) := by
  simp only [isCanonicalNumeral, Bool.and_eq_true, Bool.not_eq_true', List.isEmpty_eq_false_iff,
    List.all_eq_true, Bool.and_eq_false_imp, beq_iff_eq, decide_eq_false_iff_not,
    Nat.not_lt] at h
  obtain ⟨⟨hne, hdigits⟩, hzero⟩ := h
  refine (Numeral.toDigits_ofDigitChars hne hdigits fun hhead => ?_).symm
  obtain ⟨rest, rfl⟩ := List.head?_eq_some_iff.1 hhead
  have hrest : rest = [] := by simpa using hzero hhead
  rw [hrest]

/-- A number is read exactly from the decimal spelling of an integer, which is brought into 64
bits. -/
lemma readNumber_eq_ok_iff {c : Component} {text : List Char} {value : Int} :
    readNumber c text = .ok value ↔
      ∃ n : Int, text = (Numeral.signedDecimal n).toList ∧ value = saturate n := by
  constructor
  · intro h
    unfold readNumber at h
    split at h
    · next digits =>
      split at h
      · next hspelt =>
        rw [Bool.and_eq_true, bne_iff_ne] at hspelt
        have hdigits := eq_toDigits_of_isCanonicalNumeral hspelt.1
        -- A minus sign in front of zero is refused, so the number is negative.
        cases hn : Nat.ofDigitChars 10 digits 0 with
        | zero =>
          rw [hn] at hdigits
          exact absurd hdigits hspelt.2
        | succ n =>
          rw [hn] at h hdigits
          refine ⟨Int.negSucc n, ?_, (Except.ok.inj h).symm⟩
          rw [Numeral.toList_signedDecimal_negSucc, ← hdigits]
      · cases h
    · split at h
      · next hspelt =>
        refine ⟨Nat.ofDigitChars 10 text 0, ?_, (Except.ok.inj h).symm⟩
        rw [Numeral.toList_signedDecimal_natCast, ← eq_toDigits_of_isCanonicalNumeral hspelt]
      · cases h
  · rintro ⟨n, rfl, rfl⟩
    cases n with
    | ofNat n =>
      rw [Int.ofNat_eq_natCast, Numeral.toList_signedDecimal_natCast]
      exact readNumber_toDigits c n
    | negSucc n =>
      have hzero : Nat.toDigits 10 (n + 1) ≠ ['0'] := by
        intro h
        have hhead := Numeral.head?_toDigits_ne_zero (b := 10) (by decide) (by decide) n.succ_pos
        rw [h] at hhead
        exact hhead rfl
      have hspelt : (isCanonicalNumeral (Nat.toDigits 10 (n + 1)) &&
          Nat.toDigits 10 (n + 1) != ['0']) = true := by
        rw [isCanonicalNumeral_toDigits, Bool.true_and, bne_iff_ne]
        exact hzero
      rw [Numeral.toList_signedDecimal_negSucc, readNumber, if_pos hspelt,
        Nat.ofDigitChars_ten_toDigits]
      rfl

lemma check_eq_ok_iff {c : Component} {value : Int} {n : Fin c.size} :
    c.check value = .ok n ↔ value = n.val ∧ c.least ≤ n.val := by
  constructor
  · intro h
    unfold Component.check at h
    split at h
    · cases h
    · next hneg =>
      split at h
      · next hbounds =>
        cases h
        exact ⟨(Int.toNat_of_nonneg (Int.not_lt.1 hneg)).symm, hbounds.1⟩
      · cases h
  · rintro ⟨rfl, hleast⟩
    exact c.check_val n hleast

end Encoding

namespace Component

variable {c : Component} {v : Int}

/-- The number lies in the bounds of the component. -/
def Admits (c : Component) (n : Int) : Prop :=
  c.least ≤ n ∧ n ≤ c.greatest

lemma admits_natCast_iff {n : Nat} : c.Admits n ↔ c.least ≤ n ∧ n < c.size := by
  have hgreatest : c.greatest = c.size - 1 := rfl
  have hsize := c.greatest_lt_size
  unfold Admits
  omega

/-- A number is taken for a component exactly if it lies in its bounds. -/
lemma exists_check_eq_ok_iff : (∃ k, c.check v = .ok k) ↔ c.Admits v := by
  constructor
  · rintro ⟨k, hk⟩
    obtain ⟨rfl, hleast⟩ := Encoding.check_eq_ok_iff.1 hk
    exact admits_natCast_iff.2 ⟨hleast, k.isLt⟩
  · intro hadmits
    have hnonneg : 0 ≤ v := Int.le_trans (Int.natCast_nonneg _) hadmits.1
    obtain ⟨k, rfl⟩ := Int.eq_ofNat_of_zero_le hnonneg
    obtain ⟨hleast, hlt⟩ := admits_natCast_iff.1 hadmits
    exact ⟨⟨k, hlt⟩, c.check_val ⟨k, hlt⟩ hleast⟩

end Component

namespace Encoding

/-- A text that is read as a number within the bounds of a component is the numeral of the
component: what lies outside 64 bits is not brought into these bounds. -/
lemma eq_toDigits_of_readNumber {c : Component} {text : List Char} {value : Int} {n : Fin c.size}
    (hread : readNumber c text = .ok value) (hcheck : c.check value = .ok n) :
    text = Nat.toDigits 10 n := by
  have hn : n.val < 16 := Nat.lt_of_lt_of_le n.isLt c.size_le
  obtain ⟨hvalue, -⟩ := check_eq_ok_iff.1 hcheck
  obtain ⟨spelt, rfl, hsaturate⟩ := readNumber_eq_ok_iff.1 hread
  have hspelt : spelt = (n.val : Int) := by
    unfold saturate at hsaturate
    omega
  rw [hspelt, Numeral.toList_signedDecimal_natCast]

lemma eq_cons_of_readLettered {c : Component} {letter : Char} {text : List Char} {value : Int}
    (h : readLettered c letter text = .ok value) :
    ∃ rest, text = letter :: rest ∧ readNumber c rest = .ok value := by
  unfold readLettered at h
  split at h
  · next first rest =>
    split at h
    · next hfirst => exact ⟨rest, hfirst ▸ rfl, h⟩
    · cases h
  · cases h

/-! ## The whole notation -/

/-- Five integers are the components of an encoding exactly if each lies in its bounds. -/
lemma ofIntegers_eq_ok_iff {op0 op1 crn crm op2 : Int} {e : Encoding} :
    ofIntegers op0 op1 crn crm op2 = .ok e ↔
      Component.op0.check op0 = .ok e.op0 ∧ Component.op1.check op1 = .ok e.op1 ∧
        Component.crn.check crn = .ok e.crn ∧ Component.crm.check crm = .ok e.crm ∧
        Component.op2.check op2 = .ok e.op2 := by
  unfold ofIntegers
  simp only [bind_eq_ok_iff]
  constructor
  · rintro ⟨_, h0, _, h1, _, h2, _, h3, _, h4, ⟨⟩⟩
    exact ⟨h0, h1, h2, h3, h4⟩
  · rintro ⟨h0, h1, h2, h3, h4⟩
    exact ⟨_, h0, _, h1, _, h2, _, h3, _, h4, rfl⟩

lemma isSystemRegister_of_ofIntegers {op0 op1 crn crm op2 : Int} {e : Encoding}
    (h : ofIntegers op0 op1 crn crm op2 = .ok e) : e.isSystemRegister = true :=
  decide_eq_true (check_eq_ok_iff.1 (ofIntegers_eq_ok_iff.1 h).1).2

/-- What the strict reader takes is the canonical spelling of what it gives. -/
lemma eq_canonical_of_ofCanonical {text : String} {e : Encoding} (h : ofCanonical text = .ok e) :
    e.isSystemRegister = true ∧ text = e.canonical := by
  unfold ofCanonical at h
  split at h
  · next op0 op1 crn crm op2 hsplit =>
    simp only [bind_eq_ok_iff] at h
    obtain ⟨v0, h0, v1, h1, v2, h2, v3, h3, v4, h4, hparts⟩ := h
    obtain ⟨c0, c1, c2, c3, c4⟩ := ofIntegers_eq_ok_iff.1 hparts
    obtain ⟨digits0, rfl, h0⟩ := eq_cons_of_readLettered h0
    obtain ⟨digits2, rfl, h2⟩ := eq_cons_of_readLettered h2
    obtain ⟨digits3, rfl, h3⟩ := eq_cons_of_readLettered h3
    have hpieces : text.toList.splitOn '_' = e.canonical.toList.splitOn '_' := by
      rw [hsplit, splitOn_canonical, eq_toDigits_of_readNumber h0 c0, eq_toDigits_of_readNumber h1 c1,
        eq_toDigits_of_readNumber h2 c2, eq_toDigits_of_readNumber h3 c3,
        eq_toDigits_of_readNumber h4 c4]
    refine ⟨isSystemRegister_of_ofIntegers hparts, String.toList_inj.1 ?_⟩
    have hjoined : ['_'].intercalate (text.toList.splitOn '_') = text.toList :=
      List.intercalate_splitOn '_'
    rw [← hjoined, hpieces, List.intercalate_splitOn]
  · cases h

/-- **An encoding has one canonical spelling.**  The strict reader takes a text as an encoding
exactly if the encoding is that of a system register and the text is its canonical spelling,
character for character. -/
theorem ofCanonical_eq_ok_iff {text : String} {e : Encoding} :
    ofCanonical text = .ok e ↔ (e.op0 = 2 ∨ e.op0 = 3) ∧ text = e.canonical := by
  rw [← isSystemRegister_iff]
  constructor
  · exact eq_canonical_of_ofCanonical
  · rintro ⟨hsystem, rfl⟩
    exact ofCanonical_canonical hsystem

end Encoding
end SysReg
