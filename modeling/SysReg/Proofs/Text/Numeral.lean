import Mathlib.Algebra.Group.Nat.Defs
import Mathlib.Data.List.Induction
import Mathlib.Tactic.Lemma
import SysReg.Text.Numeral

/-!
# Numerals read back

Every numeral that `Nat.toDigits` spells is read back as its number, by the decimal reader of the
core library and by `Numeral.readBelow`, and zeros in front change nothing.  A decimal numeral has
no leading zero unless it is the numeral of zero.
-/

namespace SysReg.Numeral

/-! ## Decimal numerals -/

@[simp] lemma toList_decimal (n : Nat) : (decimal n).toList = Nat.toDigits 10 n :=
  String.toList_ofList

lemma isDigit_of_mem_decimal {n : Nat} {c : Char} (hc : c ∈ Nat.toDigits 10 n) :
    c.isDigit = true :=
  Nat.isDigit_of_mem_toDigits (by decide) (by decide) hc

/-- A digit is no other character: what separates or ends a numeral is told from its digits. -/
lemma not_mem_decimal {n : Nat} {c : Char} (hc : c.isDigit = false) : c ∉ Nat.toDigits 10 n := by
  intro h
  rw [isDigit_of_mem_decimal h] at hc
  exact absurd hc (by decide)

/-- No numeral has a zero in front, but for that of zero. -/
lemma head?_toDigits_ne_zero {b n : Nat} (hb : 1 < b) (hb' : b ≤ 16) (hn : 0 < n) :
    (Nat.toDigits b n).head? ≠ some '0' := by
  induction n using Nat.base_induction b hb with
  | single m hm =>
    rw [Nat.toDigits_of_lt_base hm]
    revert hn
    exact (by decide : ∀ m < 16, 0 < m → [Nat.digitChar m].head? ≠ some '0') m
      (Nat.lt_of_lt_of_le hm hb')
  | digit m k hk hm ih =>
    obtain ⟨c, cs, hc⟩ := List.exists_cons_of_ne_nil (Nat.toDigits_ne_nil (n := m) (b := b))
    rw [← Nat.toDigits_append_toDigits hb hm hk, hc]
    rw [hc] at ih
    exact ih hm

lemma toNat_of_isDigit {c : Char} (hc : c.isDigit = true) : 48 ≤ c.toNat ∧ c.toNat ≤ 57 := by
  simpa [Char.isDigit, UInt32.le_iff_toNat_le] using hc

lemma toNat_sub_lt_ten {c : Char} (hc : c.isDigit = true) : c.toNat - '0'.toNat < 10 := by
  have hrange := toNat_of_isDigit hc
  have hzero : '0'.toNat = 48 := rfl
  omega

lemma toDigits_toNat_sub {c : Char} (hc : c.isDigit = true) :
    Nat.toDigits 10 (c.toNat - '0'.toNat) = [c] := by
  have hlt := toNat_sub_lt_ten hc
  have hvalue := (by decide : ∀ d < 10, (Nat.digitChar d).toNat = d + '0'.toNat) _ hlt
  have hchar : Nat.digitChar (c.toNat - '0'.toNat) = c :=
    Char.toNat_inj.1 (hvalue.trans (Nat.sub_add_cancel (toNat_of_isDigit hc).1))
  rw [Nat.toDigits_of_lt_base hlt, hchar]

/-- Digits without a leading zero are the spelling of their number. -/
lemma toDigits_ofDigitChars {digits : List Char} (hne : digits ≠ [])
    (hdigits : ∀ c ∈ digits, c.isDigit = true) (hzero : digits.head? = some '0' → digits = ['0']) :
    Nat.toDigits 10 (Nat.ofDigitChars 10 digits 0) = digits := by
  induction digits using List.reverseRecOn with
  | nil => exact absurd rfl hne
  | append_singleton front c ih =>
    have hc : c.isDigit = true := hdigits c (List.mem_append_right front List.mem_cons_self)
    rw [Nat.ofDigitChars_append, Nat.ofDigitChars_cons, Nat.ofDigitChars_nil]
    rcases eq_or_ne front [] with rfl | hfront
    · rw [Nat.ofDigitChars_nil, Nat.mul_zero, Nat.zero_add]
      exact toDigits_toNat_sub hc
    · have hhead : front.head? ≠ some '0' := by
        intro h
        have hwhole := hzero (by rw [List.head?_append, h]; rfl)
        rcases List.append_eq_singleton_iff.1 hwhole with ⟨hnil, -⟩ | ⟨-, hnil⟩
        · exact hfront hnil
        · exact List.cons_ne_nil c [] hnil
      have hspell := ih hfront (fun d hd => hdigits d (List.mem_append_left _ hd))
        fun h => absurd h hhead
      have hpos : 0 < Nat.ofDigitChars 10 front 0 := by
        rw [Nat.pos_iff_ne_zero]
        intro h
        rw [h] at hspell
        exact hhead (hspell ▸ rfl)
      rw [← Nat.toDigits_append_toDigits (by decide) hpos (toNat_sub_lt_ten hc), hspell,
        toDigits_toNat_sub hc]

/-! ## Zeros in front -/

/-- What holds of zero and of the digits of a number holds of the number behind zeros. -/
lemma of_mem_leftpad {P : Char → Prop} {b width n : Nat} (hzero : P '0')
    (hdigits : ∀ c ∈ Nat.toDigits b n, P c) {c : Char}
    (hc : c ∈ (Nat.toDigits b n).leftpad width '0') : P c := by
  rcases List.mem_append.1 hc with h | h
  · rw [List.eq_of_mem_replicate h]
    exact hzero
  · exact hdigits c h

lemma leftpad_toDigits_ne_nil {b width n : Nat} {a : Char} :
    (Nat.toDigits b n).leftpad width a ≠ [] :=
  List.append_ne_nil_of_right_ne_nil _ Nat.toDigits_ne_nil

lemma ofDigitChars_leftpad (width n : Nat) :
    Nat.ofDigitChars 10 ((Nat.toDigits 10 n).leftpad width '0') 0 = n := by
  rw [List.leftpad, Nat.ofDigitChars_append, Nat.ofDigitChars_replicate_zero, Nat.mul_zero,
    Nat.ofDigitChars_ten_toDigits]

/-- A number of at most `width` digits fills exactly `width` places. -/
lemma length_leftpad_toDigits {b width n : Nat} {a : Char} (hb : 1 < b) (hw : 0 < width)
    (hn : n < b ^ width) : ((Nat.toDigits b n).leftpad width a).length = width := by
  rw [List.length_leftpad]
  exact Nat.max_eq_left ((Nat.length_toDigits_le_iff hb hw).2 hn)

/-! ## Numerals with a limit -/

lemma digitValue?_digitChar {d : Nat} (hd : d < 16) : digitValue? (Nat.digitChar d) = some d :=
  (by decide : ∀ d < 16, digitValue? (Nat.digitChar d) = some d) d hd

lemma digitValue?_lt {c : Char} {d : Nat} (h : digitValue? c = some d) : d < 16 := by
  have hle (a b : Char) : a ≤ b ↔ a.toNat ≤ b.toNat := Iff.rfl
  simp only [digitValue?, hle, Char.reduceToNat] at h
  split_ifs at h <;> cases h <;> omega

lemma continueBelow_append (base limit acc : Nat) (xs ys : List Char) :
    continueBelow base limit acc (xs ++ ys) =
      (continueBelow base limit acc xs).bind fun acc => continueBelow base limit acc ys := by
  induction xs generalizing acc with
  | nil => rfl
  | cons c cs ih =>
    simp only [List.cons_append, continueBelow]
    split
    · split
      · split
        · exact ih _
        · rfl
      · rfl
    · rfl

lemma continueBelow_digitChar {b limit acc d : Nat} (hd : d < b) (hb : b ≤ 16)
    (h : b * acc + d < limit) :
    continueBelow b limit acc [Nat.digitChar d] = .ok (b * acc + d) := by
  simp only [continueBelow, digitValue?_digitChar (Nat.lt_of_lt_of_le hd hb), if_pos hd, if_pos h]

/-- The digits of a number below the limit are read as the number. -/
lemma continueBelow_toDigits {b limit n : Nat} (hb : 1 < b) (hb' : b ≤ 16) (h : n < limit) :
    continueBelow b limit 0 (Nat.toDigits b n) = .ok n := by
  induction n using Nat.base_induction b hb with
  | single m hm =>
    rw [Nat.toDigits_of_lt_base hm, continueBelow_digitChar hm hb' (by simpa using h), Nat.mul_zero,
      Nat.zero_add]
  | digit m k hk hm ih =>
    have hlt : m < limit := by
      have := Nat.le_mul_of_pos_left m (by omega : 0 < b)
      omega
    rw [← Nat.toDigits_append_toDigits hb hm hk, continueBelow_append, ih hlt,
      Nat.toDigits_of_lt_base hk]
    exact continueBelow_digitChar hk hb' h

/-- Two numbers with the same digits are one number. -/
lemma toDigits_injective {b : Nat} (hb : 1 < b) (hb' : b ≤ 16) :
    Function.Injective (Nat.toDigits b) := by
  intro m n h
  -- Both numerals are read below one limit, and reading gives the number back.
  have hm : continueBelow b (m + n + 1) 0 (Nat.toDigits b m) = .ok m :=
    continueBelow_toDigits hb hb' (by omega)
  have hn : continueBelow b (m + n + 1) 0 (Nat.toDigits b n) = .ok n :=
    continueBelow_toDigits hb hb' (by omega)
  rw [h, hn] at hm
  exact (Except.ok.inj hm).symm

lemma continueBelow_replicate_zero {b limit : Nat} (hb : 0 < b) (hl : 0 < limit) (k : Nat)
    (cs : List Char) :
    continueBelow b limit 0 (List.replicate k '0' ++ cs) = continueBelow b limit 0 cs := by
  induction k with
  | zero => rfl
  | succ k ih =>
    have hzero : digitValue? '0' = some 0 := by decide
    rw [List.replicate_succ, List.cons_append, continueBelow]
    simp only [hzero, if_pos hb, Nat.mul_zero, Nat.add_zero, if_pos hl]
    exact ih

/-- Only a plus sign in front is read otherwise than as a digit. -/
lemma readBelow_eq_continueBelow {base limit : Nat} {cs : List Char} (h : cs ≠ [])
    (hp : cs.head? ≠ some '+') : readBelow base limit cs = continueBelow base limit 0 cs := by
  match cs, h, hp with
  | c :: cs, _, hp =>
    have hc : c ≠ '+' := fun h => hp (h ▸ rfl)
    unfold readBelow
    split <;> simp_all

/-! ## Hexadecimal numerals -/

lemma toList_hex (n : Nat) : (hex n).toList = '0' :: 'x' :: Nat.toDigits 16 n := by
  simp [hex, hexDigits, String.toList_append]

lemma toList_hex64 (n : Nat) :
    (hex64 n).toList = '0' :: 'x' :: (Nat.toDigits 16 n).leftpad 16 '0' := by
  simp [hex64, hexDigits, String.toList_append]

lemma isHexDigit_digitChar {d : Nat} (hd : d < 16) : isHexDigit (Nat.digitChar d) = true := by
  rw [isHexDigit, digitValue?_digitChar hd]
  rfl

lemma toNat_of_isHexDigit {c : Char} (hc : isHexDigit c = true) :
    48 ≤ c.toNat ∧ c.toNat ≤ 102 := by
  have hle (a b : Char) : a ≤ b ↔ a.toNat ≤ b.toNat := UInt32.le_iff_toNat_le
  simp only [isHexDigit, digitValue?, hle, Char.reduceToNat] at hc
  split at hc
  · omega
  · split at hc
    · omega
    · split at hc
      · omega
      · exact absurd hc (by decide)

lemma isHexDigit_of_mem_toDigits {n : Nat} {c : Char} (hc : c ∈ Nat.toDigits 16 n) :
    isHexDigit c = true := by
  induction n using Nat.base_induction 16 (by decide) with
  | single m hm =>
    rw [Nat.toDigits_of_lt_base hm, List.mem_singleton] at hc
    exact hc ▸ isHexDigit_digitChar hm
  | digit m k hk hm ih =>
    rw [← Nat.toDigits_append_toDigits (by decide) hm hk, List.mem_append,
      Nat.toDigits_of_lt_base hk, List.mem_singleton] at hc
    rcases hc with hc | rfl
    · exact ih hc
    · exact isHexDigit_digitChar hk

/-- What is no hexadecimal digit does not stand in a numeral. -/
lemma not_mem_toDigits_hex {n : Nat} {c : Char} (hc : isHexDigit c = false) :
    c ∉ Nat.toDigits 16 n := by
  intro h
  rw [isHexDigit_of_mem_toDigits h] at hc
  exact absurd hc (by decide)

/-- A padded hexadecimal numeral below the limit is read as its number. -/
lemma readBelow_leftpad_hex {width limit n : Nat} (h : n < limit) :
    readBelow 16 limit ((Nat.toDigits 16 n).leftpad width '0') = .ok n := by
  have hplus : ((Nat.toDigits 16 n).leftpad width '0').head? ≠ some '+' := by
    intro hhead
    have hhex := of_mem_leftpad (P := (isHexDigit · = true)) (by decide)
      (fun _ => isHexDigit_of_mem_toDigits) (List.mem_of_mem_head? hhead)
    exact absurd hhex (by decide)
  rw [readBelow_eq_continueBelow leftpad_toDigits_ne_nil hplus, List.leftpad,
    continueBelow_replicate_zero (by decide) (by omega),
    continueBelow_toDigits (by decide) (by decide) h]

end SysReg.Numeral
