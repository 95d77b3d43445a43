import Mathlib.Data.List.DropRight
import SysReg.Proofs.Text.Numeral
import SysReg.Text.Ascii
import SysReg.Text.Blank

/-!
# Trimmed texts

Trimming splits a text into blanks, a text that neither begins nor ends with a blank, and blanks
again (`exists_eq_append_trim`), and that is the only such split (`trim_append_append`).  Case does
not matter to it, since no letter is a blank.
-/

namespace SysReg.Text

variable {cs : List Char}

/-! ## Blanks in front -/

/-- No character that ASCII prints is a blank. -/
lemma isBlank_eq_false {c : Char} (hle : 33 ≤ c.toNat) (hge : c.toNat ≤ 126) :
    isBlank c = false := by
  simp only [isBlank, Bool.or_eq_false_iff, Bool.and_eq_false_iff, decide_eq_false_iff_not,
    beq_eq_false_iff_ne]
  omega

lemma isBlank_of_isDigit {c : Char} (h : c.isDigit = true) : isBlank c = false := by
  have hc := Numeral.toNat_of_isDigit h
  exact isBlank_eq_false (by omega) (by omega)

lemma isBlank_of_isHexDigit {c : Char} (h : Numeral.isHexDigit c = true) : isBlank c = false := by
  have hc := Numeral.toNat_of_isHexDigit h
  exact isBlank_eq_false (by omega) (by omega)

lemma trimStart_cons {c : Char} (h : isBlank c = false) (cs : List Char) :
    trimStart (c :: cs) = c :: cs := by
  rw [trimStart, List.dropWhile_cons, if_neg (by simp [h])]

/-- No blank is taken off in front of a number. -/
lemma trimStart_digits {ds : List Char} (hd : ∀ c ∈ ds, c.isDigit = true) (hne : ds ≠ [])
    (rest : List Char) : trimStart (ds ++ rest) = ds ++ rest := by
  obtain ⟨c, cs, rfl⟩ := List.exists_cons_of_ne_nil hne
  exact trimStart_cons (isBlank_of_isDigit (hd c List.mem_cons_self)) _

lemma trimStart_append {before : List Char} (hbefore : ∀ c ∈ before, isBlank c = true)
    (hhead : ∀ c ∈ cs.head?, isBlank c = false) : trimStart (before ++ cs) = cs := by
  rw [trimStart, List.dropWhile_append_of_pos hbefore]
  cases cs with
  | nil => rfl
  | cons c cs => exact trimStart_cons (hhead c rfl) cs

/-! ## Blanks at both ends -/

lemma trim_eq_nil_iff : trim cs = [] ↔ ∀ c ∈ cs, isBlank c = true := by
  have hend : trim cs = [] ↔ ∀ c ∈ trimStart cs, isBlank c = true := by
    rw [trim, trimEnd, List.reverse_eq_nil_iff, trimStart, List.dropWhile_eq_nil_iff]
    simp only [List.mem_reverse]
  rw [hend, ← List.dropWhile_eq_nil_iff, trimStart, List.dropWhile_idempotent,
    List.dropWhile_eq_nil_iff]

/-- The text neither begins nor ends with a blank. -/
structure NoOuterBlank (cs : List Char) : Prop where
  head : ∀ c ∈ cs.head?, isBlank c = false
  last : ∀ c ∈ cs.getLast?, isBlank c = false

lemma noOuterBlank_cons_append {c : Char} (hc : isBlank c = false) (cs : List Char)
    {tail : List Char} (hne : tail ≠ []) (hend : ∀ d ∈ tail, isBlank d = false) :
    NoOuterBlank (c :: (cs ++ tail)) where
  head d hd := Option.mem_some.1 hd ▸ hc
  last d hd := by
    rw [← List.cons_append, List.getLast?_append_of_ne_nil _ hne] at hd
    exact hend d (List.mem_of_mem_getLast? hd)

lemma noOuterBlank_toDigits (n : Nat) : NoOuterBlank (Nat.toDigits 10 n) := by
  have hdigits : ∀ c ∈ Nat.toDigits 10 n, isBlank c = false := fun c hc =>
    isBlank_of_isDigit (Numeral.isDigit_of_mem_decimal hc)
  exact ⟨fun c hc => hdigits c (List.mem_of_mem_head? hc),
    fun c hc => hdigits c (List.mem_of_mem_getLast? hc)⟩

lemma trimEnd_append {after : List Char} (hlast : ∀ c ∈ cs.getLast?, isBlank c = false)
    (hafter : ∀ c ∈ after, isBlank c = true) : trimEnd (cs ++ after) = cs := by
  rw [trimEnd, List.reverse_append, trimStart_append (by simpa using hafter)
    (by simpa using hlast), List.reverse_reverse]

/-- Blanks around a text without outer blanks are what trimming takes away. -/
lemma trim_append_append {before after : List Char} (hbefore : ∀ c ∈ before, isBlank c = true)
    (hafter : ∀ c ∈ after, isBlank c = true) (h : NoOuterBlank cs) :
    trim (before ++ cs ++ after) = cs := by
  rcases eq_or_ne cs [] with rfl | hne
  · rw [List.append_nil, trim_eq_nil_iff]
    exact fun c hc => (List.mem_append.1 hc).elim (hbefore c) (hafter c)
  · have hhead : ∀ c ∈ (cs ++ after).head?, isBlank c = false := by
      rw [List.head?_append_of_ne_nil _ hne]
      exact h.head
    rw [trim, List.append_assoc, trimStart_append hbefore hhead, trimEnd_append h.last hafter]

lemma trim_eq_self (h : NoOuterBlank cs) : trim cs = cs := by
  simpa using @trim_append_append cs [] [] nofun nofun h

lemma isBlank_of_mem_head?_trimStart {c : Char} (h : c ∈ (trimStart cs).head?) :
    isBlank c = false := by
  have hnot := List.head?_dropWhile_not isBlank cs
  rwa [← trimStart, Option.mem_def.1 h] at hnot

/-- Trimming takes blanks away from both ends. -/
lemma exists_eq_append_trim (cs : List Char) :
    ∃ before after, (∀ c ∈ before, isBlank c = true) ∧ (∀ c ∈ after, isBlank c = true) ∧
      trimStart cs = trim cs ++ after ∧ cs = before ++ trim cs ++ after := by
  refine ⟨cs.takeWhile isBlank, ((trimStart cs).reverse.takeWhile isBlank).reverse,
    fun c => List.mem_takeWhile_imp, fun c hc => List.mem_takeWhile_imp (List.mem_reverse.1 hc), ?_⟩
  have hend : trimStart cs = trim cs ++ ((trimStart cs).reverse.takeWhile isBlank).reverse := by
    rw [trim, trimEnd, ← List.reverse_append]
    conv_rhs => rw [trimStart.eq_1 (trimStart cs).reverse, List.takeWhile_append_dropWhile]
    rw [List.reverse_reverse]
  refine ⟨hend, ?_⟩
  rw [List.append_assoc, ← hend, trimStart, List.takeWhile_append_dropWhile]

lemma noOuterBlank_trim (cs : List Char) : NoOuterBlank (trim cs) where
  head c hc := by
    obtain ⟨before, after, -, -, hstart, -⟩ := exists_eq_append_trim cs
    refine @isBlank_of_mem_head?_trimStart cs c ?_
    rw [hstart, List.head?_append, Option.mem_def.1 hc]
    rfl
  last c hc := by
    rw [trim, trimEnd, List.getLast?_reverse] at hc
    exact isBlank_of_mem_head?_trimStart hc

lemma isBlank_or_mem_trim {c : Char} (hc : c ∈ cs) : isBlank c = true ∨ c ∈ trim cs := by
  obtain ⟨before, after, hbefore, hafter, -, hcs⟩ := exists_eq_append_trim cs
  rw [hcs, List.mem_append, List.mem_append] at hc
  rcases hc with (hc | hc) | hc
  · exact .inl (hbefore c hc)
  · exact .inr hc
  · exact .inl (hafter c hc)

/-! ## Case -/

/-- A character that is no capital is in lower case already. -/
lemma toLower_eq_self {c : Char} (h : ¬(65 ≤ c.toNat ∧ c.toNat ≤ 90)) : c.toLower = c :=
  dif_neg h

lemma toNat_toLower {c : Char} (h : 65 ≤ c.toNat ∧ c.toNat ≤ 90) :
    c.toLower.toNat = c.toNat + 32 := by
  have hval : c.toLower.val = c.val + ('a'.val - 'A'.val) := congrArg Char.val (dif_pos h)
  rw [← Char.toNat_val, hval, UInt32.toNat_add, Char.toNat_val,
    (by decide : ('a'.val - 'A'.val).toNat = 32)]
  omega

lemma toLower_of_isDigit {c : Char} (h : c.isDigit = true) : c.toLower = c := by
  have hc := Numeral.toNat_of_isDigit h
  exact toLower_eq_self (by omega)

lemma isBlank_toLower (c : Char) : isBlank c.toLower = isBlank c := by
  by_cases h : 65 ≤ c.toNat ∧ c.toNat ≤ 90
  · have hlower := toNat_toLower h
    rw [@isBlank_eq_false c (by omega) (by omega), isBlank_eq_false (by omega) (by omega)]
  · rw [toLower_eq_self h]

lemma noOuterBlank_asciiLower_iff : NoOuterBlank (asciiLower cs) ↔ NoOuterBlank cs := by
  have hkeep (found : Option Char) : (∀ c ∈ found.map Char.toLower, isBlank c = false) ↔
      ∀ c ∈ found, isBlank c = false := by
    cases found <;> simp [isBlank_toLower]
  constructor
  · rintro ⟨hhead, hlast⟩
    rw [asciiLower, List.head?_map, hkeep] at hhead
    rw [asciiLower, List.getLast?_map, hkeep] at hlast
    exact ⟨hhead, hlast⟩
  · rintro ⟨hhead, hlast⟩
    constructor
    · rwa [asciiLower, List.head?_map, hkeep]
    · rwa [asciiLower, List.getLast?_map, hkeep]

/-- The text is the other one in some ASCII case, with any blanks around it. -/
def Disguises (text spelling : String) : Prop :=
  ∃ before inner after, text.toList = before ++ inner ++ after ∧
    (∀ c ∈ before, isBlank c = true) ∧ (∀ c ∈ after, isBlank c = true) ∧
    asciiLower inner = asciiLower spelling.toList

end SysReg.Text
