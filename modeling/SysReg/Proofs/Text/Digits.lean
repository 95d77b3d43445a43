import Mathlib.Data.List.Forall2
import Mathlib.Data.Nat.Digits.Defs
import SysReg.Proofs.Text.Numeral

/-!
# Numerals and the numbers they stand for

`Denotes` says which number a run of digits stands for, without a reader and without a limit.  The
readers are then exact: they take the numerals of the numbers below their limit, however many zeros
stand in front, and nothing else (`readBelow_eq_ok_iff`).

The limit is checked at every digit and not once at the end.  This makes no difference to what is
read, since a number never falls below the one that it continues (`le_continued`).
-/

namespace SysReg.Numeral

variable {base limit acc n : Nat} {cs : List Char} {ds : List Nat}

/-- The characters are digits of the base, with the given values. -/
def Values (base : Nat) (cs : List Char) (ds : List Nat) : Prop :=
  List.Forall₂ (fun c d => digitValue? c = some d ∧ d < base) cs ds

/-- The text is one or more digits of the base, which stand for the number. -/
structure Denotes (base : Nat) (cs : List Char) (n : Nat) : Prop where
  nonempty : cs ≠ []
  value : ∃ ds, Values base cs ds ∧ n = Nat.ofDigits base ds.reverse

/-- The number to which digits with the given values continue another one. -/
def continued (base acc : Nat) (ds : List Nat) : Nat :=
  ds.foldl (fun acc d => base * acc + d) acc

lemma continued_zero (base : Nat) (ds : List Nat) :
    continued base 0 ds = Nat.ofDigits base ds.reverse := by
  rw [Nat.ofDigits_eq_foldr, List.foldr_reverse, continued]
  simp only [Nat.cast_id, Nat.add_comm]

lemma le_continued (hb : 0 < base) (acc : Nat) (ds : List Nat) : acc ≤ continued base acc ds := by
  induction ds generalizing acc with
  | nil => exact Nat.le_refl acc
  | cons d ds ih =>
    have hstep : acc ≤ base * acc + d :=
      Nat.le_trans (Nat.le_mul_of_pos_left acc hb) (Nat.le_add_right _ d)
    exact Nat.le_trans hstep (ih (base * acc + d))

/-- Digits continue a number to every number below the limit, and to no other. -/
lemma continueBelow_eq_ok_iff (hb : 0 < base) (hacc : acc < limit) :
    continueBelow base limit acc cs = .ok n ↔
      n < limit ∧ ∃ ds, Values base cs ds ∧ n = continued base acc ds := by
  induction cs generalizing acc with
  | nil =>
    constructor
    · intro h
      cases h
      exact ⟨hacc, [], .nil, rfl⟩
    · rintro ⟨-, ds, hds, rfl⟩
      cases hds
      rfl
  | cons c cs ih =>
    simp only [Values, List.forall₂_cons_left_iff, continueBelow]
    cases hc : digitValue? c with
    | none => simp
    | some d =>
      by_cases hd : d < base
      · by_cases hnext : base * acc + d < limit
        · simp only [hd, hnext, if_true, ih hnext]
          constructor
          · rintro ⟨hn, ds, hds, rfl⟩
            exact ⟨hn, d :: ds, ⟨d, ds, ⟨rfl, hd⟩, hds, rfl⟩, rfl⟩
          · rintro ⟨hn, _, ⟨d', ds, ⟨hd', -⟩, hds, rfl⟩, rfl⟩
            obtain rfl := Option.some.inj hd'
            exact ⟨hn, ds, hds, rfl⟩
        · -- The number has reached the limit, and no digit brings it back below.
          simp only [hd, hnext, if_true, if_false]
          refine iff_of_false (by simp) ?_
          rintro ⟨hn, _, ⟨d', ds, ⟨hd', -⟩, -, rfl⟩, rfl⟩
          obtain rfl := Option.some.inj hd'
          exact hnext (Nat.lt_of_le_of_lt (le_continued hb _ ds) hn)
      · simp only [hd, if_false]
        refine iff_of_false (by simp) ?_
        rintro ⟨-, _, ⟨d', ds, ⟨hd', hlt⟩, -, rfl⟩, -⟩
        obtain rfl := Option.some.inj hd'
        exact hd hlt

lemma continueBelow_eq_ok_iff_denotes (hb : 0 < base) (hl : 0 < limit) (hne : cs ≠ []) :
    continueBelow base limit 0 cs = .ok n ↔ n < limit ∧ Denotes base cs n := by
  rw [continueBelow_eq_ok_iff hb hl]
  simp only [continued_zero]
  constructor
  · rintro ⟨hn, hvalue⟩
    exact ⟨hn, hne, hvalue⟩
  · rintro ⟨hn, -, hvalue⟩
    exact ⟨hn, hvalue⟩

/-- A numeral holds digits of its base only. -/
lemma Denotes.exists_digitValue? (h : Denotes base cs n) {c : Char} (hc : c ∈ cs) :
    ∃ d < base, digitValue? c = some d := by
  obtain ⟨-, ds, hds, -⟩ := h
  induction hds with
  | nil => exact absurd hc List.not_mem_nil
  | cons hvalue _ ih =>
    rcases List.mem_cons.1 hc with rfl | hc
    · exact ⟨_, hvalue.2, hvalue.1⟩
    · exact ih hc

/-- What is no digit does not stand in a numeral. -/
lemma Denotes.not_mem (h : Denotes base cs n) {c : Char} (hc : digitValue? c = none) : c ∉ cs := by
  intro hmem
  obtain ⟨d, -, hd⟩ := h.exists_digitValue? hmem
  rw [hc] at hd
  cases hd

/-- A plus sign is skipped once, in front of a digit. -/
lemma readBelow_plus_eq_ok_iff {digits : List Char} :
    readBelow base limit ('+' :: digits) = .ok n ↔
      digits ≠ [] ∧ continueBelow base limit 0 digits = .ok n := by
  cases digits with
  | nil => simp [readBelow]
  | cons c digits =>
    rw [and_iff_right (List.cons_ne_nil c digits)]
    rfl

/-- A numeral is read exactly if it stands for a number below the limit; a plus sign may stand in
front of it. -/
lemma readBelow_eq_ok_iff (hb : 0 < base) (hl : 0 < limit) :
    readBelow base limit cs = .ok n ↔
      n < limit ∧ (Denotes base cs n ∨ ∃ digits, cs = '+' :: digits ∧ Denotes base digits n) := by
  by_cases hplus : cs.head? = some '+'
  · obtain ⟨digits, rfl⟩ := List.head?_eq_some_iff.1 hplus
    have hnot : ¬Denotes base ('+' :: digits) n := fun h =>
      h.not_mem (by decide) List.mem_cons_self
    rw [readBelow_plus_eq_ok_iff]
    constructor
    · rintro ⟨hne, h⟩
      obtain ⟨hn, hdigits⟩ := (continueBelow_eq_ok_iff_denotes hb hl hne).1 h
      exact ⟨hn, .inr ⟨digits, rfl, hdigits⟩⟩
    · rintro ⟨hn, h | ⟨digits', heq, h⟩⟩
      · exact absurd h hnot
      · cases heq
        exact ⟨h.nonempty, (continueBelow_eq_ok_iff_denotes hb hl h.nonempty).2 ⟨hn, h⟩⟩
  · have hnot : ¬∃ digits, cs = '+' :: digits ∧ Denotes base digits n := by
      rintro ⟨digits, rfl, -⟩
      exact hplus rfl
    by_cases hne : cs = []
    · subst hne
      refine iff_of_false (by simp [readBelow]) ?_
      rintro ⟨-, h | h⟩
      · exact h.nonempty rfl
      · exact hnot h
    · rw [readBelow_eq_continueBelow hne hplus, continueBelow_eq_ok_iff_denotes hb hl hne,
        or_iff_left hnot]

end SysReg.Numeral
