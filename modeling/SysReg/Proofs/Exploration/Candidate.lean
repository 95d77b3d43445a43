import Mathlib.Tactic.Lemma
import SysReg.Exploration.Inference
import SysReg.Proofs.Word

/-!
# Candidates for fields

The candidates of an inference are the longest runs of its volatile bits, each once and the lowest
first (`candidates_exact`).

They are found in one pass over the positions of the bits.  A run that has begun is carried along
(`Reaches`) up to the first bit that is clear, or to the end of the register, where it is listed.
Past the last bit everything is clear, so that the end needs no case of its own.  What the pass
lists is said without it (`Lists`): runs with nothing but clear bits before, between and after them.
-/

namespace SysReg

/-- The range is a longest run of set bits: all of it is set, and neither neighbour is. -/
structure Word.HasRun (mask : Word) (b : BitRange) : Prop where
  valid : b.IsValid
  set : ∀ k, b.low ≤ k → k ≤ b.high → mask.getLsbD k = true
  below : ∀ k, k + 1 = b.low → mask.getLsbD k = false
  above : mask.getLsbD (b.high + 1) = false

/-- A bit is not both set and clear. -/
lemma Word.ne_of_getLsbD {mask : Word} {j k : Nat} (hset : mask.getLsbD j = true)
    (hclear : mask.getLsbD k = false) : j ≠ k := by
  rintro rfl
  exact Bool.false_ne_true (hclear.symm.trans hset)

/-- Of two longest runs neither begins within the other. -/
lemma Word.HasRun.eq_of_low_mem {mask : Word} {b b' : BitRange} (h : mask.HasRun b)
    (h' : mask.HasRun b') (hlow : b.low ≤ b'.low) (hhigh : b'.low ≤ b.high) : b' = b := by
  obtain ⟨high, low⟩ := b
  obtain ⟨high', low'⟩ := b'
  obtain ⟨⟨hordered, -⟩, hset, -, habove⟩ := h
  obtain ⟨⟨hordered', -⟩, hset', hbelow', habove'⟩ := h'
  simp only at *
  have hstart : low' = low := by
    by_contra hne
    have hclear := hbelow' (low' - 1) (by omega)
    exact ne_of_getLsbD (hset (low' - 1) (by omega) (by omega)) hclear rfl
  have hend : high' = high := by
    by_contra hne
    rcases Nat.lt_or_gt_of_ne hne with hlt | hgt
    · exact ne_of_getLsbD (hset (high' + 1) (by omega) (by omega)) habove' rfl
    · exact ne_of_getLsbD (hset' (high + 1) (by omega) (by omega)) habove rfl
  rw [hstart, hend]

namespace Inference

variable {mask : Word} {start : Option Nat} {position remaining low k : Nat} {b : BitRange}
  {c : Candidate} {candidates : List Candidate}

/-! ## What the pass lists -/

/-- The candidates are the longest runs from the position on, and all else is clear there. -/
inductive Lists (mask : Word) : Nat → List Candidate → Prop where
  | nil {position : Nat} (h : ∀ k, position ≤ k → mask.getLsbD k = false) : Lists mask position []
  | cons {position : Nat} {b : BitRange} {rest : List Candidate} (hrun : mask.HasRun b)
      (hlow : position ≤ b.low) (hgap : ∀ k, position ≤ k → k < b.low → mask.getLsbD k = false)
      (hrest : Lists mask (b.high + 2) rest) :
      Lists mask position (candidate b.high b.low :: rest)

/-- A clear bit before the position makes no difference. -/
lemma Lists.of_clear (hclear : mask.getLsbD position = false)
    (h : Lists mask (position + 1) candidates) : Lists mask position candidates := by
  have hfrom (k : Nat) (hk : position ≤ k) : k = position ∨ position + 1 ≤ k := by omega
  cases h with
  | nil hnone =>
    refine .nil fun k hk => ?_
    rcases hfrom k hk with rfl | hk
    · exact hclear
    · exact hnone k hk
  | cons hrun hlow hgap hrest =>
    refine .cons hrun (Nat.le_of_succ_le hlow) (fun k hk hlt => ?_) hrest
    rcases hfrom k hk with rfl | hk
    · exact hclear
    · exact hgap k hk hlt

/-- A longest run that begins at the position or later is listed, and nothing else is. -/
lemma Lists.mem_iff (h : Lists mask position candidates) : c ∈ candidates ↔
    ∃ b, mask.HasRun b ∧ position ≤ b.low ∧ c = candidate b.high b.low := by
  induction h with
  | nil hnone =>
    refine iff_of_false List.not_mem_nil ?_
    rintro ⟨b, hb, hlow, -⟩
    exact Word.ne_of_getLsbD (hb.set _ (Nat.le_refl _) hb.valid.1) (hnone _ hlow) rfl
  | @cons position b rest hrun hlow hgap hrest ih =>
    rw [List.mem_cons, ih]
    constructor
    · rintro (rfl | ⟨b', hb', hlow', rfl⟩)
      · exact ⟨b, hrun, hlow, rfl⟩
      · have := hrun.valid.1
        exact ⟨b', hb', by omega, rfl⟩
    · rintro ⟨b', hb', hlow', rfl⟩
      have hset := hb'.set _ (Nat.le_refl _) hb'.valid.1
      -- It begins with the first run or after the clear bit that follows this.
      have hstart : b.low ≤ b'.low := by
        by_contra hlt
        exact Word.ne_of_getLsbD hset (hgap _ hlow' (Nat.lt_of_not_le hlt)) rfl
      have hne := Word.ne_of_getLsbD hset hrun.above
      by_cases hwithin : b'.low ≤ b.high
      · rw [hrun.eq_of_low_mem hb' hstart hwithin]
        exact .inl rfl
      · exact .inr ⟨b', hb', by omega, rfl⟩

/-- A candidate is followed by a clear bit, and the next one begins above this. -/
lemma Lists.pairwise (h : Lists mask position candidates) : candidates.Pairwise fun c c' =>
    ∃ k, c.bits.high < k ∧ k < c'.bits.low ∧ mask.getLsbD k = false := by
  induction h with
  | nil => exact .nil
  | @cons _ b _ hrun _ _ hrest ih =>
    refine .cons (fun c hc => ?_) ih
    obtain ⟨b', -, hlow, rfl⟩ := hrest.mem_iff.1 hc
    exact ⟨b.high + 1, Nat.lt_succ_self _, hlow, hrun.above⟩

/-- The candidates cover the bits that are set. -/
lemma Lists.exists_mem_iff (h : Lists mask position candidates) :
    (∃ c ∈ candidates, c.bits.low ≤ k ∧ k ≤ c.bits.high) ↔
      position ≤ k ∧ mask.getLsbD k = true := by
  induction h with
  | nil hnone =>
    constructor
    · rintro ⟨c, hc, -⟩
      exact absurd hc List.not_mem_nil
    · rintro ⟨hk, hset⟩
      exact absurd rfl (Word.ne_of_getLsbD hset (hnone k hk))
  | @cons position b rest hrun hlow hgap hrest ih =>
    simp only [List.mem_cons, exists_eq_or_imp, ih, candidate]
    constructor
    · rintro (⟨hk, hk'⟩ | ⟨hk, hset⟩)
      · exact ⟨Nat.le_trans hlow hk, hrun.set k hk hk'⟩
      · have := hrun.valid.1
        exact ⟨by omega, hset⟩
    · rintro ⟨hk, hset⟩
      have hstart : b.low ≤ k := by
        by_contra hlt
        exact Word.ne_of_getLsbD hset (hgap k hk (Nat.lt_of_not_le hlt)) rfl
      have hne := Word.ne_of_getLsbD hset hrun.above
      by_cases hwithin : k ≤ b.high
      · exact .inl ⟨hstart, hwithin⟩
      · exact .inr ⟨by omega, hset⟩

/-! ## The pass -/

/-- The run that reaches up to the position began at `start`, or there is none. -/
inductive Reaches (mask : Word) (position : Nat) : Option Nat → Prop where
  | nothing (h : ∀ k, k + 1 = position → mask.getLsbD k = false) : Reaches mask position none
  | run {low : Nat} (hlow : low < position)
      (hset : ∀ k, low ≤ k → k < position → mask.getLsbD k = true)
      (hbelow : ∀ k, k + 1 = low → mask.getLsbD k = false) : Reaches mask position (some low)

/-- A set bit begins a run or carries it on. -/
lemma Reaches.step (h : Reaches mask position start) (hset : mask.getLsbD position = true) :
    Reaches mask (position + 1) (some (start.getD position)) := by
  cases h with
  | nothing hclear =>
    refine .run (Nat.lt_succ_self _) (fun k hlow hhigh => ?_) hclear
    obtain rfl : k = position := by simp only [Option.getD_none] at hlow; omega
    exact hset
  | run hlow hall hbelow =>
    refine .run (Nat.lt_succ_of_lt hlow) (fun k hk hhigh => ?_) hbelow
    rcases Nat.lt_succ_iff_lt_or_eq.1 hhigh with hlt | rfl
    · exact hall k hk hlt
    · exact hset

lemma reaches_none_of_clear (hclear : mask.getLsbD position = false) :
    Reaches mask (position + 1) none := by
  refine .nothing fun k hk => ?_
  obtain rfl : k = position := by omega
  exact hclear

/-- A run that is followed by a clear bit is listed before what comes after this bit. -/
lemma Reaches.lists (h : Reaches mask position (some low)) (hend : position ≤ 64)
    (hclear : mask.getLsbD position = false) (hrest : Lists mask (position + 1) candidates) :
    Lists mask low (candidate (position - 1) low :: candidates) := by
  cases h with
  | run hlow hall hbelow =>
    obtain ⟨high, rfl⟩ : ∃ high, position = high + 1 := ⟨position - 1, by omega⟩
    have hrun : mask.HasRun ⟨high, low⟩ :=
      ⟨⟨Nat.le_of_lt_succ hlow, Nat.le_of_succ_le_succ hend⟩,
        fun k hk hhigh => hall k hk (Nat.lt_succ_of_le hhigh), hbelow, hclear⟩
    exact .cons hrun (Nat.le_refl _) (fun k hk hlt => absurd hlt (Nat.not_lt_of_le hk)) hrest

/-- From any position on, the pass lists the longest runs, the one that it is in the middle of
included. -/
lemma lists_runs (h : Reaches mask position start) (hend : position + remaining = 64) :
    Lists mask (start.getD position) (runs mask start position remaining) := by
  have hbeyond (k : Nat) (hk : 64 ≤ k) : mask.getLsbD k = false := BitVec.getLsbD_of_ge _ _ hk
  -- The cases are the end of the register, a set bit and a clear one, with or without a run.
  fun_induction runs mask start position remaining with
  | case1 position low =>
    obtain rfl : position = 64 := hend
    exact h.lists (Nat.le_refl _) (hbeyond 64 (Nat.le_refl _))
      (.nil fun k hk => hbeyond k (Nat.le_of_succ_le hk))
  | case2 position =>
    obtain rfl : position = 64 := hend
    exact .nil hbeyond
  | case3 position remaining hset ih => exact ih (h.step hset) (by omega)
  | case4 position remaining low hset ih => exact ih (h.step hset) (by omega)
  | case5 position remaining hclear ih =>
    exact (ih (reaches_none_of_clear hclear) (by omega)).of_clear hclear
  | case6 position remaining low hclear ih =>
    exact h.lists (by omega) hclear (ih (reaches_none_of_clear hclear) (by omega))

lemma lists_candidates (i : Inference) : Lists i.volatileMask 0 i.candidates :=
  lists_runs (.nothing fun k hk => absurd hk k.succ_ne_zero) rfl

/-! ## Candidates -/

/-- The candidates are the longest runs of volatile bits, each with the shape of its width. -/
structure Outlines (i : Inference) (candidates : List Candidate) : Prop where
  valid : ∀ c ∈ candidates, c.bits.IsValid
  /-- They ascend, and between one and the next there is a bit that is not volatile. -/
  apart : candidates.Pairwise fun c c' =>
    ∃ k, c.bits.high < k ∧ k < c'.bits.low ∧ i.bit k ≠ .volatile
  longest : ∀ b, (∃ c ∈ candidates, c.bits = b) ↔ i.volatileMask.HasRun b
  union : .union (candidates.map fun c => c.bits.mask) = i.volatileMask
  flag : ∀ c ∈ candidates, c.shape = .flag ↔ c.bits.width = 1
  counter : ∀ c ∈ candidates, c.shape = .counter ↔ c.bits.width ≠ 1

lemma mem_candidates_iff {i : Inference} :
    c ∈ i.candidates ↔ ∃ b, i.volatileMask.HasRun b ∧ c = candidate b.high b.low := by
  simp only [i.lists_candidates.mem_iff, Nat.zero_le, true_and]

lemma valid_of_mem_candidates {i : Inference} (h : c ∈ i.candidates) : c.bits.IsValid := by
  obtain ⟨b, hb, rfl⟩ := mem_candidates_iff.1 h
  exact hb.valid

lemma shape_eq_flag_iff {i : Inference} (h : c ∈ i.candidates) :
    c.shape = .flag ↔ c.bits.width = 1 := by
  obtain ⟨b, hb, rfl⟩ := mem_candidates_iff.1 h
  have hordered := hb.valid.1
  unfold candidate BitRange.width
  split
  · next heq => exact iff_of_true rfl (by simp only; omega)
  · next hne => exact iff_of_false nofun (by simp only; omega)

lemma union_mask_candidates (i : Inference) :
    .union (i.candidates.map fun c => c.bits.mask) = i.volatileMask := by
  refine Word.eq_of_getLsbD_iff fun k => ?_
  have hcover := i.lists_candidates.exists_mem_iff (k := k)
  simp only [Nat.zero_le, true_and] at hcover
  rw [Word.getLsbD_union_iff, ← hcover]
  simp only [List.mem_map, exists_exists_and_eq_and]
  refine exists_congr fun c => and_congr_right fun hc => ?_
  rw [BitRange.getLsbD_mask (valid_of_mem_candidates hc), decide_eq_true_eq]

/-- **The candidates are the longest runs of volatile bits.**  They are valid ranges in ascending
order with a bit that is not volatile between any two, the bits that they cover are the volatile
ones, and a candidate is a flag if it is one bit wide and a counter otherwise. -/
theorem candidates_exact (i : Inference) : i.Outlines i.candidates where
  valid _ := valid_of_mem_candidates
  apart := by
    refine i.lists_candidates.pairwise.imp_of_mem fun {c c'} _ hc' => ?_
    rintro ⟨k, hlow, hhigh, hclear⟩
    have hvalid := valid_of_mem_candidates hc'
    have hk : k % 64 = k := Nat.mod_eq_of_lt (by have := hvalid.1; have := hvalid.2; omega)
    exact ⟨k, hlow, hhigh, by simp [bit, hk, hclear]⟩
  longest b := by
    simp only [mem_candidates_iff]
    constructor
    · rintro ⟨_, ⟨b', hb', rfl⟩, rfl⟩
      exact hb'
    · exact fun hb => ⟨_, ⟨b, hb, rfl⟩, rfl⟩
  union := i.union_mask_candidates
  flag _ := shape_eq_flag_iff
  counter c hc := by
    rw [ne_eq, ← shape_eq_flag_iff hc]
    cases c.shape <;> simp

/-- Runs at either end of the register are listed like one between them. -/
example : Inference.candidates ⟨.truncating 3 2 15 0 0, 3, 0x8000000000000061, 0⟩ =
    [⟨.bit 0, .flag⟩, ⟨⟨6, 5⟩, .counter⟩, ⟨.bit 63, .flag⟩] := by
  decide +kernel

end Inference
end SysReg
