import SysReg.Exploration.Behavior
import SysReg.Proofs.Exploration.Inference

/-!
# Behaviour and inference

The behaviour of a register and the inference of its bits are found from the same readings and agree
(`agreesWith_inference`): the bits that are volatile are those in which some change differs, and the
register is stable exactly if there are none, which is to say that a single value occurs.

An inference compares each value with the first one, and a behaviour with the one before.  Of the
changes after a value it is shown that they touch a bit exactly if a later value differs there from
this one (`exists_mem_changesAfter_iff`), so that a bit which changes and changes back is counted by
both.
-/

namespace SysReg.Behavior

variable {readings : List Reading} {seen : List (Nat × Word)} {values : List Word}
  {old v w : Word} {k : Nat}

/-! ## Histories -/

/-- A history holds the values of the readings, in their order. -/
lemma map_snd_history (position : Nat) (readings : List Reading) :
    (history position readings).map Prod.snd = Reading.values readings := by
  induction readings generalizing position with
  | nil => rfl
  | cons r rest ih =>
    cases hvalue : r.value? with
    | none => simpa only [history, hvalue, Reading.values, List.filterMap_cons] using ih _
    | some w =>
      simp only [history, hvalue, Reading.values, List.filterMap_cons, List.map_cons]
      exact congrArg (w :: ·) (ih _)

lemma succeeded_ofReadings :
    (ofReadings readings).succeeded = (Reading.values readings).length := by
  rw [← map_snd_history 0, List.length_map]
  rfl

/-! ## Distinct values -/

/-- Distinct values in ascending order. -/
def Ascending (values : List Word) : Prop :=
  values.Pairwise fun v w => v.toNat < w.toNat

lemma mem_place_iff : v ∈ place w values ↔ v = w ∨ v ∈ values := by
  induction values with
  | nil => simp [place]
  | cons x rest ih =>
    rw [place]
    split
    · exact List.mem_cons
    · split
      · next heq => simp [heq]
      · rw [List.mem_cons, ih, List.mem_cons, or_left_comm]

/-- A value that takes its place keeps the order, and is not there twice. -/
lemma Ascending.place (h : Ascending values) : Ascending (place w values) := by
  induction values with
  | nil => exact List.pairwise_singleton _ _
  | cons x rest ih =>
    obtain ⟨hx, hrest⟩ := List.pairwise_cons.1 h
    rw [Behavior.place]
    split
    · next hlt =>
      refine List.pairwise_cons.2 ⟨?_, h⟩
      rw [List.forall_mem_cons]
      exact ⟨hlt, fun y hy => Nat.lt_trans hlt (hx y hy)⟩
    · next hle =>
      split
      · exact h
      · next hne =>
        refine List.pairwise_cons.2 ⟨fun y hy => ?_, ih hrest⟩
        rcases mem_place_iff.1 hy with rfl | hy
        · have := mt BitVec.eq_of_toNat_eq hne
          omega
        · exact hx y hy

/-- The distinct values are found by putting one value after the other in its place. -/
lemma uniqueValues_ofReadings : (ofReadings readings).uniqueValues =
    (Reading.values readings).foldl (fun values w => place w values) [] := by
  rw [← map_snd_history 0, List.foldl_map]
  rfl

lemma mem_uniqueValues_iff :
    v ∈ (ofReadings readings).uniqueValues ↔ v ∈ Reading.values readings := by
  have hfold (words values : List Word) :
      v ∈ words.foldl (fun values w => place w values) values ↔ v ∈ values ∨ v ∈ words := by
    induction words generalizing values with
    | nil => simp
    | cons w words ih =>
      rw [List.foldl_cons, ih, mem_place_iff, List.mem_cons, or_assoc, or_left_comm]
  simp [uniqueValues_ofReadings, hfold]

lemma ascending_uniqueValues (readings : List Reading) :
    Ascending (ofReadings readings).uniqueValues := by
  have hfold (words values : List Word) (h : Ascending values) :
      Ascending (words.foldl (fun values w => place w values) values) := by
    induction words generalizing values with
    | nil => exact h
    | cons w words ih => exact ih _ h.place
  rw [uniqueValues_ofReadings]
  exact hfold _ _ .nil

/-- There is one distinct value exactly if all values are like a given one of them. -/
lemma length_uniqueValues_eq_one_iff (hw : w ∈ Reading.values readings) :
    (ofReadings readings).uniqueValues.length = 1 ↔ ∀ v ∈ Reading.values readings, v = w := by
  simp only [← mem_uniqueValues_iff] at hw ⊢
  constructor
  · intro hlength
    obtain ⟨x, hx⟩ := List.length_eq_one_iff.1 hlength
    rw [hx, List.mem_singleton] at hw
    rw [hx, List.forall_mem_singleton, hw]
  · intro hall
    have hascending := ascending_uniqueValues readings
    cases hvalues : (ofReadings readings).uniqueValues with
    | nil => simp [hvalues] at hw
    | cons x rest =>
      rw [hvalues] at hall hascending
      obtain ⟨hx, hrest⟩ := List.forall_mem_cons.1 hall
      cases rest with
      | nil => rfl
      | cons y rest =>
        have hlt := (List.pairwise_cons.1 hascending).1 y List.mem_cons_self
        rw [hx, hrest y List.mem_cons_self] at hlt
        exact absurd hlt (Nat.lt_irrefl _)

/-! ## Changes -/

/-- A change is between two different values. -/
lemma ne_of_mem_changesAfter {change : ValueChange} (h : change ∈ changesAfter old seen) :
    change.old ≠ change.new := by
  induction seen generalizing old with
  | nil => exact absurd h List.not_mem_nil
  | cons entry rest ih =>
    rw [changesAfter] at h
    split at h
    · exact ih h
    · next hne =>
      rcases List.mem_cons.1 h with rfl | h
      · exact hne
      · exact ih h

/-- The changes after a value touch a bit if a later value differs there from it. -/
lemma exists_mem_changesAfter_iff :
    (∃ change ∈ changesAfter old seen, change.old.getLsbD k ≠ change.new.getLsbD k) ↔
      ∃ w ∈ seen.map Prod.snd, w.getLsbD k ≠ old.getLsbD k := by
  induction seen generalizing old with
  | nil => simp [changesAfter]
  | cons entry rest ih =>
    obtain ⟨position, new⟩ := entry
    simp only [List.map_cons, List.mem_cons, exists_eq_or_imp]
    by_cases hsame : old = new
    · subst hsame
      simp only [changesAfter, if_pos, ih, ne_eq, not_true_eq_false, false_or]
    · simp only [changesAfter, if_neg hsame, List.mem_cons, exists_eq_or_imp, ih]
      -- Later values are compared with the new one, which matters only where it differs.
      by_cases hbit : new.getLsbD k = old.getLsbD k
      · simp [hbit]
      · exact iff_of_true (.inl (Ne.symm hbit)) (.inl hbit)

/-- The bits in which some change differs. -/
def touched (b : Behavior) : Word :=
  .union (b.changes.map fun change => change.old ^^^ change.new)

/-- The behaviour begins with the first value, and goes on with the changes after it. -/
lemma exists_changesAfter {baseline : Word} {rest : List Word}
    (h : Reading.values readings = baseline :: rest) : ∃ later, later.map Prod.snd = rest ∧
      (ofReadings readings).changes = changesAfter baseline later := by
  have hmap : (history 0 readings).map Prod.snd = baseline :: rest :=
    (map_snd_history 0 readings).trans h
  obtain ⟨⟨position, first⟩, later, hhistory, rfl, rfl⟩ := List.map_eq_cons_iff.1 hmap
  refine ⟨later, rfl, ?_⟩
  rw [ofReadings, hhistory]
  rfl

lemma ne_of_mem_changes {change : ValueChange} (h : change ∈ (ofReadings readings).changes) :
    change.old ≠ change.new := by
  rw [ofReadings] at h
  cases hhistory : history 0 readings with
  | nil =>
    rw [hhistory] at h
    exact absurd h List.not_mem_nil
  | cons first later =>
    rw [hhistory] at h
    exact ne_of_mem_changesAfter h

/-! ## Agreement with an inference -/

/-- The behaviour and the inference say the same of the register. -/
structure AgreesWith (b : Behavior) (i : Inference) : Prop where
  touched : i.volatileMask = b.touched
  stable : b.isStable = true ↔ i.volatileMask = 0
  unique : i.volatileMask = 0 ↔ b.uniqueValues.length = 1

variable {i : Inference}

lemma volatileMask_eq_touched (h : Inference.ofReadings readings = .ok i) :
    i.volatileMask = (ofReadings readings).touched := by
  obtain ⟨-, rest, hvalues, -⟩ := Inference.ofReadings_eq_ok_iff.1 h
  obtain ⟨later, hlater, hchanges⟩ := exists_changesAfter hvalues
  refine Word.eq_of_getLsbD_iff fun k => ?_
  rw [Inference.getLsbD_volatileMask_iff_baseline h, touched, Word.getLsbD_union_iff, hchanges]
  simp only [List.mem_map, exists_exists_and_eq_and, Word.getLsbD_xor_iff]
  rw [exists_mem_changesAfter_iff, hlater, hvalues]
  simp only [List.mem_cons, exists_eq_or_imp, ne_eq, not_true_eq_false, false_or]

/-- Nothing is touched exactly if there is no change. -/
lemma touched_eq_zero_iff :
    (ofReadings readings).touched = 0 ↔ (ofReadings readings).changes = [] := by
  rw [touched, Word.union_eq_zero_iff, List.forall_mem_map, List.eq_nil_iff_forall_not_mem]
  refine forall_congr' fun change => imp_congr_right fun hchange => ?_
  exact iff_of_false (fun hzero => ne_of_mem_changes hchange (BitVec.xor_eq_zero_iff.1 hzero)) id

lemma agreesWith_of_ofReadings (h : Inference.ofReadings readings = .ok i) :
    (ofReadings readings).AgreesWith i where
  touched := volatileMask_eq_touched h
  stable := by
    have hlength := List.length_pos_of_mem (Inference.baseline_mem h)
    rw [isStable, succeeded_ofReadings, volatileMask_eq_touched h, touched_eq_zero_iff]
    simp [hlength]
  unique := by
    obtain ⟨-, rest, hvalues, -, hmask⟩ := Inference.ofReadings_eq_ok_iff.1 h
    rw [length_uniqueValues_eq_one_iff (Inference.baseline_mem h), hvalues, List.forall_mem_cons,
      hmask, Word.union_eq_zero_iff, List.forall_mem_map, and_iff_right rfl]
    exact forall₂_congr fun w _ => BitVec.xor_eq_zero_iff

lemma isStable_of_failed (h : ∀ r ∈ readings, r.succeeded = false) :
    (ofReadings readings).isStable = false := by
  have hvalues : Reading.values readings = [] := by
    rw [← List.length_eq_zero_iff, Reading.length_values, List.countP_eq_zero]
    exact fun r hr => by simp [h r hr]
  rw [isStable, succeeded_ofReadings, hvalues]
  rfl

/-- **Behaviour and inference agree.**  From readings of one register, one of which succeeded, both
are found: the volatile bits are those that the changes touch, and the register is stable exactly if
there are none, that is, if a single value occurs.  If no reading succeeded it is not stable, and
nothing is inferred. -/
theorem agreesWith_inference (readings : List Reading) :
    (∀ e, (∀ r ∈ readings, r.encoding = e) → (∃ r ∈ readings, r.succeeded = true) →
      ∃ i, Inference.ofReadings readings = .ok i ∧ (ofReadings readings).AgreesWith i) ∧
    ((∀ r ∈ readings, r.succeeded = false) → (ofReadings readings).isStable = false ∧
      ∃ failure, Inference.ofReadings readings = .error failure) := by
  constructor
  · rintro e hencoding ⟨r, hr, hsucceeded⟩
    obtain ⟨w, hw⟩ := Option.isSome_iff_exists.1 hsucceeded
    obtain ⟨i, hi, -⟩ :=
      Inference.exists_ofReadings hencoding (Reading.mem_values_iff.2 ⟨r, hr, hw⟩)
    exact ⟨i, hi, agreesWith_of_ofReadings hi⟩
  · intro hfailed
    obtain ⟨fault, hfault⟩ := Inference.exists_ofReadings_eq_error_iff.2 (.failed hfailed)
    exact ⟨isStable_of_failed hfailed, _, hfault⟩

/-- The counter goes from 4 to 5 past a failed reading, which touches bit 0. -/
theorem agreesWith_inference_counting :
    (∃ i, Inference.ofReadings Inference.counting = .ok i ∧ i.volatileMask = 1 ∧
      (ofReadings Inference.counting).AgreesWith i ∧
      (ofReadings Inference.counting).isStable = false) ∧
    ∃ failure, Inference.ofReadings [Inference.missed] = .error failure := by
  obtain ⟨i, hi, hagrees⟩ := (agreesWith_inference Inference.counting).1
    (.truncating 3 2 15 0 0) (by decide) (by decide)
  have hmask : i.volatileMask = 1 := hagrees.touched
  have hstable : ¬(ofReadings Inference.counting).isStable = true := by
    rw [hagrees.stable, hmask]
    decide
  exact ⟨⟨i, hi, hmask, hagrees, by simpa using hstable⟩,
    ((agreesWith_inference [Inference.missed]).2 (by decide)).2⟩

end SysReg.Behavior
