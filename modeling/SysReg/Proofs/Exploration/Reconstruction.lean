import Mathlib.Data.List.Chain
import SysReg.Proofs.Exploration.Behavior

/-!
# From a behaviour back to the readings

A behaviour tells the values of the readings again (`recounts_ofReadings`): with the first value
given, the value of every reading that succeeded is the one that the last change at its position or
before leads to.  Readings that show the same behaviour and begin with the same value therefore have
the same values wherever both succeed.

What a behaviour does not keep is which readings failed: it counts them, and a change only has the
position of the reading that saw the new value.  Readings that failed before the change and after it
cannot be told apart, so that the list of values may differ (`not_determined`) unless the successes
are known to stand at the same positions.

The changes after a value are followed by induction on the history, generalised over this value,
with the positions of what is still to come kept above those of what was seen.
-/

namespace SysReg.Behavior

variable {readings readings' : List Reading} {seen : List (Nat × Word)} {old w : Word} {i : Nat}

/-! ## Positions -/

lemma history_eq_filterMap (position : Nat) (readings : List Reading) :
    history position readings =
      (readings.zipIdx position).filterMap fun entry => entry.1.value?.map (entry.2, ·) := by
  induction readings generalizing position with
  | nil => rfl
  | cons r rest ih =>
    rw [history, List.zipIdx_cons, List.filterMap_cons, ih]
    cases r.value? <;> rfl

/-- A history holds the value of each reading that succeeded, at the position of the reading. -/
lemma mem_history_iff {position : Nat} : (i, w) ∈ history position readings ↔
    position ≤ i ∧ ∃ r, readings[i - position]? = some r ∧ r.value? = some w := by
  rw [history_eq_filterMap, List.mem_filterMap]
  constructor
  · rintro ⟨⟨r, j⟩, hr, h⟩
    obtain ⟨v, hv, heq⟩ := Option.map_eq_some_iff.1 h
    cases heq
    obtain ⟨hle, hr⟩ := List.mk_mem_zipIdx_iff_le_and_getElem?_sub.1 hr
    exact ⟨hle, r, hr, hv⟩
  · rintro ⟨hle, r, hr, hv⟩
    refine ⟨(r, i), List.mk_mem_zipIdx_iff_le_and_getElem?_sub.2 ⟨hle, hr⟩, ?_⟩
    rw [hv]
    rfl

/-- The positions of a history go up. -/
def Advancing (seen : List (Nat × Word)) : Prop :=
  seen.Pairwise fun a b => a.1 < b.1

lemma advancing_history (position : Nat) (readings : List Reading) :
    Advancing (history position readings) := by
  induction readings generalizing position with
  | nil => exact .nil
  | cons r rest ih =>
    rw [history]
    cases r.value? with
    | none => exact ih (position + 1)
    | some w =>
      refine List.pairwise_cons.2 ⟨?_, ih (position + 1)⟩
      rintro ⟨i, v⟩ hv
      exact (mem_history_iff.1 hv).1

/-! ## Changes after a value -/

/-- The value that changes have led to at a position, from a first one on. -/
def valueAfter (changes : List ValueChange) (first : Word) (i : Nat) : Word :=
  ((changes.filter fun change => change.iteration ≤ i).getLast?.map ValueChange.new).getD first

/-- Changes that are still to come make no difference. -/
lemma valueAfter_of_lt {changes : List ValueChange} {first : Word}
    (h : ∀ change ∈ changes, i < change.iteration) : valueAfter changes first i = first := by
  have hnone : (changes.filter fun change => change.iteration ≤ i) = [] := by
    rw [List.filter_eq_nil_iff]
    intro change hchange
    simpa using h change hchange
  rw [valueAfter, hnone]
  rfl

/-- A change that has come replaces the first value. -/
lemma valueAfter_cons {change : ValueChange} {changes : List ValueChange} {first : Word}
    (h : change.iteration ≤ i) :
    valueAfter (change :: changes) first i = valueAfter changes change.new i := by
  rw [valueAfter, valueAfter, List.filter_cons_of_pos (by simpa using h), List.getLast?_cons]
  cases (changes.filter fun change => change.iteration ≤ i).getLast? <;> rfl

/-- Each change sees a value of the history, where it stands there. -/
lemma mem_of_mem_changesAfter {change : ValueChange} (h : change ∈ changesAfter old seen) :
    (change.iteration, change.new) ∈ seen := by
  induction seen generalizing old with
  | nil => exact absurd h List.not_mem_nil
  | cons entry rest ih =>
    rw [changesAfter] at h
    split at h
    · exact List.mem_cons_of_mem _ (ih h)
    · rcases List.mem_cons.1 h with rfl | h
      · exact List.mem_cons_self
      · exact List.mem_cons_of_mem _ (ih h)

lemma pairwise_changesAfter (h : Advancing seen) :
    (changesAfter old seen).Pairwise fun a b => a.iteration < b.iteration := by
  induction seen generalizing old with
  | nil => exact .nil
  | cons entry rest ih =>
    obtain ⟨hentry, hrest⟩ := List.pairwise_cons.1 h
    rw [changesAfter]
    split
    · exact ih hrest
    · exact List.pairwise_cons.2
        ⟨fun change hchange => hentry _ (mem_of_mem_changesAfter hchange), ih hrest⟩

/-- The first change is from the value before, and each one goes on from where the last one led. -/
lemma isChain_changesAfter :
    (∀ change ∈ (changesAfter old seen).head?, change.old = old) ∧
      (changesAfter old seen).IsChain fun a b => a.new = b.old := by
  induction seen generalizing old with
  | nil => exact ⟨nofun, .nil⟩
  | cons entry rest ih =>
    rw [changesAfter]
    split
    · next hsame =>
      subst hsame
      exact ih
    · obtain ⟨hhead, hchain⟩ := @ih entry.2
      refine ⟨fun change hchange => ?_, List.isChain_cons.2 ⟨fun next hnext => ?_, hchain⟩⟩
      · cases hchange
        rfl
      · exact (hhead next hnext).symm

/-- The value at a position of the history is the one that the changes have led to there. -/
lemma valueAfter_changesAfter (h : Advancing seen) (hmem : (i, w) ∈ seen) :
    valueAfter (changesAfter old seen) old i = w := by
  induction seen generalizing old with
  | nil => exact absurd hmem List.not_mem_nil
  | cons entry rest ih =>
    obtain ⟨hentry, hrest⟩ := List.pairwise_cons.1 h
    obtain ⟨position, new⟩ := entry
    -- Up to the first position what comes later makes no difference.
    have hlater : valueAfter (changesAfter new rest) new position = new :=
      valueAfter_of_lt fun change hchange => hentry _ (mem_of_mem_changesAfter hchange)
    rw [changesAfter]
    rcases List.mem_cons.1 hmem with heq | hmem'
    · cases heq
      split
      · next hsame =>
        subst hsame
        exact hlater
      · rw [valueAfter_cons (Nat.le_refl i)]
        exact hlater
    · split
      · next hsame =>
        subst hsame
        exact ih hrest hmem'
      · rw [valueAfter_cons (Nat.le_of_lt (hentry _ hmem'))]
        exact ih hrest hmem'

/-! ## Behaviours -/

/-- The value that a behaviour tells for a position, if it began with this one. -/
def valueAt (b : Behavior) (first : Word) (i : Nat) : Word :=
  valueAfter b.changes first i

/-- A behaviour tells the values of these readings again. -/
structure Recounts (b : Behavior) (readings : List Reading) : Prop where
  /-- The readings are counted, as successes and as failures. -/
  iterations : b.iterations = readings.length
  succeeded : b.succeeded = readings.countP Reading.succeeded
  counted : b.succeeded + b.failed = b.iterations
  /-- The distinct values are those of the readings, in ascending order. -/
  ascending : Ascending b.uniqueValues
  unique : ∀ v, v ∈ b.uniqueValues ↔ ∃ r ∈ readings, r.value? = some v
  /-- A change is at a reading that succeeded with the new value, and changes are in the order of
  the readings. -/
  ordered : b.changes.Pairwise fun a b => a.iteration < b.iteration
  seen : ∀ change ∈ b.changes,
    ∃ r, readings[change.iteration]? = some r ∧ r.value? = some change.new
  /-- A change is between different values and goes on from where the last one led. -/
  differ : ∀ change ∈ b.changes, change.old ≠ change.new
  chained : b.changes.IsChain fun a b => a.new = b.old
  /-- A reading that succeeded has the value that the changes have led to. -/
  retold : ∀ first, (Reading.values readings).head? = some first → ∀ (i : Nat) r w,
    readings[i]? = some r → r.value? = some w → b.valueAt first i = w
  /-- Readings with the same behaviour and the same first value have the same values wherever both
  succeed.  They have the same values throughout if they succeed at the same positions, so in
  particular if no reading failed. -/
  determined : ∀ readings', ofReadings readings' = b →
    (Reading.values readings').head? = (Reading.values readings).head? →
      (∀ (i : Nat) r r' w w', readings[i]? = some r → readings'[i]? = some r' →
        r.value? = some w → r'.value? = some w' → w = w') ∧
      (readings'.map Reading.succeeded = readings.map Reading.succeeded →
        readings'.map Reading.value? = readings.map Reading.value?) ∧
      (b.failed = 0 → readings'.map Reading.value? = readings.map Reading.value?)

/-- The first value is seen without a change, as if it had been there before. -/
lemma changes_ofReadings (readings : List Reading) : (ofReadings readings).changes =
    changesAfter ((Reading.values readings).head?.getD 0) (history 0 readings) := by
  rw [← map_snd_history 0, ofReadings]
  dsimp only
  cases history 0 readings with
  | nil => rfl
  | cons entry later => exact (if_pos rfl).symm

lemma valueAt_ofReadings {first : Word} (hfirst : (Reading.values readings).head? = some first)
    {r : Reading} (hr : readings[i]? = some r) (hw : r.value? = some w) :
    (ofReadings readings).valueAt first i = w := by
  have hmem : (i, w) ∈ history 0 readings := mem_history_iff.2 ⟨Nat.zero_le i, r, hr, hw⟩
  rw [valueAt, changes_ofReadings, hfirst]
  exact valueAfter_changesAfter (advancing_history 0 readings) hmem

/-- Readings with the same behaviour and first value agree wherever both succeed. -/
lemma value_eq_of_ofReadings (hbehavior : ofReadings readings' = ofReadings readings)
    (hfirst : (Reading.values readings').head? = (Reading.values readings).head?) {r r' : Reading}
    {w' : Word} (hr : readings[i]? = some r) (hr' : readings'[i]? = some r')
    (hw : r.value? = some w) (hw' : r'.value? = some w') : w = w' := by
  have hmem : w ∈ Reading.values readings :=
    Reading.mem_values_iff.2 ⟨r, List.mem_of_getElem? hr, hw⟩
  obtain ⟨first, rest, hvalues⟩ := List.exists_cons_of_ne_nil (List.ne_nil_of_mem hmem)
  have hhead : (Reading.values readings).head? = some first := by
    rw [hvalues]
    rfl
  rw [← valueAt_ofReadings hhead hr hw, ← valueAt_ofReadings (hfirst.trans hhead) hr' hw',
    hbehavior]

/-- They are the same throughout if they succeed at the same positions. -/
lemma map_value?_eq_of_ofReadings (hbehavior : ofReadings readings' = ofReadings readings)
    (hfirst : (Reading.values readings').head? = (Reading.values readings).head?)
    (hsucceeded : readings'.map Reading.succeeded = readings.map Reading.succeeded) :
    readings'.map Reading.value? = readings.map Reading.value? := by
  refine List.ext_getElem? fun i => ?_
  have hi : (readings'[i]?).map Reading.succeeded = (readings[i]?).map Reading.succeeded := by
    rw [← List.getElem?_map, ← List.getElem?_map, hsucceeded]
  rw [List.getElem?_map, List.getElem?_map]
  cases hr : readings[i]? with
  | none =>
    rw [hr, Option.map_none, Option.map_eq_none_iff] at hi
    rw [hi]
  | some r =>
    rw [hr, Option.map_some, Option.map_eq_some_iff] at hi
    obtain ⟨r', hr', hboth⟩ := hi
    rw [hr', Option.map_some, Option.map_some]
    rw [Reading.succeeded, Reading.succeeded] at hboth
    cases hw : r.value? with
    | none =>
      have hw' : r'.value? = none := by
        rw [← Option.not_isSome_iff_eq_none, hboth, hw]
        exact Bool.false_ne_true
      rw [hw']
    | some w =>
      rw [hw] at hboth
      obtain ⟨w', hw'⟩ := Option.isSome_iff_exists.1 hboth
      rw [hw', value_eq_of_ofReadings hbehavior hfirst hr hr' hw hw']

lemma succeeded_ofReadings_eq_countP (readings : List Reading) :
    (ofReadings readings).succeeded = readings.countP Reading.succeeded := by
  rw [succeeded_ofReadings, Reading.length_values]

/-- Every reading is a success or a failure. -/
lemma succeeded_add_failed (readings : List Reading) :
    (ofReadings readings).succeeded + (ofReadings readings).failed = readings.length := by
  have hle : (ofReadings readings).succeeded ≤ readings.length := by
    rw [succeeded_ofReadings_eq_countP]
    exact List.countP_le_length
  exact Nat.add_sub_cancel' hle

/-- If none failed, the behaviour tells where readings succeeded. -/
lemma map_succeeded_of_failed_eq_zero (h : (ofReadings readings).failed = 0) :
    readings.map Reading.succeeded = List.replicate (ofReadings readings).iterations true := by
  have hcount : readings.countP Reading.succeeded = readings.length := by
    rw [← succeeded_ofReadings_eq_countP, ← succeeded_add_failed readings, h, Nat.add_zero]
  rw [List.map_eq_replicate_iff.2 (List.countP_eq_length.1 hcount)]
  rfl

/-- **A behaviour tells the values again.**  It counts the readings, lists the values that occur and
the changes between them, and each reading that succeeded has the value of the last change up to its
position, or the first value if there is none.  Together with the first value and the positions of
the readings that succeeded it determines all values. -/
theorem recounts_ofReadings (readings : List Reading) :
    (ofReadings readings).Recounts readings := by
  have hchanges := changes_ofReadings readings
  refine
    { iterations := rfl
      succeeded := succeeded_ofReadings_eq_countP readings
      counted := succeeded_add_failed readings
      ascending := ascending_uniqueValues readings
      unique := fun v => mem_uniqueValues_iff.trans Reading.mem_values_iff
      ordered := ?_
      seen := fun change hchange => ?_
      differ := fun change hchange => ne_of_mem_changes hchange
      chained := ?_
      retold := fun first hfirst i r w hr hw => valueAt_ofReadings hfirst hr hw
      determined := fun readings' hbehavior hfirst => ⟨fun i r r' w w' hr hr' hw hw' =>
        value_eq_of_ofReadings hbehavior hfirst hr hr' hw hw',
        map_value?_eq_of_ofReadings hbehavior hfirst, fun hnone => ?_⟩ }
  · rw [hchanges]
    exact pairwise_changesAfter (advancing_history 0 readings)
  · rw [hchanges] at hchange
    exact (mem_history_iff.1 (mem_of_mem_changesAfter hchange)).2
  · rw [hchanges]
    exact isChain_changesAfter.2
  · have hnone' : (ofReadings readings').failed = 0 := by
      rw [hbehavior]
      exact hnone
    refine map_value?_eq_of_ofReadings hbehavior hfirst ?_
    rw [map_succeeded_of_failed_eq_zero hnone, map_succeeded_of_failed_eq_zero hnone', hbehavior]

/-- A reading that saw this value. -/
def sampled (w : Word) : Reading :=
  { Inference.missed with outcome := .value w }

/-- A register goes from 0 to 1 at the third of four readings, and the last one fails. -/
def missedAfter : List Reading :=
  [sampled 0, sampled 0, sampled 1, Inference.missed]

/-- The same register, but the reading before the change fails. -/
def missedBefore : List Reading :=
  [sampled 0, Inference.missed, sampled 1, sampled 1]

/-- The behaviour is the same, and so is the first value, but 1 is seen once or twice. -/
theorem not_determined : ofReadings missedBefore = ofReadings missedAfter ∧
    (Reading.values missedBefore).head? = (Reading.values missedAfter).head? ∧
    Reading.values missedAfter = [0, 0, 1] ∧ Reading.values missedBefore = [0, 1, 1] := by
  refine ⟨?_, ?_, ?_, ?_⟩ <;> decide

end SysReg.Behavior
