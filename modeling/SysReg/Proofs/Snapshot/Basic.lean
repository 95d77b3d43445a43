import Mathlib.Tactic.Lemma
import SysReg.Snapshot.Basic

/-!
# Snapshots built reading by reading

A reading is recorded under the name and encoding that were asked for, and a tally counts each
reading once, as a success or as a failure.

A reading is added exactly if its name is new, and then stands at the end.  Adding a list of
readings one after the other therefore gives the snapshot of all of them, in order, or fails at the
first name that is there already.
-/

namespace SysReg

/-! ## Readings and tallies -/

namespace Reading

@[simp] lemma name_record (name : String) (e : Encoding) (time : Time)
    (answer : Except Failure Word) : (record name e time answer).name = name := by
  cases answer <;> rfl

@[simp] lemma encoding_record (name : String) (e : Encoding) (time : Time)
    (answer : Except Failure Word) : (record name e time answer).encoding = e := by
  cases answer <;> rfl

end Reading

namespace Tally

/-- A tally counts the readings with a value and those without. -/
lemma ofList_eq (readings : List Reading) :
    ofList readings =
      ⟨readings.countP Reading.succeeded, readings.countP fun r => !r.succeeded⟩ := by
  have hfold (t : Tally) : readings.foldl count t =
      ⟨t.succeeded + readings.countP Reading.succeeded,
        t.failed + readings.countP fun r => !r.succeeded⟩ := by
    induction readings generalizing t with
    | nil => rfl
    | cons r readings ih =>
      rw [List.foldl_cons, ih, List.countP_cons, List.countP_cons, count]
      cases r.succeeded <;> simp <;> omega
  rw [ofList, hfold, zero, Nat.zero_add, Nat.zero_add]

/-- Every reading is counted once. -/
lemma succeeded_add_failed (readings : List Reading) :
    (ofList readings).succeeded + (ofList readings).failed = readings.length := by
  rw [ofList_eq, List.length_eq_countP_add_countP Reading.succeeded]
  simp

end Tally

/-! ## Adding readings -/

namespace Snapshot

/-- Snapshots agree if their label, filter, creation time and readings do. -/
@[ext] lemma ext {a b : Snapshot} (hlabel : a.label = b.label) (hfilter : a.filter = b.filter)
    (hcreated : a.createdAt = b.createdAt) (hreadings : a.readings = b.readings) : a = b := by
  cases a
  cases b
  simp_all

lemma push?_eq_ok_iff {s s' : Snapshot} {r : Reading} :
    s.push? r = .ok s' ↔ (∀ a ∈ s.readings, a.name ≠ r.name) ∧ s'.label = s.label ∧
      s'.filter = s.filter ∧ s'.createdAt = s.createdAt ∧ s'.readings = s.readings ++ [r] := by
  unfold push?
  split
  · next h =>
    have hnew : ∀ a ∈ s.readings, a.name ≠ r.name := get?_eq_none_iff.1 h
    constructor
    · rintro ⟨⟩
      exact ⟨hnew, rfl, rfl, rfl, rfl⟩
    · rintro ⟨-, hlabel, hfilter, hcreated, hreadings⟩
      exact congrArg Except.ok (ext hlabel.symm hfilter.symm hcreated.symm hreadings.symm)
  · next h =>
    constructor
    · rintro ⟨⟩
    · rintro ⟨hnew, -⟩
      exact absurd (get?_eq_none_iff.2 hnew) h

/-- A reading is accepted if its name is new. -/
lemma exists_push? {s : Snapshot} {r : Reading} (h : ∀ a ∈ s.readings, a.name ≠ r.name) :
    ∃ s', s.push? r = .ok s' :=
  ⟨{ s with
      readings := s.readings ++ [r]
      distinct := pairwise_append_singleton s.distinct h },
    push?_eq_ok_iff.2 ⟨h, rfl, rfl, rfl, rfl⟩⟩

/-- Readings added one after the other stand at the end, in their order. -/
lemma foldlM_push?_eq_ok {readings : List Reading} {s s' : Snapshot}
    (h : readings.foldlM push? s = .ok s') :
    s'.label = s.label ∧ s'.filter = s.filter ∧ s'.createdAt = s.createdAt ∧
      s'.readings = s.readings ++ readings := by
  induction readings generalizing s with
  | nil =>
    cases h
    exact ⟨rfl, rfl, rfl, (List.append_nil _).symm⟩
  | cons r readings ih =>
    rw [List.foldlM_cons] at h
    cases hpush : s.push? r with
    | error failure => simp [hpush, bind, Except.bind] at h
    | ok next =>
      rw [hpush] at h
      obtain ⟨-, hlabel, hfilter, hcreated, hreadings⟩ := push?_eq_ok_iff.1 hpush
      obtain ⟨hlabel', hfilter', hcreated', hreadings'⟩ := ih h
      refine ⟨hlabel'.trans hlabel, hfilter'.trans hfilter, hcreated'.trans hcreated, ?_⟩
      rw [hreadings', hreadings, List.append_assoc, List.singleton_append]

/-- The readings that a snapshot has more than another, added one after the other, give it. -/
lemma foldlM_push?_of_append {readings : List Reading} {s s' : Snapshot}
    (hlabel : s'.label = s.label) (hfilter : s'.filter = s.filter)
    (hcreated : s'.createdAt = s.createdAt) (hreadings : s'.readings = s.readings ++ readings) :
    readings.foldlM push? s = .ok s' := by
  induction readings generalizing s with
  | nil =>
    rw [List.append_nil] at hreadings
    exact congrArg Except.ok (ext hlabel hfilter hcreated hreadings).symm
  | cons r readings ih =>
    have hdistinct := s'.distinct
    rw [hreadings, List.pairwise_append] at hdistinct
    have hnew : ∀ a ∈ s.readings, a.name ≠ r.name := fun a ha =>
      hdistinct.2.2 a ha r List.mem_cons_self
    obtain ⟨next, hpush⟩ := exists_push? hnew
    obtain ⟨-, hlabel', hfilter', hcreated', hreadings'⟩ := push?_eq_ok_iff.1 hpush
    rw [List.foldlM_cons, hpush]
    refine ih (hlabel.trans hlabel'.symm) (hfilter.trans hfilter'.symm)
      (hcreated.trans hcreated'.symm) ?_
    rw [hreadings, hreadings', List.append_assoc, List.singleton_append]

end Snapshot
end SysReg
