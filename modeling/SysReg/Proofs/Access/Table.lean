import Mathlib.Tactic.Lemma
import SysReg.Access.Table

/-!
# Tables of readings

A table answers for an encoding with what was set last, so the table of a list of readings answers
with the last reading of the encoding (`get?_ofReadings`).  Where no two readings are of one
encoding, that is the reading itself (`get?_ofReadings_of_mem`).
-/

namespace SysReg

/-- In a list without repeated keys, searching for the key of a member finds this member. -/
lemma find?_key_eq_some {α κ : Type} [DecidableEq κ] {key : α → κ} {xs : List α}
    (h : xs.Pairwise fun a b => key a ≠ key b) {x : α} (hx : x ∈ xs) :
    (xs.find? fun y => key y = key x) = some x := by
  induction xs with
  | nil => exact absurd hx List.not_mem_nil
  | cons first rest ih =>
    rw [List.pairwise_cons] at h
    rcases List.mem_cons.1 hx with rfl | hrest
    · exact List.find?_cons_of_pos (decide_eq_true rfl)
    · rw [List.find?_cons, decide_eq_false (h.1 x hrest)]
      exact ih h.2 hrest

/-- In a list without repeated keys, searching for a key finds exactly the element that has it. -/
lemma find?_key_eq_some_iff {α κ : Type} [DecidableEq κ] {key : α → κ} {xs : List α}
    (h : xs.Pairwise fun a b => key a ≠ key b) {k : κ} {x : α} :
    (xs.find? fun y => key y = k) = some x ↔ x ∈ xs ∧ key x = k := by
  constructor
  · intro hfind
    exact ⟨List.mem_of_find?_eq_some hfind, by simpa using List.find?_some hfind⟩
  · rintro ⟨hx, rfl⟩
    exact find?_key_eq_some h hx

namespace AnswerTable

lemma get?_set (t : AnswerTable) (e e' : Encoding) (answer : Outcome) :
    (t.set e answer).get? e' = if e = e' then some answer else t.get? e' :=
  t.answers.get?_insert e e' answer

/-- The last reading of an encoding counts, and the answer before only if there is none. -/
lemma get?_foldl_set (readings : List Reading) (t : AnswerTable) (e : Encoding) :
    (readings.foldl (fun t r => t.set r.encoding r.outcome) t).get? e =
      ((readings.reverse.find? fun r => r.encoding = e).map Reading.outcome).or (t.get? e) := by
  induction readings generalizing t with
  | nil => rfl
  | cons r readings ih =>
    rw [List.foldl_cons, ih, get?_set, List.reverse_cons, List.find?_append]
    cases readings.reverse.find? fun r => r.encoding = e with
    | some last => rfl
    | none =>
      by_cases h : r.encoding = e
      · simp [h]
      · simp [h]

lemma get?_ofReadings (readings : List Reading) (e : Encoding) :
    (ofReadings readings).get? e =
      (readings.reverse.find? fun r => r.encoding = e).map Reading.outcome := by
  rw [ofReadings, get?_foldl_set]
  exact Option.or_none

lemma get?_ofReadings_of_mem {readings : List Reading}
    (h : readings.Pairwise fun a b => a.encoding ≠ b.encoding) {r : Reading} (hr : r ∈ readings) :
    (ofReadings readings).get? r.encoding = some r.outcome := by
  have hreverse : readings.reverse.Pairwise fun a b => a.encoding ≠ b.encoding :=
    List.pairwise_reverse.2 (h.imp Ne.symm)
  rw [get?_ofReadings, find?_key_eq_some hreverse (List.mem_reverse.2 hr)]
  rfl

lemma get?_ofReadings_eq_none {readings : List Reading} {e : Encoding}
    (h : ∀ r ∈ readings, r.encoding ≠ e) : (ofReadings readings).get? e = none := by
  rw [get?_ofReadings, Option.map_eq_none_iff, List.find?_eq_none]
  intro r hr
  simpa using h r (List.mem_reverse.1 hr)

end AnswerTable

/-- What comes of reading a register again from the answer of a table. -/
lemma Reading.outcome_record_read (t : AnswerTable) (name : String) (e : Encoding) (time : Time) :
    (record name e time (t.read e)).outcome =
      (t.get? e).getD (.failed "register not available") := by
  rw [AnswerTable.read]
  match t.get? e with
  | some (.value _) => rfl
  | some (.failed _) => rfl
  | none => rfl

end SysReg
