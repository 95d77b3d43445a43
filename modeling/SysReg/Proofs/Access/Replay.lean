import SysReg.Proofs.Access.Table
import SysReg.Proofs.Snapshot.Document

/-!
# What a replayed snapshot serves

A snapshot holds its readings by name, and the table that replays it answers by encoding.  Of several
readings of one encoding the last one decides, so a replayed snapshot serves each of its readings
exactly if no two readings of one encoding differ in outcome (`replay_serves_iff`).  Nothing keeps a
snapshot from holding such readings under two names (`replay_contended`).
-/

namespace SysReg

/-- What reading a register gives where this reading of it decides. -/
def Reading.answer (r : Reading) : Except Failure Word :=
  match r.outcome with
  | .value w => .ok w
  | .failed detail => .error (.unreadable r.encoding.canonical detail)

/-- Readings of one encoding answer alike exactly if their outcomes are equal. -/
lemma Reading.answer_eq_iff {a b : Reading} (h : a.encoding = b.encoding) :
    a.answer = b.answer ↔ a.outcome = b.outcome := by
  rw [answer, answer, h]
  cases a.outcome <;> cases b.outcome <;> simp

namespace AnswerTable

/-- Among readings, each encoding that occurs has a last reading. -/
lemma exists_last {readings : List Reading} {r : Reading} (hr : r ∈ readings) :
    ∃ before last after, readings = before ++ last :: after ∧ last.encoding = r.encoding ∧
      ∀ later ∈ after, later.encoding ≠ last.encoding := by
  have hsome : (readings.reverse.find? fun r' => r'.encoding = r.encoding).isSome = true :=
    List.find?_isSome.2 ⟨r, List.mem_reverse.2 hr, decide_eq_true rfl⟩
  obtain ⟨last, hlast⟩ := Option.isSome_iff_exists.1 hsome
  obtain ⟨hencoding, after, before, hreverse, hafter⟩ := List.find?_eq_some_iff_append.1 hlast
  have hencoding := of_decide_eq_true hencoding
  refine ⟨before.reverse, last, after.reverse, ?_, hencoding, fun later hlater => ?_⟩
  · rw [← List.reverse_reverse readings, hreverse, List.reverse_append, List.reverse_cons,
      List.append_assoc, List.singleton_append]
  · have hlater := hafter later (List.mem_reverse.1 hlater)
    rw [hencoding]
    simpa using hlater

/-- The last reading of an encoding is what the table answers with. -/
lemma read_ofReadings_of_last {before after : List Reading} {r : Reading}
    (h : ∀ later ∈ after, later.encoding ≠ r.encoding) :
    (ofReadings (before ++ r :: after)).read r.encoding = r.answer := by
  have hafter : (after.reverse.find? fun r' => r'.encoding = r.encoding) = none := by
    rw [List.find?_eq_none]
    intro later hlater
    simpa using h later (List.mem_reverse.1 hlater)
  have hget : (ofReadings (before ++ r :: after)).get? r.encoding = some r.outcome := by
    rw [get?_ofReadings, List.reverse_append, List.reverse_cons, List.append_assoc,
      List.find?_append, hafter, List.singleton_append]
    simp
  rw [read, hget, Reading.answer]
  cases r.outcome <;> rfl

end AnswerTable

namespace Snapshot

/-- **A replayed snapshot serves the last reading of each encoding.**  So it serves every reading
its own outcome exactly if readings of one encoding have one outcome. -/
theorem replay_serves_iff (s : Snapshot) :
    (∀ before r after, s.readings = before ++ r :: after →
      (∀ later ∈ after, later.encoding ≠ r.encoding) →
        (AnswerTable.ofSnapshot s).read r.encoding = r.answer) ∧
    ((∀ r ∈ s.readings, (AnswerTable.ofSnapshot s).read r.encoding = r.answer) ↔
      ∀ a ∈ s.readings, ∀ b ∈ s.readings, a.encoding = b.encoding → a.outcome = b.outcome) := by
  have hserves : ∀ before r after, s.readings = before ++ r :: after →
      (∀ later ∈ after, later.encoding ≠ r.encoding) →
        (AnswerTable.ofSnapshot s).read r.encoding = r.answer := by
    intro before r after hreadings hlast
    rw [AnswerTable.ofSnapshot, hreadings]
    exact AnswerTable.read_ofReadings_of_last hlast
  refine ⟨hserves, ?_, ?_⟩
  · intro h a ha b hb hsame
    rw [← Reading.answer_eq_iff hsame, ← h a ha, ← h b hb, hsame]
  · intro h r hr
    obtain ⟨before, last, after, hreadings, hsame, hlast⟩ := AnswerTable.exists_last hr
    have hmem : last ∈ s.readings := by
      rw [hreadings]
      exact List.mem_append_right _ List.mem_cons_self
    rw [← hsame, hserves before last after hreadings hlast, Reading.answer_eq_iff hsame]
    exact h last hmem r hr hsame

/-- One register that was read under two names, without a value and then with one. -/
def contended : Snapshot where
  label := ""
  filter := none
  createdAt := .epoch
  readings := [⟨"HID0", .truncating 3 0 15 0 0, .epoch, .failed "timed out"⟩,
    ⟨"HID0_ALIAS", .truncating 3 0 15 0 0, .epoch, .value 1⟩]
  distinct := by decide

/-- Its last reading is served, and hence not every one. -/
theorem replay_serves_last : ∃ r, contended.readings.getLast? = some r ∧
    (AnswerTable.ofSnapshot contended).read r.encoding = r.answer ∧
    ∃ r' ∈ contended.readings, (AnswerTable.ofSnapshot contended).read r'.encoding ≠ r'.answer := by
  obtain ⟨hserves, hall⟩ := replay_serves_iff contended
  refine ⟨_, rfl, hserves [_] _ [] rfl (List.forall_mem_nil _), ?_⟩
  by_contra h
  have hsame := hall.1 (by simpa using h) _ List.mem_cons_self _
    (List.mem_cons_of_mem _ List.mem_cons_self) rfl
  cases hsame

/-- The snapshot is loaded from its text, and the reading that failed is replayed as a value. -/
theorem replay_contended : ofText contended.text = .ok contended ∧
    ∃ r ∈ contended.readings, r.outcome = .failed "timed out" ∧
      (AnswerTable.ofSnapshot contended).read r.encoding = .ok 1 :=
  ⟨ofText_text (by decide), _, List.mem_cons_self, rfl, rfl⟩

end Snapshot
end SysReg
