import SysReg.Proofs.Snapshot.Loading
import SysReg.Session.Basic

/-!
# Which snapshots can be loaded back

A snapshot takes any reading whose name is new, and its text can always be written.  It is loaded
back exactly if all its readings are of system registers (`ofText_text_eq_ok_iff`): an encoding with
`op0` 0 or 1 is written like any other, but the strict reader refuses it (`loadable_after_push_iff`).
-/

namespace SysReg

/-! ## Encodings of instructions -/

namespace Encoding

/-- The canonical spelling of the encoding of an instruction is refused for its `op0`. -/
lemma ofCanonical_canonical_of_instruction {e : Encoding} (h : ¬e.isSystemRegister = true) :
    ofCanonical e.canonical = .error (.outOfRange .op0 e.op0.val) := by
  have hop0 : ¬(Component.op0.least ≤ e.op0.val ∧ e.op0.val < Component.op0.size) := fun hbounds =>
    h (decide_eq_true hbounds.1)
  unfold ofCanonical
  rw [splitOn_canonical]
  simp only [readLettered_component .op0 's' e.op0, readNumber_component .op1 e.op1,
    readLettered_component .crn 'c' e.crn, readLettered_component .crm 'c' e.crm,
    readNumber_component .op2 e.op2]
  change ofIntegers _ _ _ _ _ = _
  rw [ofIntegers, Component.check_eq_error hop0]
  rfl

/-- Why the encoding of an instruction is refused. -/
def instructionFault (e : Encoding) : DocumentFault :=
  .encoding (.outOfRange .op0 e.op0.val)

end Encoding

namespace Document

open Json (Source tree memberTrees)

lemma readEncoding_tree_of_instruction {e : Encoding} (h : ¬e.isSystemRegister = true) :
    readEncoding (tree (.string e.canonical)) = .error e.instructionFault := by
  rw [readEncoding, readText_tree]
  simp [bind, Except.bind, Encoding.ofCanonical_canonical_of_instruction h, Except.mapError,
    Encoding.instructionFault]

lemma readRecord_tree_of_instruction {r : Record} (h : ¬r.encoding.isSystemRegister = true) :
    readRecord (tree r.json) = .error r.encoding.instructionFault := by
  obtain ⟨name, encoding, value, success, time, error⟩ := r
  have hname := fill_none (readText_tree name)
  have hencoding : fill none (readEncoding (tree (.string encoding.canonical))) =
      .error encoding.instructionFault := by
    rw [readEncoding_tree_of_instruction h]
    rfl
  simp [Record.json, Json.tree_object, memberTrees, readRecord, addMembers, RecordParts.add,
    RecordParts.empty, hname, hencoding, bind, Except.bind, pure, Except.pure]

/-- The first record of an instruction is what a list of records is refused for. -/
lemma readRecords_tree_of_instruction {before after : List Record} {r : Record}
    (hbefore : ∀ r ∈ before, r.encoding.isSystemRegister = true)
    (h : ¬r.encoding.isSystemRegister = true) :
    readRecords (tree (.array ((before ++ r :: after).map Record.json))) =
      .error r.encoding.instructionFault := by
  have hread := readRecords_tree hbefore
  rw [Json.tree_array, List.map_map, readRecords] at hread ⊢
  rw [List.map_append, List.map_cons]
  exact mapM_append_cons_eq_error hread (readRecord_tree_of_instruction h)

/-- The text of a document is refused for the first record of an instruction in it. -/
lemma ofText_text_json_of_instruction {d : Document} {before after : List Record} {r : Record}
    (hversion : d.version < 0x100000000) (hrecords : d.records = before ++ r :: after)
    (hbefore : ∀ r ∈ before, r.encoding.isSystemRegister = true)
    (h : ¬r.encoding.isSystemRegister = true) :
    Document.ofText d.json.text = .error r.encoding.instructionFault := by
  have hroot : ofSource (tree d.json) = .error r.encoding.instructionFault := by
    obtain ⟨version, label, filter, createdAt, records⟩ := d
    cases hrecords
    have hversion := fill_none (readVersion_tree hversion)
    have hlabel := fill_none (readText_tree label)
    have hfilter := fill_none (readOptional_tree readCategory_tree filter)
    have hcreatedAt := fill_none (readTime_tree createdAt)
    have hrefused : fill none (readRecords (tree (.array
        ((before ++ r :: after).map Record.json)))) = .error r.encoding.instructionFault := by
      rw [readRecords_tree_of_instruction hbefore h]
      rfl
    simp [-List.map_append, -List.map_cons, Document.json, Json.tree_object, memberTrees, ofSource,
      addMembers, Parts.add, Parts.empty, hversion, hlabel, hfilter, hcreatedAt, hrefused, bind,
      Except.bind, pure, Except.pure]
  rw [Document.ofText, Json.ofText_toList_text]
  simp [hroot, bind, Except.bind]

end Document

namespace Snapshot

/-- A snapshot is read back from its text exactly if all its readings are of system registers. -/
lemma ofText_text_eq_ok_iff {s : Snapshot} :
    ofText s.text = .ok s ↔ ∀ r ∈ s.readings, r.encoding.isSystemRegister = true :=
  ⟨fun h _ hr => isSystemRegister_of_ofText h hr, ofText_text⟩

/-- The text of a snapshot is refused for the first reading of an instruction. -/
lemma ofText_text_of_instruction {s : Snapshot} {before after : List Reading} {r : Reading}
    (hreadings : s.readings = before ++ r :: after)
    (hbefore : ∀ r ∈ before, r.encoding.isSystemRegister = true)
    (h : ¬r.encoding.isSystemRegister = true) :
    ofText s.text = .error (.document r.encoding.instructionFault) := by
  have hrecords : (Document.ofSnapshot s).records =
      before.map .ofReading ++ .ofReading r :: after.map .ofReading := by
    rw [Document.ofSnapshot, hreadings, List.map_append, List.map_cons]
  have hbefore' : ∀ record ∈ before.map Record.ofReading,
      record.encoding.isSystemRegister = true := by
    intro record hrecord
    obtain ⟨r', hr', rfl⟩ := List.mem_map.1 hrecord
    exact hbefore r' hr'
  have hdocument := Document.ofText_text_json_of_instruction
    (by decide : documentVersion < 0x100000000) hrecords hbefore' h
  rw [ofText, text, hdocument]
  rfl

/-- **A reading that is accepted need not be one that can be loaded back.**  A snapshot that is
loaded back from its text takes a reading whose name is new, and is then loaded back exactly if the
reading is of a system register; for the encoding of an instruction its text is refused.  A reading
that is not taken leaves the snapshot as it was. -/
theorem loadable_after_push_iff {s : Snapshot} (hs : ofText s.text = .ok s) (r : Reading) :
    (∀ t, s.push? r = .ok t →
      (ofText t.text = .ok t ↔ r.encoding.op0 = 2 ∨ r.encoding.op0 = 3) ∧
      (¬(r.encoding.op0 = 2 ∨ r.encoding.op0 = 3) →
        ofText t.text = .error (.document r.encoding.instructionFault))) ∧
    ∀ failure, s.push? r = .error failure → failure = .snapshot (.repeatedRegister r.name) ∧
      (∃ a ∈ s.readings, a.name = r.name) ∧ Session.Progress.pushed s r = s := by
  rw [← Encoding.isSystemRegister_iff]
  have hall := ofText_text_eq_ok_iff.1 hs
  constructor
  · intro t ht
    obtain ⟨-, -, -, -, hreadings⟩ := push?_eq_ok_iff.1 ht
    refine ⟨?_, fun h => ofText_text_of_instruction hreadings hall h⟩
    rw [ofText_text_eq_ok_iff, hreadings, List.forall_mem_append, List.forall_mem_singleton]
    exact and_iff_right hall
  · intro failure hfailure
    have hpushed : Session.Progress.pushed s r = s := by
      rw [Session.Progress.pushed, hfailure]
    have htaken : ¬∀ a ∈ s.readings, a.name ≠ r.name := fun hnew => by
      obtain ⟨t, ht⟩ := exists_push? hnew
      rw [hfailure] at ht
      cases ht
    unfold push? at hfailure
    split at hfailure <;> cases hfailure
    exact ⟨rfl, by simpa using htaken, hpushed⟩

/-- A register of the debug space, which has `op0` 2, is taken and loaded back. -/
theorem loadable_after_push_debug : ofText (empty "" none .epoch).text = .ok (empty "" none .epoch) ∧
    ∃ t, (empty "" none .epoch).push? ⟨"MDSCR_EL1", .truncating 2 0 0 2 2, .epoch, .value 0⟩ =
      .ok t ∧ ofText t.text = .ok t := by
  have hempty : ofText (empty "" none .epoch).text = .ok (empty "" none .epoch) :=
    ofText_text (by simp [empty])
  obtain ⟨t, ht⟩ := @exists_push? (empty "" none .epoch)
    ⟨"MDSCR_EL1", .truncating 2 0 0 2 2, .epoch, .value 0⟩ (by simp [empty])
  exact ⟨hempty, t, ht, ((loadable_after_push_iff hempty _).1 t ht).1.2 (.inl rfl)⟩

/-- A cache instruction, which has `op0` 1, is taken like a register and never loaded back. -/
theorem not_loadable_after_push :
    ofText (empty "" none .epoch).text = .ok (empty "" none .epoch) ∧
    ∃ t, (empty "" none .epoch).push? ⟨"DC_CIVAC", .truncating 1 3 7 14 1, .epoch, .value 0⟩ =
      .ok t ∧ ∀ t', ofText t.text ≠ .ok t' := by
  obtain ⟨t, ht⟩ := @exists_push? (empty "" none .epoch)
    ⟨"DC_CIVAC", .truncating 1 3 7 14 1, .epoch, .value 0⟩ (by simp [empty])
  obtain ⟨-, -, -, -, hreadings⟩ := push?_eq_ok_iff.1 ht
  have hrefused := @ofText_text_of_instruction t [] [] _ hreadings (List.forall_mem_nil _) (by decide)
  refine ⟨ofText_text (by simp [empty]), t, ht, fun t' ht' => ?_⟩
  rw [hrefused] at ht'
  cases ht'

end Snapshot
end SysReg
