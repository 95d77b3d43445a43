import SysReg.Proofs.Comparison
import SysReg.Proofs.Session.Dump
import SysReg.Proofs.Snapshot.Document

/-!
# Replaying a dump

A dump that is saved, loaded and replayed is reproduced by a second dump over the same registers
(`replayed_dump_reproduces`).  The first dump may have been stopped early; the second one then goes
on with the registers that were not read, as registers that are not available.

The readings of both dumps follow the selected registers, the first ones over a prefix.  Each
register of the prefix is looked up in the table by its encoding, which no other register of the
catalog has, so that the table answers with the outcome of its own reading.
-/

namespace SysReg

/-! ## Tallies -/

lemma Reading.Agrees.succeeded_eq {r r' : Reading} (h : r.Agrees r') :
    r'.succeeded = r.succeeded := by
  rw [succeeded, succeeded, value?, h.outcome, ← value?]

/-- Readings that agree one by one have one tally. -/
lemma Tally.ofList_of_agrees {readings again : List Reading}
    (h : List.Forall₂ Reading.Agrees readings again) : ofList again = ofList readings := by
  rw [ofList_eq, ofList_eq]
  induction h with
  | nil => rfl
  | cons hr _ ih =>
    rw [Tally.mk.injEq] at ih
    simp only [List.countP_cons, hr.succeeded_eq, ih.1, ih.2]

/-! ## The table of a dump -/

/-- The instruments that answer from a saved snapshot, with a clock of their own. -/
def Snapshot.replayed {τ : Type} (s : Snapshot) (now : StateM τ Time) : Instruments (StateM τ) where
  read e := pure ((AnswerTable.ofSnapshot s).read e)
  now := now

/-- The reading of a register that a replayed snapshot does not hold. -/
structure Definition.Unavailable (d : Definition) (r : Reading) : Prop where
  name : r.name = d.name
  encoding : r.encoding = d.encoding
  outcome : r.outcome = .failed "register not available"

/-- The selected registers that a dump has not read. -/
def Dump.unread (dump : Dump) (selected : List Definition) : List Definition :=
  selected.filter fun d =>
    !dump.snapshot.readings.any fun r => r.name = d.name ∧ r.encoding = d.encoding

section

variable {σ τ : Type} {tools : Instruments (StateM σ)} {selected : List Definition}

/-- A replayed reading has the outcome that the table holds. -/
lemma Instruments.Takes.outcome_of_replayed {s : Snapshot} {now : StateM τ Time} {d : Definition}
    {r : Reading} (h : (s.replayed now).Takes d r) :
    r.outcome = ((AnswerTable.ofReadings s.readings).get? d.encoding).getD
      (.failed "register not available") := by
  obtain ⟨before, time, rfl⟩ := h.exists_record
  exact Reading.outcome_record_read ..

variable {readings : List Reading}
  (hselected : selected.Pairwise fun a b => a.encoding ≠ b.encoding)
  (hread : List.Forall₂ tools.Takes (selected.take readings.length) readings)

include hselected hread

/-- Readings of a first part of the registers are not of an encoding of the rest. -/
lemma encoding_ne_of_mem_drop {d : Definition} (hd : d ∈ selected.drop readings.length)
    {r : Reading} (hr : r ∈ readings) : r.encoding ≠ d.encoding := by
  obtain ⟨d', hd', htakes⟩ := exists_mem_of_forall₂ hread.flip hr
  rw [← List.take_append_drop readings.length selected, List.pairwise_append] at hselected
  rw [Instruments.Takes.encoding_eq htakes]
  exact hselected.2.2 d' hd' d hd

/-- The readings are of different encodings, since the registers are. -/
lemma pairwise_encodings_of_takes : readings.Pairwise fun a b => a.encoding ≠ b.encoding := by
  have hmap : readings.map Reading.encoding =
      (selected.take readings.length).map Definition.encoding := by
    rw [← List.forall₂_eq_eq_eq, List.forall₂_map_left_iff, List.forall₂_map_right_iff]
    exact hread.flip.imp fun r d htakes => Instruments.Takes.encoding_eq htakes
  have hkeys : ((selected.take readings.length).map Definition.encoding).Pairwise (· ≠ ·) :=
    List.pairwise_map.2 (hselected.sublist (List.take_sublist _ _))
  rw [← hmap] at hkeys
  exact List.pairwise_map.1 hkeys

/-- The registers without a reading are those after the ones that were read. -/
lemma Dump.unread_eq_drop {dump : Dump} (hdump : dump.snapshot.readings = readings) :
    dump.unread selected = selected.drop readings.length := by
  have htaken : (selected.take readings.length).filter (fun d =>
      !readings.any fun r => r.name = d.name ∧ r.encoding = d.encoding) = [] := by
    rw [List.filter_eq_nil_iff]
    intro d hd
    obtain ⟨r, hr, htakes⟩ := exists_mem_of_forall₂ hread hd
    have hany : (readings.any fun r => r.name = d.name ∧ r.encoding = d.encoding) = true :=
      List.any_eq_true.2 ⟨r, hr, decide_eq_true ⟨htakes.name_eq, htakes.encoding_eq⟩⟩
    rw [hany]
    exact Bool.false_ne_true
  have hleft : (selected.drop readings.length).filter (fun d =>
      !readings.any fun r => r.name = d.name ∧ r.encoding = d.encoding) =
      selected.drop readings.length := by
    rw [List.filter_eq_self]
    intro d hd
    rw [Bool.not_eq_true', List.any_eq_false]
    intro r hr hsame
    exact encoding_ne_of_mem_drop hselected hread hd hr (of_decide_eq_true hsame).2
  rw [unread, hdump]
  conv_lhs => rw [← List.take_append_drop readings.length selected]
  rw [List.filter_append, htaken, hleft, List.nil_append]

/-- Readings of all registers that are replayed from readings of a first part repeat these, and find
the rest unavailable. -/
lemma exists_again {s : Snapshot} {now : StateM τ Time} {replayed : List Reading}
    (hs : s.readings = readings)
    (hreplayed : List.Forall₂ (s.replayed now).Takes selected replayed) :
    ∃ again missing, replayed = again ++ missing ∧ List.Forall₂ Reading.Agrees readings again ∧
      List.Forall₂ Definition.Unavailable (selected.drop readings.length) missing := by
  have hdistinct := pairwise_encodings_of_takes hselected hread
  refine ⟨replayed.take readings.length, replayed.drop readings.length,
    (List.take_append_drop _ _).symm, ?_, ?_⟩
  · refine forall₂_of_common hread (List.forall₂_take _ hreplayed) fun d r r' hr htakes hagain => ?_
    refine ⟨hagain.name_eq.trans htakes.name_eq.symm,
      hagain.encoding_eq.trans htakes.encoding_eq.symm, ?_⟩
    rw [hagain.outcome_of_replayed, hs, ← htakes.encoding_eq,
      AnswerTable.get?_ofReadings_of_mem hdistinct hr]
    rfl
  · have hapart : ∀ d ∈ selected.drop readings.length, ∀ r ∈ readings, r.encoding ≠ d.encoding :=
      fun d hd r hr => encoding_ne_of_mem_drop hselected hread hd hr
    refine ((List.forall₂_and_left _ _).2 ⟨hapart, List.forall₂_drop _ hreplayed⟩).imp ?_
    rintro d r' ⟨hnone, hmissing⟩
    refine ⟨hmissing.name_eq, hmissing.encoding_eq, ?_⟩
    rw [hmissing.outcome_of_replayed, hs, AnswerTable.get?_ofReadings_eq_none hnone]
    rfl

end

/-! ## Reproduction -/

/-- A second dump over the selected registers reproduces a first one.  It repeats the readings of
the first one and finds every other register unavailable; the comparison of the two snapshots counts
what the first one counted, and adds the registers that it had not read. -/
structure Catalog.Reproduces (c : Catalog) (selected : List Definition) (first second : Dump) :
    Prop where
  readings : ∃ again missing, second.snapshot.readings = again ++ missing ∧
    List.Forall₂ Reading.Agrees first.snapshot.readings again ∧
    List.Forall₂ Definition.Unavailable (first.unread selected) missing
  tally : first.unread selected = [] → second.tally = first.tally
  comparison : ∃ comparison, c.compare first.snapshot second.snapshot = .ok comparison ∧
    comparison.entries = first.snapshot.readings.map Catalog.keptEntry ++
      (first.unread selected).map (fun d => ⟨d.name, d.encoding, none, none, .added⟩) ∧
    comparison.summary = ⟨(first.unread selected).length, 0, first.tally.succeeded, 0,
      first.tally.failed⟩

/-- The entries of registers that were unavailable show no value. -/
lemma map_addedEntry_of_unavailable {ds : List Definition} {missing : List Reading}
    (h : List.Forall₂ Definition.Unavailable ds missing) :
    missing.map Catalog.addedEntry = ds.map fun d => ⟨d.name, d.encoding, none, none, .added⟩ := by
  rw [← List.forall₂_eq_eq_eq, List.forall₂_map_left_iff, List.forall₂_map_right_iff]
  refine h.flip.imp fun r d hunavailable => ?_
  obtain ⟨hname, hencoding, houtcome⟩ := hunavailable
  rw [Catalog.addedEntry, hname, hencoding, Reading.value?, houtcome]

/-- Readings that are kept count as unchanged or unreadable, the registers after them as added. -/
lemma Comparison.summary_of_kept (readings : List Reading) (ds : List Definition) :
    summary ⟨readings.map Catalog.keptEntry ++
      ds.map fun d => ⟨d.name, d.encoding, none, none, .added⟩⟩ =
      ⟨ds.length, 0, (Tally.ofList readings).succeeded, 0, (Tally.ofList readings).failed⟩ := by
  -- The change of a kept entry depends on whether the reading has a value, and on nothing else.
  have hchange (r : Reading) : (Catalog.keptEntry r).change =
      if r.succeeded then .unchanged else .unreadable := rfl
  have hother (change : Change) (hu : change ≠ .unchanged) (hr : change ≠ .unreadable)
      (r : Reading) : ¬(if r.succeeded then .unchanged else .unreadable) = change := by
    cases r.succeeded
    · exact hr.symm
    · exact hu.symm
  simp only [summary, countWhere, List.countP_append, List.countP_map, Tally.ofList_eq,
    Function.comp_def, hchange]
  rw [ComparisonSummary.mk.injEq]
  refine ⟨?_, ?_, ?_, ?_, ?_⟩
  · simpa using fun r (_ : r ∈ readings) => hother .added nofun nofun r
  · simpa using fun r (_ : r ∈ readings) => hother .removed nofun nofun r
  · simp
  · simp only [List.countP_eq_zero, Nat.add_eq_zero_iff]
    refine ⟨fun r _ => ?_, by simp⟩
    cases r.succeeded <;> exact Bool.false_ne_true
  · simp

/-- Readings of a first part of the registers are reproduced by replaying them over all. -/
lemma Catalog.reproduces_of_takes (c : Catalog) {σ τ : Type} {tools : Instruments (StateM σ)}
    {now : StateM τ Time} {selected : List Definition} {first second : Dump}
    (hselected : selected.Pairwise fun a b => a.encoding ≠ b.encoding)
    (hread : List.Forall₂ tools.Takes (selected.take first.snapshot.readings.length)
      first.snapshot.readings)
    (hreplayed : List.Forall₂ (first.snapshot.replayed now).Takes selected
      second.snapshot.readings)
    (htally : first.tally = first.snapshot.tally) (htally' : second.tally = second.snapshot.tally) :
    c.Reproduces selected first second := by
  have hunread := Dump.unread_eq_drop hselected hread rfl
  obtain ⟨again, missing, hreadings, hagain, hmissing⟩ :=
    exists_again hselected hread rfl hreplayed
  rw [← hunread] at hmissing
  refine ⟨⟨again, missing, hreadings, hagain, hmissing⟩, ?_, ?_⟩
  · intro hall
    rw [hall, List.forall₂_nil_left_iff] at hmissing
    rw [hmissing, List.append_nil] at hreadings
    rw [htally, htally', Snapshot.tally, Snapshot.tally, hreadings, Tally.ofList_of_agrees hagain]
  · have hapart : ∀ r ∈ missing, ∀ r' ∈ first.snapshot.readings,
        ¬(r'.name = r.name ∧ r'.encoding = r.encoding) := by
      intro r hr r' hr' hsame
      obtain ⟨d, hd, hunavailable⟩ := exists_mem_of_forall₂ hmissing.flip hr
      rw [hunread] at hd
      exact encoding_ne_of_mem_drop hselected hread hd hr'
        (hsame.2.trans (Definition.Unavailable.encoding hunavailable))
    have hcompare := c.compare_of_agrees hreadings hagain hapart
    rw [map_addedEntry_of_unavailable hmissing] at hcompare
    refine ⟨_, hcompare, rfl, ?_⟩
    rw [Comparison.summary_of_kept, htally, Snapshot.tally]

/-- **A replayed dump reproduces itself.**  Whatever the reader answers, whatever is selected and
wherever the caller stops, the snapshot of a dump is loaded from its text.  A dump over the same
registers that replays it repeats each of its readings and finds the registers that it had not read
unavailable; compared with the first one, its readings are unchanged or unreadable, as the first
tally counts them, and these registers are added. -/
theorem Session.replayed_dump_reproduces {σ τ : Type} (c : Catalog) (filter : Option Category)
    (s : Session) (tools : Instruments (StateM σ)) (label : String)
    (watch : Reading → StateM σ Bool) (w : σ) (s' : Session) (now : StateM τ Time) (label' : String)
    (w' : τ) :
    let first := ((s.dumpWatched tools c label filter watch).run w).1.2
    ∃ loaded, Snapshot.ofText first.snapshot.text = .ok loaded ∧
      c.Reproduces (c.select filter) first
        ((s'.dump (loaded.replayed now) c label' filter).run w').1.2 := by
  intro first
  obtain ⟨d, next, before, after, hdump, hrun, -, -, htally⟩ :=
    s.dumpWatched_run tools watch c label filter w
  have hfirst : first = d := congrArg (·.1.2) hdump
  have hread := hrun.forall₂
  have hsystem : ∀ r ∈ d.snapshot.readings, r.encoding.isSystemRegister = true := by
    intro r hr
    obtain ⟨x, hx, htakes⟩ := exists_mem_of_forall₂ hread.flip hr
    rw [Instruments.Takes.encoding_eq htakes]
    exact c.wellFormed.system x (c.mem_registers_of_mem_select filter (List.mem_of_mem_take hx))
  rw [hfirst]
  refine ⟨d.snapshot, Snapshot.ofText_text hsystem, ?_⟩
  obtain ⟨d', next', before', after', hdump', hrun', -, -, htally'⟩ :=
    s'.dumpWatched_run (d.snapshot.replayed now) (fun _ => pure false) c label' filter w'
  have hreplayed : List.Forall₂ (d.snapshot.replayed now).Takes (c.select filter)
      d'.snapshot.readings := by
    have hlength := hrun'.length_eq hrun'.stop_eq_false
    have hall := hrun'.forall₂
    rwa [hlength, List.take_length] at hall
  rw [dump, hdump']
  exact c.reproduces_of_takes (c.pairwise_select_encodings filter) hread hreplayed htally htally'

end SysReg
