import SysReg.Proofs.Catalog.Lookup
import SysReg.Proofs.Decoding.Refusal
import SysReg.Proofs.Session.Operation

/-!
# Single reads and dumps

Reading a single register says what a dump of the catalog records of it (`readOne_agrees`).  The one
turns what a reader answers into a result and the other into a reading: where the reading has a
value the result is this value with its fields, and where it has the detail of a failure the result
is a failed read with the same detail, whatever kind of failure the reader gave.

The two are taken at different times and in different states of the reader, so they can only be held
against each other if the answers of the reader depend on the encoding alone (`Answers`).  Nothing
is assumed of the clock, of the state that a dump begins in, or of the registers that it reads
before this one.
-/

namespace SysReg

variable {σ : Type} {tools : Instruments (StateM σ)} {answer : Encoding → Except Failure Word}

/-! ## Readers without a memory -/

/-- The reader answers for each encoding in the same way at all times. -/
def Instruments.Answers (tools : Instruments (StateM σ)) (answer : Encoding → Except Failure Word) :
    Prop :=
  ∀ e w, ((tools.read e).run w).1 = answer e

namespace Instruments.Answers

/-- A reading records what the reader answers, and the trace shows the one question. -/
lemma exists_take (h : tools.Answers answer) (name : String) (e : Encoding) (w : σ) :
    ∃ time w', (tools.take name e).run w = (.record name e time (answer e), w') ∧
      ∀ trace, (tools.traced.take name e).run (w, trace) =
        (.record name e time (answer e), w', trace ++ [.read e (answer e)]) := by
  rw [← h e w]
  refine ⟨_, _, rfl, fun trace => ?_⟩
  -- The clock adds nothing to the trace.
  refine Prod.ext rfl (Prod.ext rfl ?_)
  exact List.append_nil _

end Instruments.Answers

/-! ## What a dump records -/

namespace Session

variable {c : Catalog} {d : Definition}

/-- A dump of the catalog records for each register what the reader answers for its encoding. -/
lemma exists_get?_dump (h : tools.Answers answer) (s : Session) (label : String) (w : σ)
    (hd : d ∈ c.registers) : ∃ time,
    ((s.dump tools c label none).run w).1.2.snapshot.get? d.name =
      some (.record d.name d.encoding time (answer d.encoding)) := by
  obtain ⟨dump, s', before, after, hdump, hrun, -⟩ :=
    s.dumpWatched_run tools (fun _ => pure false) c label none w
  have hall := hrun.forall₂
  rw [hrun.length_eq hrun.stop_eq_false, List.take_length, c.select_none] at hall
  obtain ⟨r, hr, htakes⟩ := exists_mem_of_forall₂ hall hd
  obtain ⟨before', time, hrecord⟩ := htakes.exists_record
  rw [h d.encoding before'] at hrecord
  have hget : dump.snapshot.get? r.name = some r := find?_key_eq_some dump.snapshot.distinct hr
  rw [htakes.name_eq, hrecord] at hget
  refine ⟨time, ?_⟩
  rw [Session.dump, hdump]
  exact hget

/-! ## What a single read says -/

lemma readOne_of_resolve {text : String} (htext : c.resolve text = .ok d) {w w' : σ} {r : Reading}
    (htake : (tools.take d.name d.encoding).run w = (r, w')) :
    (readOne tools c text).run w =
      ((do let fields ← d.decodeReading r
           return ⟨d, r, fields⟩), w') := by
  rw [readOne, htext]
  change StateT.run (tools.take d.name d.encoding >>= fun r => pure _) w = _
  rw [StateT.run_bind, htake]
  rfl

end Session

/-- The result of a single read of the register says what the snapshot records of it. -/
structure Snapshot.AgreesOn (s : Snapshot) (d : Definition)
    (result : Except Failure DecodedReading) : Prop where
  recorded : ∃ r, s.get? d.name = some r
  /-- A value was read exactly if it is recorded, and it comes with its fields. -/
  value : ∀ w, (∃ report, result = .ok report ∧ report.definition = d ∧
      report.reading.value? = some w ∧ d.decode w = .ok report.fields) ↔
    ∃ r, s.get? d.name = some r ∧ r.value? = some w
  /-- The read failed exactly if a failure is recorded, and it failed with the recorded detail. -/
  failed : ∀ failure, result = .error failure ↔
    ∃ r detail, s.get? d.name = some r ∧ r.detail? = some detail ∧
      failure = .unreadable d.name detail

/-- Readings that record the same answer agree, whenever they were taken. -/
lemma Snapshot.agreesOn_of_record {s : Snapshot} {d : Definition} {time time' : Time}
    {answer : Except Failure Word} (hvalid : ∀ f ∈ d.fields, f.bits.IsValid)
    (hget : s.get? d.name = some (.record d.name d.encoding time answer)) :
    s.AgreesOn d (do
      let fields ← d.decodeReading (.record d.name d.encoding time' answer)
      return ⟨d, .record d.name d.encoding time' answer, fields⟩) := by
  cases answer with
  | error failure =>
    have hrefused : d.decodeReading (.record d.name d.encoding time' (.error failure)) =
        .error (.unreadable d.name failure.detail) := rfl
    rw [hrefused]
    refine ⟨⟨_, hget⟩, fun w => iff_of_false ?_ ?_, fun failure' => ?_⟩
    · rintro ⟨report, heq, -⟩
      exact nomatch heq
    · rintro ⟨r, hr, hvalue⟩
      cases Option.some.inj (hget.symm.trans hr)
      exact nomatch hvalue
    · constructor
      · intro heq
        exact ⟨_, _, hget, rfl, (Except.error.inj heq).symm⟩
      · rintro ⟨r, detail, hr, hdetail, rfl⟩
        cases Option.some.inj (hget.symm.trans hr)
        cases hdetail
        rfl
  | ok w =>
    have hdecoded : d.decodeReading (.record d.name d.encoding time' (.ok w)) =
        .ok (d.fields.map (·.part w)) := by
      rw [← Definition.decode_eq_ok hvalid w]
      exact if_pos rfl
    rw [hdecoded]
    refine ⟨⟨_, hget⟩, fun v => ?_, fun failure => iff_of_false ?_ ?_⟩
    · constructor
      · rintro ⟨report, heq, -, hvalue, -⟩
        cases Except.ok.inj heq
        exact ⟨_, hget, hvalue⟩
      · rintro ⟨r, hr, hvalue⟩
        cases Option.some.inj (hget.symm.trans hr)
        cases hvalue
        exact ⟨_, rfl, rfl, rfl, Definition.decode_eq_ok hvalid w⟩
    · exact fun heq => nomatch heq
    · rintro ⟨r, detail, hr, hdetail, -⟩
      cases Option.some.inj (hget.symm.trans hr)
      exact nomatch hdetail

namespace Session

/-- **A single read agrees with a dump.**  A text that names no register fails as it does when it is
resolved, and the reader is not asked.  Otherwise the reader is asked once, for the register that
the text names, and the result says what a dump of all registers records of it, whenever and by
whatever session the dump is made. -/
theorem readOne_agrees (c : Catalog) (h : tools.Answers answer) (text : String) :
    (∀ failure, c.resolve text = .error failure → ∀ w trace,
      (readOne tools c text).run w = (.error failure, w) ∧
      (readOne tools.traced c text).run (w, trace) = (.error failure, w, trace)) ∧
    (∀ d, c.resolve text = .ok d → ∀ w, ∃ result w',
      (readOne tools c text).run w = (result, w') ∧
      (readOne tools.traced c text).run (w, []) =
        (result, w', [.read d.encoding (answer d.encoding)]) ∧
      ∀ (s : Session) label v,
        ((s.dump tools c label none).run v).1.2.snapshot.AgreesOn d result) := by
  constructor
  · intro failure htext w trace
    constructor
    · rw [readOne, htext]
      rfl
    · rw [readOne, htext]
      rfl
  · intro d htext w
    obtain ⟨time, w', htake, htraced⟩ := h.exists_take d.name d.encoding w
    have hd := c.mem_registers_of_resolve htext
    refine ⟨_, w', readOne_of_resolve htext htake, readOne_of_resolve htext (htraced []),
      fun s label v => ?_⟩
    obtain ⟨time', hget⟩ := exists_get?_dump h s label v hd
    exact Snapshot.agreesOn_of_record (c.wellFormed.layouts d hd).valid hget

/-- A reader that counts how often it is asked, and has a value for one register alone. -/
def counting : Instruments (StateM Nat) where
  read e := modifyGet fun calls =>
    (if e = .truncating 3 0 15 0 0 then .ok 7 else .error (.argument (.stated "refused")),
      calls + 1)
  now := pure .epoch

/-- A name that is not known is no question to the reader.  A register that the reader refuses for
another reason than that it is unreadable cannot be read all the same, with this reason as the
detail that a later dump records. -/
theorem readOne_agrees_counting :
    (readOne counting Catalog.contested "HID9").run 0 = (.error (.unresolved "HID9"), 0) ∧
    ∃ d result, Catalog.contested.resolve "S3_0_C15_C0_0" = .ok d ∧
      (readOne counting Catalog.contested "S3_0_C15_C0_0").run 0 = (result, 1) ∧
      result = .error (.unreadable d.name "Invalid argument: refused") ∧
      ((start.dump counting Catalog.contested "full" none).run 5).1.2.snapshot.AgreesOn d
        result := by
  have h : counting.Answers fun e =>
      if e = .truncating 3 0 15 0 0 then .ok 7 else .error (.argument (.stated "refused")) :=
    fun _ _ => rfl
  have hunknown : Catalog.contested.resolve "HID9" = .error (.unresolved "HID9") := by decide
  have hknown : Catalog.contested.resolve "S3_0_C15_C0_0" =
      .ok ⟨"s3_0_c15_c0_0", .truncating 3 0 15 2 0, .hid, none, []⟩ := by decide
  obtain ⟨hrun, -⟩ := (readOne_agrees Catalog.contested h "HID9").1 _ hunknown 0 []
  obtain ⟨result, calls, hresult, -, hagrees⟩ :=
    (readOne_agrees Catalog.contested h "S3_0_C15_C0_0").2 _ hknown 0
  have hrefused : (readOne counting Catalog.contested "S3_0_C15_C0_0").run 0 =
      (.error (.unreadable "s3_0_c15_c0_0" "Invalid argument: refused"), 1) := by
    rw [readOne, hknown]
    rfl
  rw [hresult] at hrefused
  cases hrefused
  exact ⟨hrun, _, _, hknown, hresult, rfl, hagrees start "full" 5⟩

end Session
end SysReg
