import SysReg.Proofs.Access.Trace
import SysReg.Proofs.Session.Dump

/-!
# What a dump asks for

A dump that keeps a trace of what it asks shows which registers it reads, how often and in which
order (`dump_reads_each_once`).  It makes one attempt on each of the first selected registers: it
asks the reader once, shows the caller what came of it, and goes on unless the caller stops it.  The
snapshot holds the reading of each attempt, none being refused, and the tally counts them.
-/

namespace SysReg

variable {σ : Type}

/-! ## Attempts -/

/-- One turn of a dump: a register, what the reader answered, when, and whether the caller stopped
the dump then. -/
structure Attempt where
  definition : Definition
  answer : Except Failure Word
  time : Time
  stop : Bool

namespace Attempt

/-- What comes of the attempt: the value, the detail of an unreadable register, or the wording of
any other failure. -/
def outcome (a : Attempt) : Outcome :=
  match a.answer with
  | .ok w => .value w
  | .error (.unreadable _ detail) => .failed detail
  | .error failure => .failed failure.message

/-- The reading that the attempt leaves. -/
def reading (a : Attempt) : Reading :=
  ⟨a.definition.name, a.definition.encoding, a.time, a.outcome⟩

/-- What the attempt asks: the reader for the register, and then the caller whether to stop. -/
def exchanges (a : Attempt) : List Exchange :=
  [.read a.definition.encoding a.answer, .shown a.reading a.stop]

lemma record_eq_reading (a : Attempt) :
    Reading.record a.definition.name a.definition.encoding a.time a.answer = a.reading := by
  obtain ⟨d, answer | w, time, stop⟩ := a
  · cases answer <;> rfl
  · rfl

/-- The attempts were made on the first of the registers, one on each and in order.  If they were
stopped, then the caller did so at the last of them and at none before; otherwise the caller never
did, and they were made on all registers. -/
structure Cover (ds : List Definition) (attempts : List Attempt) (stopped : Bool) : Prop where
  definitions : attempts.map Attempt.definition = ds.take attempts.length
  stop_last : stopped = true → ∃ earlier last, attempts = earlier ++ [last] ∧
    last.stop = true ∧ ∀ a ∈ earlier, a.stop = false
  stop_never : stopped = false → attempts.length = ds.length ∧ ∀ a ∈ attempts, a.stop = false

namespace Cover

lemma done : Cover [] [] false :=
  ⟨rfl, (absurd · Bool.false_ne_true), fun _ => ⟨rfl, List.forall_mem_nil _⟩⟩

lemma stopped {a : Attempt} (rest : List Definition) (hstop : a.stop = true) :
    Cover (a.definition :: rest) [a] true :=
  ⟨rfl, fun _ => ⟨[], a, rfl, hstop, List.forall_mem_nil _⟩, (absurd · Bool.true_eq_false.mp)⟩

lemma continued {a : Attempt} {rest : List Definition} {attempts : List Attempt} {stopped : Bool}
    (hstop : a.stop = false) (h : Cover rest attempts stopped) :
    Cover (a.definition :: rest) (a :: attempts) stopped where
  definitions := congrArg (a.definition :: ·) h.definitions
  stop_last hstopped := by
    obtain ⟨earlier, last, rfl, hlast, hearlier⟩ := h.stop_last hstopped
    exact ⟨a :: earlier, last, rfl, hlast, List.forall_mem_cons.2 ⟨hstop, hearlier⟩⟩
  stop_never hstopped := by
    obtain ⟨hlength, hnever⟩ := h.stop_never hstopped
    exact ⟨congrArg (· + 1) hlength, List.forall_mem_cons.2 ⟨hstop, hnever⟩⟩

end Cover
end Attempt

/-- The dump under the label and the filter holds what came of the attempts on the selected
registers: every reading was accepted into its snapshot, and the tally counts each once. -/
structure Dump.Holds (dump : Dump) (label : String) (filter : Option Category)
    (selected : List Definition) (attempts : List Attempt) : Prop where
  cover : Attempt.Cover selected attempts dump.interrupted
  labelled : dump.snapshot.label = label
  filtered : dump.snapshot.filter = filter
  readings : dump.snapshot.readings = attempts.map Attempt.reading
  accepted : (attempts.map Attempt.reading).foldlM Snapshot.push?
    (.empty label filter dump.snapshot.createdAt) = .ok dump.snapshot
  tally : dump.tally = .ofList dump.snapshot.readings
  total : dump.tally.succeeded + dump.tally.failed = dump.snapshot.size
  size : dump.snapshot.size = attempts.length

namespace Session

variable {tools : Instruments (StateM σ)} {watch : Reading → StateM σ Bool}

/-! ## Without the trace -/

lemma erasesTo_readAll (total : Nat) (p : Progress) (ds : List Definition) :
    ErasesTo (readAll tools.traced (tracedWatch watch) total p ds)
      (readAll tools watch total p ds) := by
  induction ds generalizing p with
  | nil => exact .of_pure p
  | cons d rest ih =>
    refine .bind (tools.erasesTo_take d.name d.encoding) fun r => ?_
    refine .bind (erasesTo_tracedWatch watch r) fun stop => ?_
    -- Both go on or end together: the answer of the caller is the same with a trace.
    cases stop with
    | true => exact .of_pure _
    | false => exact ih _

lemma erasesTo_dumpWatched (s : Session) (c : Catalog) (label : String)
    (filter : Option Category) :
    ErasesTo (s.dumpWatched tools.traced c label filter (tracedWatch watch))
      (s.dumpWatched tools c label filter watch) :=
  .bind tools.erasesTo_now fun _ => .bind (erasesTo_readAll _ _ _) fun _ => .of_pure _

/-! ## The trace of a run -/

/-- One turn of the loop is an attempt, which leaves two exchanges in the trace. -/
lemma exists_attempt {d : Definition} {r : Reading} {stop : Bool}
    {before between after : σ × List Exchange}
    (htake : (tools.traced.take d.name d.encoding).run before = (r, between))
    (hwatch : (tracedWatch watch r).run between = (stop, after)) :
    ∃ a : Attempt, a.definition = d ∧ a.stop = stop ∧ a.reading = r ∧
      after.2 = before.2 ++ a.exchanges := by
  obtain ⟨answer, time, hr, hbetween⟩ := Instruments.exists_answer_of_take htake
  have hafter : after.2 = between.2 ++ [.shown r stop] := by
    cases hwatch
    rfl
  let a : Attempt := ⟨d, answer, time, stop⟩
  have hreading : a.reading = r := a.record_eq_reading.symm.trans hr.symm
  refine ⟨a, rfl, rfl, hreading, ?_⟩
  rw [hafter, hbetween, List.append_assoc, Attempt.exchanges, hreading]
  rfl

/-- A run with a trace is a series of attempts, and leaves their exchanges in the trace. -/
lemma Run.exists_attempts {ds : List Definition} {readings : List Reading} {stop : Bool}
    {before after : σ × List Exchange}
    (h : Run tools.traced (tracedWatch watch) ds before readings stop after) :
    ∃ attempts, Attempt.Cover ds attempts stop ∧ attempts.map Attempt.reading = readings ∧
      after.2 = before.2 ++ attempts.flatMap Attempt.exchanges := by
  induction h with
  | done => exact ⟨[], .done, rfl, (List.append_nil _).symm⟩
  | stopped htake hwatch =>
    obtain ⟨a, rfl, hstop, rfl, hafter⟩ := exists_attempt htake hwatch
    exact ⟨[a], .stopped _ hstop, rfl, by rw [hafter, List.flatMap_singleton]⟩
  | continued htake hwatch _ ih =>
    obtain ⟨a, rfl, hstop, rfl, hbetween⟩ := exists_attempt htake hwatch
    obtain ⟨attempts, hcover, rfl, hafter⟩ := ih
    refine ⟨a :: attempts, .continued hstop hcover, rfl, ?_⟩
    rw [hafter, hbetween, List.flatMap_cons, List.append_assoc]

/-! ## Dumps of a catalog -/

/-- **A dump reads each register once and drops nothing.**  Whatever the reader and the caller do, a
dump comes to an end, and with a trace it does the same.  The trace then holds a series of attempts
and nothing else: each asks the reader once for the next of the selected registers and shows the
caller what came of it, up to the register at which the caller stops it.  The dump holds the
readings of these attempts. -/
theorem dump_reads_each_once (s : Session) (tools : Instruments (StateM σ))
    (watch : Reading → StateM σ Bool) (c : Catalog) (label : String) (filter : Option Category)
    (w : σ) :
    ∃ s' dump w' attempts,
      (s.dumpWatched tools c label filter watch).run w = ((s', dump), w') ∧
      (s.dumpWatched tools.traced c label filter (tracedWatch watch)).run (w, []) =
        ((s', dump), w', attempts.flatMap Attempt.exchanges) ∧
      dump.Holds label filter (c.select filter) attempts := by
  obtain ⟨dump, s', ⟨w', trace⟩, htraced, hrun, hfold, htally⟩ :=
    s.exists_run tools.traced (tracedWatch watch) c label filter (w, [])
  obtain ⟨attempts, hcover, hreadings, htrace⟩ := hrun.exists_attempts
  obtain ⟨labelled, filtered, hcreated, -⟩ := Snapshot.foldlM_push?_eq_ok hfold
  have hsize : dump.snapshot.size = attempts.length := by
    rw [Snapshot.size, ← hreadings, List.length_map]
  -- The trace of the clock is empty, so the run leaves nothing but the exchanges.
  have htrace : trace = attempts.flatMap Attempt.exchanges := htrace
  refine ⟨s', dump, w', attempts, ?_, htrace ▸ htraced, ?_⟩
  · obtain ⟨trace', herased⟩ := erasesTo_dumpWatched s c label filter w []
    rw [htraced] at herased
    exact Prod.ext (congrArg Prod.fst herased).symm (congrArg (·.2.1) herased).symm
  · refine ⟨hcover, labelled, filtered, hreadings.symm, ?_, htally, ?_, hsize⟩
    · rw [hreadings, hcreated]
      exact hfold
    · rw [htally]
      exact Tally.succeeded_add_failed _

end Session
end SysReg
