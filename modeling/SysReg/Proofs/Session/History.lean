import SysReg.Proofs.Session.Operation

/-!
# The history of a session

Whatever operations a session goes through, its reader is asked by dumps and by reads of single
registers alone, and between two operations the session is never in the middle of a dump
(`history_of_session`).

`Operation.Leads` says of each operation what it asks the reader and where it leaves the session;
`History` strings such turns together.  One turn is settled operation by operation
(`exists_turn`), and a history by induction on the operations (`exists_history`), from any session,
any state of the surroundings and any trace.
-/

namespace SysReg

variable {σ : Type}

/-! ## Turns -/

/-- The encoding of an exchange with the reader. -/
def Exchange.asked? : Exchange → Option Encoding
  | .read e _ => some e
  | .shown _ _ => none

/-- The encodings that the reader was asked for, in order. -/
def callsOf (exchanges : List Exchange) : List Encoding :=
  exchanges.filterMap Exchange.asked?

/-- What came of an operation: what it asked, its reply, and the session after it. -/
structure Turn where
  exchanges : List Exchange
  reply : Reply
  after : Session

/-- The encodings that the reader was asked for in the turn. -/
def Turn.calls (turn : Turn) : List Encoding :=
  callsOf turn.exchanges

/-- The encodings of the registers of a category, or of all. -/
def Catalog.selectedEncodings (c : Catalog) (filter : Option Category) : List Encoding :=
  (c.select filter).map Definition.encoding

/-- An operation leads a session to a turn.  A dump asks for the selected registers, all of them
unless its caller stops it; a single read asks for the register that the text names, if it names
one; nothing else asks for any. -/
inductive Operation.Leads (c : Catalog) (s : Session) : Operation (StateM σ) → Turn → Prop where
  | dump {label : String} {filter : Option Category} {turn : Turn} (d : Dump)
      (hreply : turn.reply = .dumped d) (hcalls : turn.calls = c.selectedEncodings filter)
      (hafter : turn.after.stage = .aggregating) :
      Leads c s (.dump label filter) turn
  | dumpWatched {label : String} {filter : Option Category} {watch : Reading → StateM σ Bool}
      {turn : Turn} (d : Dump) (hreply : turn.reply = .dumped d)
      (hcalls : turn.calls <+: c.selectedEncodings filter)
      (hall : (∀ r, Exchange.shown r true ∉ turn.exchanges) →
        turn.calls = c.selectedEncodings filter)
      (hafter : turn.after.stage = .aggregating) :
      Leads c s (.dumpWatched label filter watch) turn
  | readKnown {text : String} {turn : Turn} (d : Definition) (htext : c.resolve text = .ok d)
      (result : Except Failure DecodedReading) (hreply : turn.reply = .decoded result)
      (hcalls : turn.calls = [d.encoding]) (hafter : turn.after = s) :
      Leads c s (.readOne text) turn
  | readUnknown {text : String} {turn : Turn} (failure : Failure)
      (htext : c.resolve text = .error failure) (hreply : turn.reply = .decoded (.error failure))
      (hcalls : turn.calls = []) (hafter : turn.after = s) :
      Leads c s (.readOne text) turn
  | persisted {d : Dump} {path : String} {turn : Turn} (hreply : turn.reply = .written (.ok ()))
      (hcalls : turn.calls = []) (hafter : turn.after.stage = .persisted path) :
      Leads c s (.persist d path) turn
  | notPersisted {d : Dump} {path : String} {turn : Turn} (failure : Failure)
      (hreply : turn.reply = .written (.error failure)) (hcalls : turn.calls = [])
      (hafter : turn.after = s) :
      Leads c s (.persist d path) turn
  | displayed {d : Dump} {form : OutputForm} {turn : Turn} (hcalls : turn.calls = [])
      (hafter : turn.after.stage = .displayed) :
      Leads c s (.display d form) turn
  | reset {turn : Turn} (hcalls : turn.calls = []) (hafter : turn.after.stage = .idle) :
      Leads c s .reset turn

/-- The turns of operations that are carried out one after the other. -/
inductive History (c : Catalog) : Session → List (Operation (StateM σ)) → List Turn → Prop where
  | done (s : Session) : History c s [] []
  | next {s : Session} {op : Operation (StateM σ)} {ops : List (Operation (StateM σ))}
      {turn : Turn} {turns : List Turn} (hturn : op.Leads c s turn)
      (hrest : History c turn.after ops turns) :
      History c s (op :: ops) (turn :: turns)

/-- A session in the middle of a dump. -/
def Session.IsReading (s : Session) : Prop :=
  ∃ completed total, s.stage = .reading completed total

/-! ## Dumps -/

/-- Attempts ask the reader once each. -/
lemma callsOf_attempts (attempts : List Attempt) :
    callsOf (attempts.flatMap Attempt.exchanges) =
      attempts.map fun a => a.definition.encoding := by
  induction attempts with
  | nil => rfl
  | cons a attempts ih =>
    rw [List.flatMap_cons, callsOf, List.filterMap_append, ← callsOf, ← callsOf, ih]
    rfl

namespace Attempt.Cover

variable {ds : List Definition} {attempts : List Attempt} {stopped : Bool}

lemma calls_eq_take (h : Cover ds attempts stopped) :
    callsOf (attempts.flatMap Attempt.exchanges) =
      (ds.map Definition.encoding).take attempts.length := by
  rw [callsOf_attempts, ← List.map_take, ← h.definitions, List.map_map]
  rfl

/-- Attempts that were not stopped ask for every register. -/
lemma calls_eq (h : Cover ds attempts false) :
    callsOf (attempts.flatMap Attempt.exchanges) = ds.map Definition.encoding := by
  have hlength := (h.stop_never rfl).1
  rw [h.calls_eq_take, hlength, ← List.length_map Definition.encoding, List.take_length]

/-- Attempts to which the caller never answered to stop were not stopped. -/
lemma stopped_eq_false (h : Cover ds attempts stopped)
    (hnever : ∀ r, Exchange.shown r true ∉ attempts.flatMap Attempt.exchanges) :
    stopped = false := by
  rw [← Bool.not_eq_true]
  intro hstopped
  obtain ⟨earlier, last, rfl, hlast, -⟩ := h.stop_last hstopped
  refine hnever last.reading (List.mem_flatMap.2 ⟨last, ?_, ?_⟩)
  · exact List.mem_append_right _ (List.mem_singleton_self _)
  · rw [Attempt.exchanges, hlast]
    exact List.mem_cons_of_mem _ (List.mem_singleton_self _)

end Attempt.Cover

namespace Session

variable {tools : Instruments (StateM σ)}

/-- A dump with a trace makes a series of attempts, and then aggregates.  Nobody has stopped it if
the caller never answers to stop. -/
lemma exists_attempts_of_dumpWatched (s : Session) (tools : Instruments (StateM σ))
    (watch : Reading → StateM σ Bool) (c : Catalog) (label : String) (filter : Option Category)
    (w : σ) (trace : List Exchange) :
    ∃ s' d w' attempts,
      (s.dumpWatched tools.traced c label filter (tracedWatch watch)).run (w, trace) =
        ((s', d), w', trace ++ attempts.flatMap Attempt.exchanges) ∧
      s'.stage = .aggregating ∧ Attempt.Cover (c.select filter) attempts d.interrupted ∧
      ((∀ r w, ((watch r).run w).1 = false) → d.interrupted = false) := by
  obtain ⟨d, s', ⟨w', trace'⟩, hrun, hloop, -⟩ :=
    s.exists_run tools.traced (tracedWatch watch) c label filter (w, trace)
  obtain ⟨attempts, hcover, -, htrace⟩ := hloop.exists_attempts
  -- Reading the clock first leaves nothing in the trace.
  have hclock : (tools.traced.now.run (w, trace)).2.2 = trace := List.append_nil trace
  rw [hclock] at htrace
  obtain rfl : trace' = trace ++ attempts.flatMap Attempt.exchanges := htrace
  have hstage : s'.stage = .aggregating := congrArg (·.1.1.stage) hrun.symm
  exact ⟨s', d, w', attempts, hrun, hstage, hcover, fun hwatch =>
    hloop.stop_eq_false_of_never fun r before => hwatch r before.1⟩

/-! ## Single operations -/

variable (env : Surroundings (StateM σ)) (c : Catalog) (s : Session)

/-- Reading one register asks for the register that the text names, or fails without asking. -/
lemma exists_run_readOne (tools : Instruments (StateM σ)) (text : String) (w : σ)
    (trace : List Exchange) :
    ∃ result w' exchanges,
      (readOne tools.traced c text).run (w, trace) = (result, w', trace ++ exchanges) ∧
      ((∃ d, c.resolve text = .ok d ∧ callsOf exchanges = [d.encoding]) ∨
        ∃ failure, c.resolve text = .error failure ∧ result = .error failure ∧
          callsOf exchanges = []) := by
  rw [readOne]
  cases htext : c.resolve text with
  | error failure =>
    refine ⟨.error failure, w, [], ?_, .inr ⟨failure, rfl, rfl, rfl⟩⟩
    rw [List.append_nil]
    rfl
  | ok d =>
    obtain ⟨r, ⟨w', trace'⟩, htake⟩ : ∃ r after,
        (tools.traced.take d.name d.encoding).run (w, trace) = (r, after) := ⟨_, _, rfl⟩
    obtain ⟨answer, time, -, rfl⟩ := Instruments.exists_answer_of_take htake
    refine ⟨d.decodeReading r >>= fun fields => .ok ⟨d, r, fields⟩, w',
      [.read d.encoding answer], ?_, .inl ⟨d, rfl, rfl⟩⟩
    change StateT.run (tools.traced.take d.name d.encoding >>= _) _ = _
    rw [StateT.run_bind, htake]
    rfl

/-- Writing a dump asks the reader for nothing, and moves the session only if it works. -/
lemma exists_run_persist (d : Dump) (path : String) (w : σ) (trace : List Exchange) :
    ∃ s' result w',
      (s.persist env.traced.write d path).run (w, trace) = ((s', result), w', trace) ∧
      ((result = .ok () ∧ s'.stage = .persisted path) ∨
        ∃ failure, result = .error failure ∧ s' = s) := by
  obtain ⟨answer, w', hwrite⟩ : ∃ answer w',
      (env.write path d.snapshot.text).run w = (answer, w') := ⟨_, _, rfl⟩
  have htraced : (env.traced.write path d.snapshot.text).run (w, trace) = (answer, w', trace) := by
    have hnoting := run_noting (fun _ => []) hwrite trace
    rwa [List.append_nil] at hnoting
  rw [persist, StateT.run_bind, htraced]
  cases answer with
  | ok _ => exact ⟨_, _, w', rfl, .inl ⟨rfl, rfl⟩⟩
  | error fault => exact ⟨_, _, w', rfl, .inr ⟨_, rfl, rfl⟩⟩

/-- Each operation leads the session to a turn, and leaves the exchanges of the turn in the
trace. -/
lemma exists_turn (op : Operation (StateM σ)) (w : σ) (trace : List Exchange) :
    ∃ (turn : Turn) (w' : σ), op.Leads c s turn ∧
      (s.perform env.traced c op.traced).run (w, trace) =
        ((turn.after, turn.reply), w', trace ++ turn.exchanges) := by
  cases op with
  | dump label filter =>
    obtain ⟨s', d, w', attempts, hrun, hstage, hcover, hnever⟩ :=
      s.exists_attempts_of_dumpWatched env.tools (fun _ => pure false) c label filter w trace
    rw [hnever fun _ _ => rfl] at hcover
    refine ⟨⟨attempts.flatMap Attempt.exchanges, .dumped d, s'⟩, w',
      .dump d rfl hcover.calls_eq hstage, ?_⟩
    rw [Operation.traced, perform, StateT.run_map]
    exact congrArg (Prod.map (Prod.map id Reply.dumped) id) hrun
  | dumpWatched label filter watch =>
    obtain ⟨s', d, w', attempts, hrun, hstage, hcover, -⟩ :=
      s.exists_attempts_of_dumpWatched env.tools watch c label filter w trace
    have hprefix : callsOf (attempts.flatMap Attempt.exchanges) <+: c.selectedEncodings filter :=
      hcover.calls_eq_take ▸ List.take_prefix _ _
    refine ⟨⟨attempts.flatMap Attempt.exchanges, .dumped d, s'⟩, w',
      .dumpWatched d rfl hprefix (fun hall => ?_) hstage, ?_⟩
    · rw [hcover.stopped_eq_false hall] at hcover
      exact hcover.calls_eq
    · rw [Operation.traced, perform, StateT.run_map]
      exact congrArg (Prod.map (Prod.map id Reply.dumped) id) hrun
  | readOne text =>
    obtain ⟨result, w', exchanges, hrun, hcalls⟩ := exists_run_readOne c env.tools text w trace
    refine ⟨⟨exchanges, .decoded result, s⟩, w', ?_, ?_⟩
    · obtain ⟨d, htext, hcalls⟩ | ⟨failure, htext, rfl, hcalls⟩ := hcalls
      · exact .readKnown d htext result rfl hcalls rfl
      · exact .readUnknown failure htext rfl hcalls rfl
    · rw [Operation.traced, perform, StateT.run_map]
      exact congrArg (Prod.map (fun result => (s, Reply.decoded result)) id) hrun
  | persist d path =>
    obtain ⟨s', result, w', hrun, hresult⟩ := exists_run_persist env s d path w trace
    refine ⟨⟨[], .written result, s'⟩, w', ?_, ?_⟩
    · obtain ⟨rfl, hstage⟩ | ⟨failure, rfl, rfl⟩ := hresult
      · exact .persisted rfl rfl hstage
      · exact .notPersisted failure rfl rfl rfl
    · rw [Operation.traced, perform, StateT.run_map, List.append_nil]
      exact congrArg (Prod.map (Prod.map id Reply.written) id) hrun
  | display d form =>
    exact ⟨⟨[], _, _⟩, w, .displayed rfl rfl, by rw [List.append_nil]; rfl⟩
  | reset => exact ⟨⟨[], _, _⟩, w, .reset rfl rfl, by rw [List.append_nil]; rfl⟩

/-! ## Whole sessions -/

/-- Operations carried out one after the other make a history, and leave the exchanges of its turns
in the trace. -/
lemma exists_history (ops : List (Operation (StateM σ))) (w : σ) (trace : List Exchange) :
    ∃ (turns : List Turn) (w' : σ), History c s ops turns ∧
      (s.performAll env.traced c (ops.map Operation.traced)).run (w, trace) =
        (turns.map fun turn => (turn.after, turn.reply), w',
          trace ++ turns.flatMap Turn.exchanges) := by
  induction ops generalizing s w trace with
  | nil =>
    refine ⟨[], w, .done s, ?_⟩
    rw [List.flatMap_nil, List.append_nil]
    rfl
  | cons op ops ih =>
    obtain ⟨turn, between, hturn, hrun⟩ := exists_turn env c s op w trace
    obtain ⟨turns, w', hrest, hruns⟩ := ih turn.after between (trace ++ turn.exchanges)
    refine ⟨turn :: turns, w', .next hturn hrest, ?_⟩
    rw [List.map_cons, performAll, StateT.run_bind, hrun]
    change StateT.run (turn.after.performAll env.traced c (ops.map Operation.traced) >>= _) _ = _
    rw [StateT.run_bind, hruns, List.flatMap_cons, List.append_assoc]
    rfl

variable {c s}

/-- No operation leaves a session in the middle of a dump, unless it was there before. -/
lemma not_isReading_of_leads {op : Operation (StateM σ)} {turn : Turn} (h : op.Leads c s turn)
    (hs : ¬s.IsReading) : ¬turn.after.IsReading := by
  rintro ⟨completed, total, hreading⟩
  cases h with
  | dump _ _ _ hafter => exact nomatch hafter.symm.trans hreading
  | dumpWatched _ _ _ _ hafter => exact nomatch hafter.symm.trans hreading
  | readKnown _ _ _ _ _ hafter => exact hs ⟨completed, total, hafter ▸ hreading⟩
  | readUnknown _ _ _ _ hafter => exact hs ⟨completed, total, hafter ▸ hreading⟩
  | persisted _ _ hafter => exact nomatch hafter.symm.trans hreading
  | notPersisted _ _ _ hafter => exact hs ⟨completed, total, hafter ▸ hreading⟩
  | displayed _ hafter => exact nomatch hafter.symm.trans hreading
  | reset _ hafter => exact nomatch hafter.symm.trans hreading

lemma not_isReading_of_history {ops : List (Operation (StateM σ))} {turns : List Turn}
    (h : History c s ops turns) (hs : ¬s.IsReading) : ∀ turn ∈ turns, ¬turn.after.IsReading := by
  induction h with
  | done => exact List.forall_mem_nil _
  | next hturn _ ih =>
    have hnext := not_isReading_of_leads hturn hs
    exact List.forall_mem_cons.2 ⟨hnext, ih hnext⟩

/-- **What a session asks, and where it stands.**  Any operations on a new session, whatever the
reader, the files and the watching callers do, come to an end and do the same with a trace.  The
turns of the operations follow each other from the idle session, each as its operation leads to it;
the reader is asked for what the turns ask for, one after the other, and for nothing else; and after
no turn is the session in the middle of a dump. -/
theorem history_of_session (c : Catalog) (env : Surroundings (StateM σ))
    (ops : List (Operation (StateM σ))) (w : σ) :
    ∃ turns w',
      (start.performAll env c ops).run w =
        (turns.map fun turn => (turn.after, turn.reply), w') ∧
      (start.performAll env.traced c (ops.map Operation.traced)).run (w, []) =
        (turns.map fun turn => (turn.after, turn.reply), w', turns.flatMap Turn.exchanges) ∧
      callsOf (turns.flatMap Turn.exchanges) = turns.flatMap Turn.calls ∧
      start.stage = .idle ∧ History c start ops turns ∧
      ∀ turn ∈ turns, ¬turn.after.IsReading := by
  obtain ⟨turns, w', hhistory, htraced⟩ := exists_history env c start ops w []
  refine ⟨turns, w', (erasesTo_performAll env c start ops).run_eq htraced, htraced, ?_, rfl,
    hhistory, ?_⟩
  · exact List.filterMap_flatMap
  · exact not_isReading_of_history hhistory fun ⟨_, _, hreading⟩ => nomatch hreading

end Session
end SysReg
