import Mathlib.Data.List.Chain
import SysReg.Proofs.Session.Agreement
import SysReg.Proofs.Session.Operation

/-!
# The lifecycle of a session

Whatever operations a session goes through, its stage changes in few ways, in the middle of a dump as
well as between operations (`lifecycle`).  A dump counts the registers up one by one and ends in the
stage after them, from which, as from every other stage outside of a dump, the session goes to a
stage in which a result was handed on, or back to rest.

Handing a result on does not ask for the stage: a dump can be written first and shown then, or be
that of another session.  So the stages after a dump are not entered from the end of a dump alone
(`not_keeps_aggregating`).

The session keeps the stages it has passed.  What is said of them is proved along the steps that
enter them (`Session.LeadsTo`), once for the loop of a dump, once for each operation and once for
their sequence.
-/

namespace SysReg

/-! ## Changes of the stage -/

namespace Stage

/-- A dump has ended, or a result was handed on. -/
inductive HasResult : Stage → Prop where
  | aggregating : HasResult .aggregating
  | persisted (path : String) : HasResult (.persisted path)
  | displayed : HasResult .displayed

/-- No dump is under way. -/
def IsSettled (stage : Stage) : Prop :=
  stage = .idle ∨ stage.HasResult

/-- The changes of the stage, where results are handed on in the stages that are ready for it. -/
inductive Changes (ready : Stage → Prop) : Stage → Stage → Prop where
  | begins (total : Nat) : Changes ready .idle (.reading 0 total)
  | reads {completed total : Nat} (h : completed < total) :
      Changes ready (.reading completed total) (.reading (completed + 1) total)
  | ends (completed total : Nat) : Changes ready (.reading completed total) .aggregating
  | persists {stage : Stage} (h : ready stage) (path : String) :
      Changes ready stage (.persisted path)
  | displays {stage : Stage} (h : ready stage) : Changes ready stage .displayed
  | rests {stage : Stage} (h : stage.HasResult) : Changes ready stage .idle

end Stage

namespace Session

/-- The stages of the session, in their order. -/
def stages (s : Session) : List Stage :=
  (s.stage :: s.passed).reverse

/-- Each stage of the session is the one before it or comes from it by a change. -/
def Keeps (ready : Stage → Prop) (s : Session) : Prop :=
  s.stages.IsChain fun stage next => next = stage ∨ stage.Changes ready next

/-- The session goes on to the other one: stage by stage, each of them the one before it or come from
it by a change. -/
def LeadsTo : Session → Session → Prop :=
  Relation.ReflTransGen fun s s' =>
    ∃ next, (next = s.stage ∨ s.stage.Changes Stage.IsSettled next) ∧ s' = s.enter next

variable {s s' : Session} {next : Stage}

lemma stages_enter (s : Session) (next : Stage) : (s.enter next).stages = s.stages ++ [next] :=
  List.reverse_cons

lemma getLast?_stages (s : Session) : s.stages.getLast? = some s.stage := by
  rw [stages, List.reverse_cons, List.getLast?_concat]

lemma LeadsTo.enter (h : next = s.stage ∨ s.stage.Changes Stage.IsSettled next) :
    s.LeadsTo (s.enter next) :=
  .single ⟨next, h, rfl⟩

/-- A session that goes on forgets no stage. -/
lemma LeadsTo.stages_prefix (h : s.LeadsTo s') : s.stages <+: s'.stages := by
  induction h with
  | refl => exact List.prefix_rfl
  | tail _ hstep ih =>
    obtain ⟨next, -, rfl⟩ := hstep
    exact ih.trans (stages_enter _ next ▸ List.prefix_append _ _)

lemma LeadsTo.keeps (h : s.LeadsTo s') (hs : s.Keeps Stage.IsSettled) :
    s'.Keeps Stage.IsSettled := by
  induction h with
  | refl => exact hs
  | @tail between _ _ hstep ih =>
    obtain ⟨next, hnext, rfl⟩ := hstep
    rw [Keeps, stages_enter, List.isChain_append]
    refine ⟨ih, List.isChain_singleton _, fun stage hlast stage' hhead => ?_⟩
    obtain rfl : between.stage = stage :=
      Option.some.inj ((getLast?_stages between).symm.trans hlast)
    obtain rfl : next = stage' := Option.some.inj hhead
    exact hnext

/-! ## Dumps -/

variable {σ : Type}

lemma leadsTo_rest (hs : s.stage.IsSettled) : s.LeadsTo s.rest ∧ s.rest.stage = .idle := by
  rw [rest]
  split
  · next hidle => exact ⟨.refl, hidle⟩
  · next hidle => exact ⟨.enter (.inr (.rests (hs.resolve_left hidle))), rfl⟩

/-- The loop of a dump counts the registers up, and never beyond their number. -/
lemma exists_leadsTo_readAll (tools : Instruments (StateM σ)) (watch : Reading → StateM σ Bool)
    {total : Nat} (p : Progress) {ds : List Definition} (w : σ)
    (hstage : p.session.stage = .reading p.completed total)
    (htotal : p.completed + ds.length = total) :
    ∃ p' w' completed, (readAll tools watch total p ds).run w = (p', w') ∧
      p.session.LeadsTo p'.session ∧ p'.session.stage = .reading completed total := by
  induction ds generalizing p w with
  | nil => exact ⟨p, w, p.completed, rfl, .refl, hstage⟩
  | cons d rest ih =>
    rw [List.length_cons] at htotal
    obtain ⟨r, w₁, htake⟩ : ∃ r w₁, (tools.take d.name d.encoding).run w = (r, w₁) := ⟨_, _, rfl⟩
    obtain ⟨stop, w₂, hwatch⟩ : ∃ stop w₂, (watch r).run w₁ = (stop, w₂) := ⟨_, _, rfl⟩
    have hreads : p.session.stage.Changes Stage.IsSettled (.reading (p.completed + 1) total) :=
      hstage ▸ .reads (by omega)
    have hadd : p.session.LeadsTo (p.add total r stop).session := .enter (.inr hreads)
    rw [readAll_cons htake hwatch]
    cases stop with
    | true => exact ⟨p.add total r true, w₂, p.completed + 1, rfl, hadd, rfl⟩
    | false =>
      have hrest : (p.add total r false).completed + rest.length = total := by
        change p.completed + 1 + rest.length = total
        omega
      obtain ⟨p', w', completed, hrun, hleads, hend⟩ := ih (p.add total r false) w₂ rfl hrest
      exact ⟨p', w', completed, hrun, hadd.trans hleads, hend⟩

lemma exists_leadsTo_dumpWatched (hs : s.stage.IsSettled) (tools : Instruments (StateM σ))
    (watch : Reading → StateM σ Bool) (c : Catalog) (label : String) (filter : Option Category)
    (w : σ) :
    ∃ s' d w', (s.dumpWatched tools c label filter watch).run w = ((s', d), w') ∧
      s.LeadsTo s' ∧ s'.stage.IsSettled := by
  obtain ⟨createdAt, before, hnow⟩ : ∃ createdAt before, tools.now.run w = (createdAt, before) :=
    ⟨_, _, rfl⟩
  obtain ⟨hrest, hidle⟩ := leadsTo_rest hs
  obtain ⟨p, w', completed, hread, hleads, hstage⟩ :=
    exists_leadsTo_readAll tools watch
      ⟨s.rest.enter (.reading 0 (c.select filter).length), 0,
        ⟨.empty label filter createdAt, .zero, false⟩⟩ before rfl (Nat.zero_add _)
  refine ⟨p.session.enter .aggregating, p.dump, w', ?_, ?_, .inr .aggregating⟩
  · rw [dumpWatched, StateT.run_bind, hnow]
    change StateT.run (readAll tools watch _ _ _ >>= fun p => return (p.session.enter _, p.dump)) _
      = _
    rw [StateT.run_bind, hread]
    rfl
  · have hbegins : s.rest.LeadsTo (s.rest.enter (.reading 0 (c.select filter).length)) :=
      .enter (.inr (hidle ▸ .begins _))
    have hends : p.session.LeadsTo (p.session.enter .aggregating) :=
      .enter (.inr (hstage ▸ .ends completed _))
    exact hrest.trans (hbegins.trans (hleads.trans hends))

/-! ## Operations -/

/-- A session outside of a dump goes on to another one outside of a dump. -/
lemma exists_leadsTo_perform (hs : s.stage.IsSettled) (env : Surroundings (StateM σ)) (c : Catalog)
    (op : Operation (StateM σ)) (w : σ) :
    ∃ s' reply w', (s.perform env c op).run w = ((s', reply), w') ∧
      s.LeadsTo s' ∧ s'.stage.IsSettled := by
  cases op with
  | dump label filter =>
    obtain ⟨s', d, w', hrun, hleads⟩ :=
      exists_leadsTo_dumpWatched hs env.tools (fun _ => pure false) c label filter w
    refine ⟨s', .dumped d, w', ?_, hleads⟩
    exact congrArg (Prod.map (Prod.map id Reply.dumped) id) hrun
  | dumpWatched label filter watch =>
    obtain ⟨s', d, w', hrun, hleads⟩ :=
      exists_leadsTo_dumpWatched hs env.tools watch c label filter w
    refine ⟨s', .dumped d, w', ?_, hleads⟩
    exact congrArg (Prod.map (Prod.map id Reply.dumped) id) hrun
  | readOne text => exact ⟨s, _, _, rfl, .refl, hs⟩
  | persist d path =>
    obtain ⟨answer, w', hwrite⟩ : ∃ answer w',
        (env.write path d.snapshot.text).run w = (answer, w') := ⟨_, _, rfl⟩
    rw [perform, StateT.run_map, persist, StateT.run_bind, hwrite]
    cases answer with
    | ok _ =>
      exact ⟨s.enter (.persisted path), _, _, rfl, .enter (.inr (.persists hs path)),
        .inr (.persisted path)⟩
    | error fault => exact ⟨s, _, _, rfl, .refl, hs⟩
  | display d form =>
    exact ⟨s.enter .displayed, _, w, rfl, .enter (.inr (.displays hs)), .inr .displayed⟩
  | reset =>
    refine ⟨s.enter .idle, .done, w, rfl, .enter ?_, .inl rfl⟩
    exact hs.imp Eq.symm .rests

/-- Operations one after the other lead from each session to all later ones. -/
lemma exists_leadsTo_performAll (hs : s.stage.IsSettled) (env : Surroundings (StateM σ))
    (c : Catalog) (ops : List (Operation (StateM σ))) (w : σ) :
    ∃ results w', (s.performAll env c ops).run w = (results, w') ∧
      (s :: results.map Prod.fst).Pairwise LeadsTo := by
  induction ops generalizing s w with
  | nil => exact ⟨[], w, rfl, List.pairwise_singleton _ _⟩
  | cons op ops ih =>
    obtain ⟨s', reply, between, hrun, hleads, hs'⟩ := exists_leadsTo_perform hs env c op w
    obtain ⟨results, w', hruns, hpairs⟩ := ih hs' between
    refine ⟨(s', reply) :: results, w', ?_, ?_⟩
    · rw [performAll, StateT.run_bind, hrun]
      change StateT.run (s'.performAll env c ops >>= _) _ = _
      rw [StateT.run_bind, hruns]
      rfl
    · rw [List.map_cons, List.pairwise_cons, List.forall_mem_cons]
      exact ⟨⟨hleads, fun later hlater => hleads.trans (List.rel_of_pairwise_cons hpairs hlater)⟩,
        hpairs⟩

/-- **The stage of a session changes in few ways.**  Any operations on a new session come to an end,
whatever the reader, the files and the watching callers do.  No session forgets a stage of one before
it, and each of its stages is the one before it or comes from it by a change: a dump begins at rest,
counts the registers up one by one and ends in the stage after them; a result is handed on in any
stage outside of a dump; and a session with a result goes back to rest. -/
theorem lifecycle (c : Catalog) (env : Surroundings (StateM σ)) (ops : List (Operation (StateM σ)))
    (w : σ) :
    ∃ results w', (start.performAll env c ops).run w = (results, w') ∧ start.stages = [.idle] ∧
      ((start :: results.map Prod.fst).Pairwise fun before after =>
        before.stages <+: after.stages) ∧
      ∀ entry ∈ results, entry.1.Keeps Stage.IsSettled := by
  have hidle : start.stage.IsSettled := .inl rfl
  obtain ⟨results, w', hrun, hpairs⟩ := exists_leadsTo_performAll hidle env c ops w
  refine ⟨results, w', hrun, rfl, hpairs.imp LeadsTo.stages_prefix, fun entry hentry => ?_⟩
  have hleads : start.LeadsTo entry.1 :=
    List.rel_of_pairwise_cons hpairs (List.mem_map_of_mem hentry)
  exact hleads.keeps (List.isChain_singleton _)

/-- A dump that is written first and shown then takes the session from one stage with a result to
another, so that results are not handed on at the end of a dump alone. -/
theorem not_keeps_aggregating : ∃ results w',
    (start.performAll ⟨counting, fun _ _ => pure (.ok ())⟩ Catalog.contested
      [.dump "boot" (some .other),
        .persist ⟨.empty "boot" (some .other) .epoch, .zero, false⟩ "boot.json",
        .display ⟨.empty "boot" (some .other) .epoch, .zero, false⟩ .text]).run 0 =
      (results, w') ∧
    results[0]?.map Prod.snd = some (.dumped ⟨.empty "boot" (some .other) .epoch, .zero, false⟩) ∧
    ∃ entry ∈ results, ¬entry.1.Keeps (· = .aggregating) := by
  refine ⟨_, _, rfl, rfl, _, List.mem_cons_of_mem _ (List.mem_cons_of_mem _ List.mem_cons_self), ?_⟩
  intro hkeeps
  change List.IsChain _ ([.idle, .reading 0 0, .aggregating, .persisted "boot.json", .displayed] :
    List Stage) at hkeeps
  simp only [List.isChain_cons_cons] at hkeeps
  obtain ⟨-, -, -, hsame | hchange, -⟩ := hkeeps
  · exact nomatch hsame
  · cases hchange with
    | displays h => exact nomatch h

end Session
end SysReg
