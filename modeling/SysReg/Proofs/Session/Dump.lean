import Mathlib.Data.List.Forall2
import SysReg.Proofs.Snapshot.Basic
import SysReg.Session.Basic

/-!
# Runs of a dump

A dump is a loop over the selected registers, run here over any state that the reader, the clock and
the watching caller share.  `Session.Run` is the loop as a relation: it takes one reading after the
other, each in the state that the one before left, until the registers are used up or the caller
stops it.  `exists_run` shows that a dump is such a run, and that its snapshot and its tally hold
exactly the readings of the run: the names of a catalog differ, so the snapshot refuses none.
-/

namespace SysReg

variable {σ : Type} {tools : Instruments (StateM σ)} {watch : Reading → StateM σ Bool}

/-! ## Single readings -/

/-- The reading is one that the instruments take of the register in some state. -/
def Instruments.Takes (tools : Instruments (StateM σ)) (d : Definition) (r : Reading) : Prop :=
  ∃ before after, (tools.take d.name d.encoding).run before = (r, after)

/-- A reading records one answer of the reader, under the name and encoding of the register. -/
lemma Instruments.Takes.exists_record {d : Definition} {r : Reading} (h : tools.Takes d r) :
    ∃ before time, r = .record d.name d.encoding time ((tools.read d.encoding).run before).1 := by
  obtain ⟨before, after, h⟩ := h
  exact ⟨before, _, (congrArg Prod.fst h).symm⟩

lemma Instruments.Takes.name_eq {d : Definition} {r : Reading} (h : tools.Takes d r) :
    r.name = d.name := by
  obtain ⟨before, time, rfl⟩ := h.exists_record
  exact Reading.name_record ..

lemma Instruments.Takes.encoding_eq {d : Definition} {r : Reading} (h : tools.Takes d r) :
    r.encoding = d.encoding := by
  obtain ⟨before, time, rfl⟩ := h.exists_record
  exact Reading.encoding_record ..

/-! ## Selected registers -/

namespace Catalog

variable (c : Catalog) (filter : Option Category)

lemma mem_registers_of_mem_select {d : Definition} (h : d ∈ c.select filter) : d ∈ c.registers :=
  (List.mem_filter.1 h).1

lemma pairwise_select_names : (c.select filter).Pairwise fun a b => a.name ≠ b.name := by
  refine (c.wellFormed.names.filter _).imp fun {a b} h hname => h ?_
  rw [Violation.foldedName, Violation.foldedName, hname]

lemma pairwise_select_encodings :
    (c.select filter).Pairwise fun a b => a.encoding ≠ b.encoding :=
  c.wellFormed.encodings.filter _

end Catalog

/-! ## The loop -/

namespace Session

/-- The loop of a dump over the registers, from one state to another, with the readings taken and
whether the caller stopped it. -/
inductive Run (tools : Instruments (StateM σ)) (watch : Reading → StateM σ Bool) :
    List Definition → σ → List Reading → Bool → σ → Prop where
  | done (w : σ) : Run tools watch [] w [] false w
  | stopped {d : Definition} {rest : List Definition} {r : Reading} {w w₁ w₂ : σ}
      (htake : (tools.take d.name d.encoding).run w = (r, w₁))
      (hwatch : (watch r).run w₁ = (true, w₂)) :
      Run tools watch (d :: rest) w [r] true w₂
  | continued {d : Definition} {rest : List Definition} {r : Reading} {readings : List Reading}
      {stop : Bool} {w w₁ w₂ w₃ : σ}
      (htake : (tools.take d.name d.encoding).run w = (r, w₁))
      (hwatch : (watch r).run w₁ = (false, w₂))
      (hrest : Run tools watch rest w₂ readings stop w₃) :
      Run tools watch (d :: rest) w (r :: readings) stop w₃

namespace Run

variable {ds : List Definition} {w w' : σ} {readings : List Reading} {stop : Bool}

/-- The readings are those of the first registers, in their order. -/
lemma forall₂ (h : Run tools watch ds w readings stop w') :
    List.Forall₂ tools.Takes (ds.take readings.length) readings := by
  induction h with
  | done => exact .nil
  | stopped htake => exact .cons ⟨_, _, htake⟩ .nil
  | continued htake _ _ ih => exact .cons ⟨_, _, htake⟩ ih

/-- A loop that nobody stops reads all registers. -/
lemma length_eq (h : Run tools watch ds w readings stop w') (hstop : stop = false) :
    readings.length = ds.length := by
  induction h with
  | done => rfl
  | stopped => exact absurd hstop.symm Bool.false_ne_true
  | continued _ _ _ ih => rw [List.length_cons, List.length_cons, ih hstop]

/-- A caller who answers every time to go on has not stopped the loop. -/
lemma stop_eq_false_of_never (h : Run tools watch ds w readings stop w')
    (hwatch : ∀ r w, ((watch r).run w).1 = false) : stop = false := by
  induction h with
  | done => rfl
  | stopped _ hstop => exact absurd (congrArg Prod.fst hstop) (by simp [hwatch])
  | continued _ _ _ ih => exact ih

lemma stop_eq_false (h : Run tools (fun _ => pure false) ds w readings stop w') : stop = false :=
  h.stop_eq_false_of_never fun _ _ => rfl

end Run

lemma readAll_cons {total : Nat} {p : Progress} {d : Definition} {rest : List Definition}
    {r : Reading} {stop : Bool} {w w₁ w₂ : σ}
    (htake : (tools.take d.name d.encoding).run w = (r, w₁))
    (hwatch : (watch r).run w₁ = (stop, w₂)) :
    (readAll tools watch total p (d :: rest)).run w =
      if stop then (p.add total r stop, w₂)
      else (readAll tools watch total (p.add total r stop) rest).run w₂ := by
  rw [readAll, StateT.run_bind, htake]
  change StateT.run (watch r >>= fun stop => if stop then return p.add total r stop
    else readAll tools watch total (p.add total r stop) rest) w₁ = _
  rw [StateT.run_bind, hwatch]
  cases stop <;> rfl

/-- A reading of a new name is accepted into the snapshot of the dump. -/
lemma Progress.push?_add {p : Progress} {r : Reading} (total : Nat) (stop : Bool)
    (h : ∀ a ∈ p.dump.snapshot.readings, a.name ≠ r.name) :
    p.dump.snapshot.push? r = .ok (p.add total r stop).dump.snapshot := by
  obtain ⟨next, hpush⟩ := Snapshot.exists_push? h
  rw [add, pushed, hpush]

/-- Registers whose names differ from each other and from those read before them still do so when
the first of them is read. -/
lemma Progress.ne_of_mem_add {p : Progress} {d : Definition} {rest : List Definition} {r : Reading}
    (total : Nat) (stop : Bool) (hname : r.name = d.name) (hnames : ∀ d' ∈ rest, d.name ≠ d'.name)
    (hnew : ∀ a ∈ p.dump.snapshot.readings, ∀ d' ∈ d :: rest, a.name ≠ d'.name) :
    ∀ a ∈ (p.add total r stop).dump.snapshot.readings, ∀ d' ∈ rest, a.name ≠ d'.name := by
  have hfresh : ∀ a ∈ p.dump.snapshot.readings, a.name ≠ r.name := fun a ha =>
    hname ▸ hnew a ha d List.mem_cons_self
  obtain ⟨-, -, -, -, hreadings⟩ := Snapshot.push?_eq_ok_iff.1 (p.push?_add total stop hfresh)
  intro a ha d' hd'
  rw [hreadings, List.mem_append, List.mem_singleton] at ha
  rcases ha with ha | rfl
  · exact hnew a ha d' (List.mem_cons_of_mem _ hd')
  · rw [hname]
    exact hnames d' hd'

/-- The loop of a dump is a run, and what the dump holds grows by the readings of the run. -/
lemma readAll_run (tools : Instruments (StateM σ)) (watch : Reading → StateM σ Bool) (total : Nat)
    (p : Progress) {ds : List Definition} (w : σ)
    (hnames : ds.Pairwise fun a b => a.name ≠ b.name)
    (hnew : ∀ a ∈ p.dump.snapshot.readings, ∀ d ∈ ds, a.name ≠ d.name)
    (hstop : p.dump.interrupted = false) :
    ∃ p' w' readings, (readAll tools watch total p ds).run w = (p', w') ∧
      Run tools watch ds w readings p'.dump.interrupted w' ∧
      readings.foldlM Snapshot.push? p.dump.snapshot = .ok p'.dump.snapshot ∧
      p'.dump.tally = readings.foldl Tally.count p.dump.tally := by
  induction ds generalizing p w with
  | nil => exact ⟨p, w, [], rfl, hstop ▸ .done w, rfl, rfl⟩
  | cons d rest ih =>
    rw [List.pairwise_cons] at hnames
    obtain ⟨r, w₁, htake⟩ : ∃ r w₁, (tools.take d.name d.encoding).run w = (r, w₁) := ⟨_, _, rfl⟩
    obtain ⟨stop, w₂, hwatch⟩ : ∃ stop w₂, (watch r).run w₁ = (stop, w₂) := ⟨_, _, rfl⟩
    have hname : r.name = d.name := Instruments.Takes.name_eq ⟨_, _, htake⟩
    have hpush := p.push?_add total stop fun a ha =>
      show a.name ≠ r.name from hname ▸ hnew a ha d List.mem_cons_self
    rw [readAll_cons htake hwatch]
    cases stop with
    | true =>
      refine ⟨_, w₂, [r], rfl, .stopped htake hwatch, ?_, rfl⟩
      rw [List.foldlM_cons, hpush]
      rfl
    | false =>
      have hnew' := Progress.ne_of_mem_add total false hname hnames.1 hnew
      obtain ⟨p', w', readings, hrun, hread, hfold, htally⟩ :=
        ih (p.add total r false) w₂ hnames.2 hnew' rfl
      refine ⟨p', w', r :: readings, hrun, .continued htake hwatch hread, ?_, htally⟩
      rw [List.foldlM_cons, hpush]
      exact hfold

/-! ## Dumps of a catalog -/

/-- **A dump is a run over the selected registers.**  It begins once the clock was read; the
snapshot takes the readings of the run one after the other and refuses none; the tally counts them;
and the dump is interrupted exactly if the caller stopped the run. -/
theorem exists_run (s : Session) (tools : Instruments (StateM σ))
    (watch : Reading → StateM σ Bool) (c : Catalog) (label : String) (filter : Option Category)
    (w : σ) :
    ∃ d s' after, (s.dumpWatched tools c label filter watch).run w = ((s', d), after) ∧
      Run tools watch (c.select filter) (tools.now.run w).2 d.snapshot.readings d.interrupted
        after ∧
      d.snapshot.readings.foldlM Snapshot.push? (.empty label filter (tools.now.run w).1) =
        .ok d.snapshot ∧
      d.tally = d.snapshot.tally := by
  obtain ⟨createdAt, before, hnow⟩ : ∃ createdAt before, tools.now.run w = (createdAt, before) :=
    ⟨_, _, rfl⟩
  obtain ⟨p, after, readings, hread, hrun, hfold, htally⟩ :=
    readAll_run tools watch (c.select filter).length
      ⟨s.rest.enter (.reading 0 (c.select filter).length), 0,
        ⟨.empty label filter createdAt, .zero, false⟩⟩
      before (c.pairwise_select_names filter) (fun r hr => absurd hr List.not_mem_nil) rfl
  obtain ⟨-, -, -, hreadings⟩ := Snapshot.foldlM_push?_eq_ok hfold
  have hreadings : p.dump.snapshot.readings = readings := hreadings
  rw [hnow]
  refine ⟨p.dump, p.session.enter .aggregating, after, ?_, hreadings ▸ hrun, hreadings ▸ hfold, ?_⟩
  · rw [dumpWatched, StateT.run_bind, hnow]
    change StateT.run (readAll tools watch _ _ _ >>= fun p => return (p.session.enter _, p.dump)) _
      = _
    rw [StateT.run_bind, hread]
    rfl
  · rw [htally, Snapshot.tally, hreadings, Tally.ofList]

/-- The snapshot of a dump holds the readings of a run, under the given label and filter. -/
theorem dumpWatched_run (s : Session) (tools : Instruments (StateM σ))
    (watch : Reading → StateM σ Bool) (c : Catalog) (label : String) (filter : Option Category)
    (w : σ) :
    ∃ d s' before after, (s.dumpWatched tools c label filter watch).run w = ((s', d), after) ∧
      Run tools watch (c.select filter) before d.snapshot.readings d.interrupted after ∧
      d.snapshot.label = label ∧ d.snapshot.filter = filter ∧ d.tally = d.snapshot.tally := by
  obtain ⟨d, s', after, hdump, hrun, hfold, htally⟩ :=
    s.exists_run tools watch c label filter w
  obtain ⟨hlabel, hfilter, -, -⟩ := Snapshot.foldlM_push?_eq_ok hfold
  exact ⟨d, s', _, after, hdump, hrun, hlabel, hfilter, htally⟩

end Session
end SysReg
