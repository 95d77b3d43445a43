import SysReg.Exploration.Sweep
import SysReg.Proofs.Access.Trace
import SysReg.Proofs.Catalog.Lookup
import SysReg.Proofs.Exploration.Box
import SysReg.Proofs.Snapshot.Basic

/-!
# What a sweep asks for

A sweep that keeps a trace of what it asks shows which encodings it reads, how often and in which
order (`sweep_covers`).  It asks the reader once for each encoding of the box that the catalog does
not know, in the order of the box, and for no other; each answer leaves one hit, and the counters of
the sweep agree with the hits.

Hits are collected in reverse, and the counters are kept along with them, so the sweep is followed
from any state of these (`exists_calls`): what it has so far stays, and what it goes on to read is
added to it.
-/

namespace SysReg

variable {σ : Type}

/-! ## Calls -/

/-- One call of a reader: what it was asked for, what it answered, and when. -/
structure Call where
  encoding : Encoding
  answer : Except Failure Word
  time : Time

namespace Call

/-- What the call leaves in a trace. -/
def exchange (call : Call) : Exchange :=
  .read call.encoding call.answer

/-- The hit that records the call. -/
def hit (call : Call) : Reading :=
  .record call.encoding.canonical call.encoding call.time call.answer

/-- The reading tells of the call: the encoding that was asked for, with the value, or with what the
failure has to say. -/
structure ToldBy (call : Call) (r : Reading) : Prop where
  name : r.name = call.encoding.canonical
  encoding : r.encoding = call.encoding
  value : ∀ w, call.answer = .ok w → r.outcome = .value w
  failure : ∀ failure, call.answer = .error failure → r.outcome = .failed failure.detail

lemma toldBy_hit (call : Call) : call.ToldBy call.hit := by
  obtain ⟨e, answer, time⟩ := call
  refine ⟨Reading.name_record .., Reading.encoding_record .., ?_, ?_⟩
  · rintro w rfl
    rfl
  · rintro failure rfl
    rfl

end Call

/-! ## The loop -/

namespace Sweep

/-- The sweep covers the box: the calls are one for each encoding that the catalog does not know, the
hits tell of the calls, and the counters agree with both. -/
structure Covers (s : Sweep) (c : Catalog) (box : Box) (calls : List Call) : Prop where
  asked : calls.map Call.encoding = box.encodings.filter fun e => !c.knows e
  once : (calls.map Call.encoding).Nodup
  unknown : ∀ call ∈ calls, ∀ d ∈ c.registers, d.encoding ≠ call.encoding
  hits : List.Forall₂ Call.ToldBy calls s.hits
  total : s.hits.length + s.skipped = box.size
  tally : s.tally.succeeded + s.tally.failed = s.hits.length
  responsive : s.responsive.length = s.tally.succeeded
  responsive_sublist : s.responsive.Sublist s.hits
  mem_responsive : ∀ r, r ∈ s.responsive ↔ r ∈ s.hits ∧ ∃ w, r.value? = some w
  nonzero_sublist : s.nonzero.Sublist s.responsive
  mem_nonzero : ∀ r, r ∈ s.nonzero ↔ r ∈ s.responsive ∧ ∃ w, r.value? = some w ∧ w ≠ 0

/-- A sweep that has gone on by these calls, and passed over so many encodings. -/
def after (s : Sweep) (calls : List Call) (skipped : Nat) : Sweep where
  hits := (calls.map Call.hit).reverse ++ s.hits
  tally := (calls.map Call.hit).foldl Tally.count s.tally
  skipped := s.skipped + skipped

lemma skip_after (s : Sweep) (calls : List Call) (skipped : Nat) :
    s.skip.after calls skipped = s.after calls (skipped + 1) := by
  rw [after, after, skip, Nat.add_assoc, Nat.add_comm 1]

lemma add_after (s : Sweep) (call : Call) (calls : List Call) (skipped : Nat) :
    (s.add call.hit).after calls skipped = s.after (call :: calls) skipped := by
  simp only [after, add, List.map_cons, List.reverse_cons, List.append_assoc,
    List.singleton_append, List.foldl_cons]

lemma mem_responsive_iff {s : Sweep} {r : Reading} :
    r ∈ s.responsive ↔ r ∈ s.hits ∧ ∃ w, r.value? = some w := by
  rw [responsive, List.mem_filter, Reading.succeeded, Option.isSome_iff_exists]

lemma mem_nonzero_iff {s : Sweep} {r : Reading} :
    r ∈ s.nonzero ↔ r ∈ s.responsive ∧ ∃ w, r.value? = some w ∧ w ≠ 0 := by
  rw [nonzero, List.mem_filter, Option.any_eq_true]
  simp only [decide_eq_true_eq]

/-- The counters of a sweep that went over the encodings of a box agree with its hits. -/
lemma covers_of_after {c : Catalog} {box : Box} {calls : List Call} (hbox : box.Made)
    (hasked : calls.map Call.encoding = box.encodings.filter fun e => !c.knows e) :
    (zero.after calls (box.encodings.countP c.knows)).reversed.Covers c box calls := by
  set s := (zero.after calls (box.encodings.countP c.knows)).reversed with hs
  have hhits : s.hits = calls.map Call.hit := by
    rw [hs, reversed, after, zero, List.append_nil, List.reverse_reverse]
  have htally : s.tally = .ofList s.hits := by
    rw [hhits]
    rfl
  have hlength : s.hits.length = box.encodings.countP fun e => !c.knows e := by
    rw [hhits, List.length_map, ← List.length_map Call.encoding, hasked,
      List.countP_eq_length_filter]
  have hskipped : s.skipped = box.encodings.countP c.knows := Nat.zero_add _
  refine ⟨hasked, ?_, ?_, ?_, ?_, ?_, ?_, List.filter_sublist, fun r => mem_responsive_iff,
    List.filter_sublist, fun r => mem_nonzero_iff⟩
  · rw [hasked]
    exact hbox.nodup_encodings.filter _
  · intro call hcall d hd hsame
    have hmem : call.encoding ∈ box.encodings.filter fun e => !c.knows e :=
      hasked ▸ List.mem_map_of_mem hcall
    have hknown : c.knows call.encoding = true := Catalog.knows_iff.2 ⟨d, hd, hsame⟩
    simp [hknown] at hmem
  · rw [hhits, List.forall₂_map_right_iff, List.forall₂_same]
    exact fun call _ => call.toldBy_hit
  · rw [hlength, hskipped, ← hbox.length_encodings,
      List.length_eq_countP_add_countP c.knows, Nat.add_comm]
    simp
  · rw [htally]
    exact Tally.succeeded_add_failed _
  · rw [htally, Tally.ofList_eq, responsive, List.countP_eq_length_filter]

end Sweep

namespace Catalog

variable (c : Catalog) (tools : Instruments (StateM σ))

lemma erasesTo_sweepFrom (s : Sweep) (es : List Encoding) :
    ErasesTo (c.sweepFrom tools.traced s es) (c.sweepFrom tools s es) := by
  induction es generalizing s with
  | nil => exact .of_pure s
  | cons e rest ih =>
    rw [sweepFrom, sweepFrom]
    cases c.knows e with
    | true => exact ih _
    | false => exact .bind (tools.erasesTo_take e.canonical e) fun r => ih _

lemma erasesTo_sweep (box : Box) : ErasesTo (c.sweep tools.traced box) (c.sweep tools box) :=
  (c.erasesTo_sweepFrom tools .zero box.encodings).map Sweep.reversed

/-- One read of a sweep is a call, which leaves one exchange in the trace. -/
lemma exists_call (e : Encoding) (w : σ) (trace : List Exchange) :
    ∃ (call : Call) (w' : σ), call.encoding = e ∧
      (tools.traced.take e.canonical e).run (w, trace) =
        (call.hit, w', trace ++ [call.exchange]) := by
  obtain ⟨r, ⟨w', trace'⟩, htake⟩ : ∃ r after,
      (tools.traced.take e.canonical e).run (w, trace) = (r, after) := ⟨_, _, rfl⟩
  obtain ⟨answer, time, rfl, rfl⟩ := Instruments.exists_answer_of_take htake
  exact ⟨⟨e, answer, time⟩, w', rfl, htake⟩

/-- A sweep goes on by one call for each encoding that the catalog does not know, and leaves their
exchanges in the trace. -/
lemma exists_calls (s : Sweep) (es : List Encoding) (w : σ) (trace : List Exchange) :
    ∃ (calls : List Call) (w' : σ), calls.map Call.encoding = es.filter (fun e => !c.knows e) ∧
      (c.sweepFrom tools.traced s es).run (w, trace) =
        (s.after calls (es.countP c.knows), w', trace ++ calls.map Call.exchange) := by
  induction es generalizing s w trace with
  | nil =>
    refine ⟨[], w, rfl, ?_⟩
    rw [sweepFrom, List.map_nil, List.append_nil]
    rfl
  | cons e rest ih =>
    rw [sweepFrom]
    by_cases hknows : c.knows e = true
    · obtain ⟨calls, w', hcalls, hrun⟩ := ih s.skip w trace
      refine ⟨calls, w', ?_, ?_⟩
      · rw [hcalls, List.filter_cons_of_neg (by simp [hknows])]
      · rw [if_pos hknows, hrun, s.skip_after, List.countP_cons_of_pos hknows]
    · obtain ⟨call, between, rfl, htake⟩ := exists_call tools e w trace
      obtain ⟨calls, w', hcalls, hrun⟩ := ih (s.add call.hit) between (trace ++ [call.exchange])
      refine ⟨call :: calls, w', ?_, ?_⟩
      · rw [List.map_cons, hcalls, List.filter_cons_of_pos (by simp [hknows])]
      · rw [if_neg hknows, StateT.run_bind, htake, List.countP_cons_of_neg hknows, List.map_cons,
          ← s.add_after]
        rw [List.append_assoc, List.singleton_append] at hrun
        exact hrun

/-! ## Sweeps of a box -/

/-- **A sweep covers its box once.**  Whatever the reader does, a sweep comes to an end, and with a
trace it does the same.  The trace then holds the calls of the reader and nothing else: one for each
encoding of the box that the catalog does not know, in the order of the box.  The hits tell of these
calls one by one, and together with the encodings that were passed over they make up the box. -/
theorem sweep_covers (c : Catalog) {box : Box} (hbox : box.Made) (tools : Instruments (StateM σ))
    (w : σ) :
    ∃ sweep w' calls, (c.sweep tools box).run w = (sweep, w') ∧
      (c.sweep tools.traced box).run (w, []) = (sweep, w', calls.map Call.exchange) ∧
      sweep.Covers c box calls := by
  obtain ⟨calls, w', hasked, hrun⟩ := c.exists_calls tools .zero box.encodings w []
  have htraced : (c.sweep tools.traced box).run (w, []) =
      ((Sweep.zero.after calls (box.encodings.countP c.knows)).reversed, w',
        calls.map Call.exchange) := by
    rw [sweep, StateT.run_map, hrun]
    rfl
  exact ⟨_, w', calls, (c.erasesTo_sweep tools box).run_eq htraced, htraced,
    Sweep.covers_of_after hbox hasked⟩

end Catalog

/-- Instruments that answer every second read with a failure. -/
def Instruments.faltering : Instruments (StateM Nat) where
  read _ := fun n => (if n % 2 = 0 then .ok 0 else .error (.unreadable "" "timed out"), n + 1)
  now := pure .epoch

/-- Of six encodings that are swept the catalog knows four, so that the reader is asked for two. -/
theorem Catalog.sweep_covers_faltering :
    ∃ box, Box.ofBounds ⟨3, 3⟩ ⟨0, 0⟩ ⟨15, 15⟩ ⟨0, 5⟩ ⟨0, 0⟩ = .ok box ∧ box.Made ∧
      ∃ sweep w' calls, (contested.sweep .faltering box).run 0 = (sweep, w') ∧
        sweep.Covers contested box calls ∧
        calls.map Call.encoding = [.truncating 3 0 15 4 0, .truncating 3 0 15 5 0] ∧
        sweep.skipped = 4 := by
  have hbox : Box.ofBounds ⟨3, 3⟩ ⟨0, 0⟩ ⟨15, 15⟩ ⟨0, 5⟩ ⟨0, 0⟩ =
      .ok ⟨⟨3, 3⟩, ⟨0, 0⟩, ⟨15, 15⟩, ⟨0, 5⟩, ⟨0, 0⟩⟩ := rfl
  obtain ⟨sweep, w', calls, hrun, -, hcovers⟩ :=
    sweep_covers contested (.ofBounds hbox) .faltering 0
  have hcalls : calls.map Call.encoding = [.truncating 3 0 15 4 0, .truncating 3 0 15 5 0] := by
    rw [hcovers.asked]
    decide
  have hsize : sweep.hits.length + sweep.skipped = 6 := hcovers.total
  have hhits : sweep.hits.length = 2 := by
    rw [← hcovers.hits.length_eq, ← List.length_map Call.encoding, hcalls]
    rfl
  exact ⟨_, hbox, .ofBounds hbox, sweep, w', calls, hrun, hcovers, hcalls, by omega⟩

end SysReg
