import Mathlib.Tactic.Lemma
import SysReg.Access.Basic

/-!
# Traces

What a computation asks of its surroundings is noted in a trace, in the order in which it is asked:
each read of a register with its answer, and each reading that a caller is shown with what the
caller answers.  Instruments that keep a trace answer as before, and a computation that is put
together from such steps does as before (`ErasesTo`): the trace is all it has more.
-/

namespace SysReg

/-- Something that was asked, with the answer. -/
inductive Exchange where
  /-- A reader was asked for the register at an encoding. -/
  | read (e : Encoding) (answer : Except Failure Word)
  /-- A caller was shown a reading, and answered whether to stop. -/
  | shown (r : Reading) (stop : Bool)

variable {σ α β : Type}

/-- The computation, with what it asked at the end of the trace. -/
def noting (x : StateM σ α) (asked : α → List Exchange) : StateM (σ × List Exchange) α :=
  fun (w, trace) =>
    let (a, after) := x.run w
    (a, after, trace ++ asked a)

/-- A noted step answers as before, and what it asked is added to the trace. -/
lemma run_noting {x : StateM σ α} (asked : α → List Exchange) {a : α} {w w' : σ}
    (h : x.run w = (a, w')) (trace : List Exchange) :
    (noting x asked).run (w, trace) = (a, w', trace ++ asked a) := by
  change ((x.run w).1, (x.run w).2, trace ++ asked (x.run w).1) = _
  rw [h]

/-- The instruments, with a trace of what the reader is asked. -/
def Instruments.traced (tools : Instruments (StateM σ)) :
    Instruments (StateM (σ × List Exchange)) where
  read e := noting (tools.read e) fun answer => [.read e answer]
  now := noting tools.now fun _ => []

/-- The caller, with a trace of what it is shown. -/
def tracedWatch (watch : Reading → StateM σ Bool) (r : Reading) :
    StateM (σ × List Exchange) Bool :=
  noting (watch r) fun stop => [.shown r stop]

/-! ## Without the trace -/

/-- Apart from its trace, the one computation does what the other does. -/
def ErasesTo (x : StateM (σ × List Exchange) α) (y : StateM σ α) : Prop :=
  ∀ w trace, ∃ trace', x.run (w, trace) = ((y.run w).1, (y.run w).2, trace')

namespace ErasesTo

/-- What a computation gives is what it gives with a trace. -/
lemma run_eq {x : StateM (σ × List Exchange) α} {y : StateM σ α} (h : ErasesTo x y) {w w' : σ}
    {trace trace' : List Exchange} {a : α} (hrun : x.run (w, trace) = (a, w', trace')) :
    y.run w = (a, w') := by
  obtain ⟨trace'', herased⟩ := h w trace
  rw [hrun] at herased
  exact Prod.ext (congrArg Prod.fst herased).symm (congrArg (·.2.1) herased).symm

lemma of_noting (x : StateM σ α) (asked : α → List Exchange) : ErasesTo (noting x asked) x :=
  fun _ _ => ⟨_, rfl⟩

lemma of_pure (a : α) : ErasesTo (σ := σ) (pure a) (pure a) :=
  fun _ trace => ⟨trace, rfl⟩

lemma bind {x : StateM (σ × List Exchange) α} {y : StateM σ α}
    {next : α → StateM (σ × List Exchange) β} {next' : α → StateM σ β} (hx : ErasesTo x y)
    (hnext : ∀ a, ErasesTo (next a) (next' a)) : ErasesTo (x >>= next) (y >>= next') := by
  intro w trace
  obtain ⟨between, hfirst⟩ := hx w trace
  rw [StateT.run_bind, hfirst]
  exact hnext _ _ between

lemma map {x : StateM (σ × List Exchange) α} {y : StateM σ α} (f : α → β) (h : ErasesTo x y) :
    ErasesTo (f <$> x) (f <$> y) := by
  intro w trace
  obtain ⟨trace', hrun⟩ := h w trace
  rw [StateT.run_map, StateT.run_map, hrun]
  exact ⟨trace', rfl⟩

end ErasesTo

namespace Instruments

variable (tools : Instruments (StateM σ))

lemma erasesTo_read (e : Encoding) : ErasesTo (tools.traced.read e) (tools.read e) :=
  ErasesTo.of_noting (tools.read e) fun answer => [.read e answer]

lemma erasesTo_now : ErasesTo tools.traced.now tools.now :=
  ErasesTo.of_noting tools.now fun _ => []

lemma erasesTo_take (name : String) (e : Encoding) :
    ErasesTo (tools.traced.take name e) (tools.take name e) :=
  ErasesTo.bind (tools.erasesTo_read e) fun _ =>
    ErasesTo.bind tools.erasesTo_now fun _ => ErasesTo.of_pure _

/-- A register is taken by one read, which is all that the trace shows of it. -/
lemma exists_answer_of_take {tools : Instruments (StateM σ)} {name : String} {e : Encoding}
    {r : Reading} {before after : σ × List Exchange}
    (h : (tools.traced.take name e).run before = (r, after)) :
    ∃ answer time, r = .record name e time answer ∧ after.2 = before.2 ++ [.read e answer] := by
  cases h
  exact ⟨_, _, rfl, List.append_nil _⟩

end Instruments

lemma erasesTo_tracedWatch (watch : Reading → StateM σ Bool) (r : Reading) :
    ErasesTo (tracedWatch watch r) (watch r) :=
  ErasesTo.of_noting (watch r) fun stop => [.shown r stop]

end SysReg
