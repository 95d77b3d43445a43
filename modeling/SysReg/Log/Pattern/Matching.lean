import SysReg.Log.Pattern.Node

/-!
# Matching a text

An expression is turned into a machine, whose states are followed side by side along the text. The
states are kept in order of preference, and an earlier start is preferred to a later one. Once a way
through the expression has come to its end, less preferred ways are given up; so an expression agrees
with a text only if the match in it that is preferred to all others ends where the text ends.
-/

namespace SysReg.Log.Pattern

/-- A state of a machine; the numbers are places of states. -/
inductive MachineState where
  /-- Takes one of some characters. -/
  | take (set : CharSet) (next : Nat)
  | edge (e : Edge) (next : Nat)
  /-- Goes on in two states, the first of which is preferred. -/
  | fork (first second : Nat)
  | done
  deriving DecidableEq, Repr

/-- A machine. -/
structure Machine where
  states : Array MachineState
  deriving DecidableEq, Repr

namespace Machine

/-- A fork for a repetition, between one more turn and an end. -/
def turn (fewFirst : Bool) (again next : Nat) : MachineState :=
  if fewFirst then .fork next again else .fork again next

/-- A machine with one more state, and where it is. -/
def add (p : Machine) (s : MachineState) : Machine × Nat :=
  (⟨p.states.push s⟩, p.states.size)

/-- A machine with another state at a place. -/
def set (p : Machine) (place : Nat) (s : MachineState) : Machine :=
  ⟨p.states.setIfInBounds place s⟩

/-- A machine with states for a node, after which it goes on at a place, and where they begin. -/
def addNode (p : Machine) (next : Nat) (node : Node) : Machine × Nat :=
  match node with
  | .empty => (p, next)
  | .text cs => cs.foldr (fun c (p, next) => p.add (.take (.single c) next)) (p, next)
  | .oneOf set _ => p.add (.take set next)
  | .edge e => p.add (.edge e next)
  | .group _ body => p.addNode next body
  | .both first rest =>
    let (p, next) := p.addNode next rest
    p.addNode next first
  | .either first rest =>
    let (p, second) := p.addNode next rest
    let (p, first) := p.addNode next first
    p.add (.fork first second)
  | .repeated .atMostOnce fewFirst body =>
    let (p, again) := p.addNode next body
    p.add (turn fewFirst again next)
  | .repeated .atLeastOnce fewFirst body =>
    let (p, middle) := p.add .done
    let (p, again) := p.addNode middle body
    (p.set middle (turn fewFirst again next), again)
  | .repeated .any fewFirst body =>
    let (p, middle) := p.add .done
    let (p, again) := p.addNode middle body
    let p := p.set middle (turn fewFirst again next)
    if body.least? = some 1 then (p, middle) else p.add (turn fewFirst again next)

/-- The states that are reached from some without a character, in order of preference. Those that were
found before come last first. -/
def close (p : Machine) (before after : Option Char) :
    Nat → List Nat → List Nat → List Nat
  | 0, _, found => found.reverse
  | _, [], found => found.reverse
  | fuel + 1, s :: stack, found =>
    if found.contains s then close p before after fuel stack found
    else
      match p.states[s]? with
      | some (.edge e next) =>
        close p before after fuel (if e.isAt before after then next :: stack else stack) (s :: found)
      | some (.fork first second) =>
        close p before after fuel (first :: second :: stack) (s :: found)
      | _ => close p before after fuel stack (s :: found)

/-- A state has come to the end of the expression. -/
def isDone (p : Machine) (s : Nat) : Bool :=
  p.states[s]? == some .done

/-- The state after a character. -/
def step? (p : Machine) (c : Char) (s : Nat) : Option Nat :=
  match p.states[s]? with
  | some (.take set next) => if set.contains c then some next else none
  | _ => none

/-- The states that are reached at a place from some. -/
def reach (p : Machine) (before after : Option Char) (states : List Nat) : List Nat :=
  p.close before after (2 * p.states.size + states.length + 1) states []

/-- The machine comes to its end between the octets of a character, if it starts there. -/
def endsInside (p : Machine) (first : Nat) (c : Char) : Bool :=
  1 < c.utf8Size && (p.reach (some c) (some c) [first]).any p.isDone

/-- The rest of a text is matched to its end, from states in order of preference. As long as no match was
found, the machine may also start at a later place. -/
def finishes (p : Machine) (first : Nat) (searching : Bool) (before : Option Char)
    (states : List Nat) (cs : List Char) : Bool :=
  let reached := p.reach before cs.head? (if searching then states ++ [first] else states)
  match cs with
  | [] => reached.any p.isDone
  | c :: cs =>
    let searching := searching && !reached.any p.isDone && !p.endsInside first c
    p.finishes first searching (some c)
      ((reached.takeWhile (!p.isDone ·)).filterMap (p.step? c)) cs

end Machine

/-- The match in a text that an expression prefers reaches to the end of the text. -/
def Node.agrees (node : Node) (cs : List Char) : Bool :=
  let (machine, first) := Machine.addNode ⟨#[.done]⟩ 0 node
  machine.finishes first true none [] cs

end SysReg.Log.Pattern
