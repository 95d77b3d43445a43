import SysReg.Reading

/-!
# Behaviour of a register

What a series of readings says of a register: the distinct values, and each change from one
successful reading to the next. Failed readings are counted and otherwise passed over.
-/

namespace SysReg

/-- A change of value; `iteration` is the position of the reading that saw the new value. -/
structure ValueChange where
  iteration : Nat
  old : Word
  new : Word
  deriving DecidableEq, Repr

/-- What a series of readings says of a register. -/
structure Behavior where
  iterations : Nat
  succeeded : Nat
  failed : Nat
  /-- The distinct values, ascending. -/
  uniqueValues : List Word
  changes : List ValueChange
  deriving DecidableEq, Repr

namespace Behavior

/-- The values of the successful readings with their positions. -/
def history (position : Nat) : List Reading → List (Nat × Word)
  | [] => []
  | r :: rest =>
    match r.value? with
    | some w => (position, w) :: history (position + 1) rest
    | none => history (position + 1) rest

/-- The changes in a history after the value `old`. -/
def changesAfter (old : Word) : List (Nat × Word) → List ValueChange
  | [] => []
  | (position, new) :: rest =>
    if old = new then changesAfter new rest else ⟨position, old, new⟩ :: changesAfter new rest

/-- The changes in a history. -/
def changesIn : List (Nat × Word) → List ValueChange
  | [] => []
  | (_, first) :: rest => changesAfter first rest

/-- Puts a value in its place among ascending distinct values. -/
def place (w : Word) : List Word → List Word
  | [] => [w]
  | v :: vs =>
    if w.toNat < v.toNat then w :: v :: vs
    else if w = v then v :: vs
    else v :: place w vs

/-- The behaviour that a series of readings shows. -/
def ofReadings (readings : List Reading) : Behavior :=
  let seen := history 0 readings
  { iterations := readings.length
    succeeded := seen.length
    failed := readings.length - seen.length
    uniqueValues := seen.foldl (fun values entry => place entry.2 values) []
    changes := changesIn seen }

/-- Some reading succeeded and no value changed. -/
def isStable (b : Behavior) : Bool :=
  0 < b.succeeded && b.changes.isEmpty

end Behavior
end SysReg
