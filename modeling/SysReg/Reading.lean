import SysReg.Decoding
import SysReg.Time.Basic

/-!
# Readings

A reading is the outcome of one attempt to read one register: a value, or the detail of the failure.
A failed reading has no value and is never decoded. A tally counts both kinds.
-/

namespace SysReg

/-- What came of an attempt to read a register. -/
inductive Outcome where
  | value (w : Word)
  | failed (detail : String)
  deriving DecidableEq, Repr

/-- One attempt to read one register. -/
structure Reading where
  name : String
  encoding : Encoding
  time : Time
  outcome : Outcome
  deriving DecidableEq

namespace Reading

/-- The value, if the register could be read. -/
def value? (r : Reading) : Option Word :=
  match r.outcome with
  | .value w => some w
  | .failed _ => none

/-- The detail of the failure, if the register could not be read. -/
def detail? (r : Reading) : Option String :=
  match r.outcome with
  | .value _ => none
  | .failed detail => some detail

/-- Whether the register could be read. -/
def succeeded (r : Reading) : Bool :=
  r.value?.isSome

/-- The reading that records what a reader answered. -/
def record (name : String) (encoding : Encoding) (time : Time) :
    Except Failure Word → Reading
  | .ok w => ⟨name, encoding, time, .value w⟩
  | .error failure => ⟨name, encoding, time, .failed failure.detail⟩

end Reading

/-- The fields of a reading of the register. A failed reading has none, and neither has a reading of
another register. -/
def Definition.decodeReading (d : Definition) (r : Reading) : Except Failure (List DecodedField) :=
  match r.outcome with
  | .failed detail => .error (.unreadable r.name detail)
  | .value w =>
    if r.encoding = d.encoding then d.decode w
    else .error (.argument (.foreignReading r.name r.encoding d))

/-- The numbers of successful and of failed readings. -/
structure Tally where
  succeeded : Nat
  failed : Nat
  deriving DecidableEq, Repr

namespace Tally

/-- Nothing counted. -/
def zero : Tally :=
  ⟨0, 0⟩

/-- One reading more. -/
def count (t : Tally) (r : Reading) : Tally :=
  if r.succeeded then { t with succeeded := t.succeeded + 1 } else { t with failed := t.failed + 1 }

/-- The tally of a list of readings. -/
def ofList (readings : List Reading) : Tally :=
  readings.foldl count zero

/-- The number of readings counted. -/
def total (t : Tally) : Nat :=
  t.succeeded + t.failed

/-- The wording of a tally. -/
def text (t : Tally) : String :=
  match t.failed with
  | 0 => "completed with no failures"
  | 1 => "completed with 1 failure"
  | n => "completed with " ++ Numeral.decimal n ++ " failures"

end Tally
end SysReg
