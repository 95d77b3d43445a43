import SysReg.Reading

/-!
# Inference of fields

From several values of one register each bit is static, if it was the same in all of them, or
volatile. A longest run of volatile bits is a candidate for a field. This is advice only, and no
candidate becomes part of a definition.
-/

namespace SysReg

/-- How a bit behaved over several values. -/
inductive BitStability where
  | fixed (b : Bool)
  | volatile
  deriving DecidableEq, Repr

/-- What a run of volatile bits suggests. -/
inductive CandidateShape where
  | flag
  | counter
  deriving DecidableEq, Repr

/-- The name of a shape in reports. -/
def CandidateShape.name : CandidateShape → String
  | flag => "flag"
  | counter => "counter"

/-- A range of bits that may be a field. -/
structure Candidate where
  bits : BitRange
  shape : CandidateShape
  deriving DecidableEq, Repr

/-- What several values of a register say of its bits. -/
structure Inference where
  encoding : Encoding
  /-- The number of values. -/
  samples : Nat
  /-- The bits that differ in at least one value from the first. -/
  volatileMask : Word
  /-- The first value. -/
  baseline : Word
  deriving DecidableEq, Repr

namespace Inference

/-- How a bit behaved, its place counted modulo the 64 places of a register. -/
def bit (i : Inference) (n : Nat) : BitStability :=
  if i.volatileMask.getLsbD (n % 64) then .volatile else .fixed (i.baseline.getLsbD (n % 64))

/-- How every bit behaved, bit 0 first. -/
def bits (i : Inference) : List BitStability :=
  (List.range 64).map i.bit

/-- The static bits that were set. -/
def staticOnes (i : Inference) : Word :=
  i.baseline &&& ~~~i.volatileMask

/-- The candidate for a run of bits. -/
def candidate (high low : Nat) : Candidate :=
  ⟨⟨high, low⟩, if high = low then .flag else .counter⟩

/-- The candidates among the bits from a position on, `start` being where the run began that reaches
up to it, if there is one. -/
def runs (mask : Word) (start : Option Nat) (position : Nat) : (remaining : Nat) → List Candidate
  | 0 =>
    match start with
    | some low => [candidate (position - 1) low]
    | none => []
  | remaining + 1 =>
    match mask.getLsbD position, start with
    | true, none => runs mask (some position) (position + 1) remaining
    | true, some low => runs mask (some low) (position + 1) remaining
    | false, none => runs mask none (position + 1) remaining
    | false, some low => candidate (position - 1) low :: runs mask none (position + 1) remaining

/-- The longest runs of volatile bits, lowest first. -/
def candidates (i : Inference) : List Candidate :=
  runs i.volatileMask none 0 64

/-- What readings of one register say of its bits; failed ones are passed over. -/
def ofReadings (readings : List Reading) : Except Failure Inference :=
  match readings with
  | [] => .error (.argument .noReadings)
  | first :: _ =>
    match readings.find? (·.encoding ≠ first.encoding) with
    | some other => .error (.argument (.mixedReadings first.encoding other.encoding))
    | none =>
      match readings.filterMap Reading.value? with
      | [] => .error (.argument (.noSuccess first.encoding))
      | baseline :: values =>
        .ok ⟨first.encoding, values.length + 1,
          values.foldl (fun mask value => mask ||| (value ^^^ baseline)) 0, baseline⟩

end Inference
end SysReg
