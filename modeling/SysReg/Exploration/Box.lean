import SysReg.Failure

/-!
# Boxes of encodings

A box gives inclusive bounds for each component and holds every encoding within them. It lists its
encodings in ascending order of their packed bits.
-/

namespace SysReg

/-- Inclusive bounds of a component. -/
structure Bounds where
  low : Nat
  high : Nat
  deriving DecidableEq, Repr

namespace Bounds

/-- The bounds of a single value. -/
def exactly (n : Nat) : Bounds :=
  ⟨n, n⟩

/-- The values within the bounds, ascending. -/
def values (b : Bounds) : List Nat :=
  List.range' b.low (b.high + 1 - b.low)

/-- The spelling of the bounds: one number if they agree. -/
def text (b : Bounds) : String :=
  if b.low = b.high then Numeral.decimal b.low
  else Numeral.decimal b.low ++ "-" ++ Numeral.decimal b.high

/-- The bounds are values of the component in the encoding of a system register, the lower first. -/
def check (component : Component) (b : Bounds) : Except Failure Unit := do
  let _ ← (component.check b.low).mapError Failure.encoding
  let _ ← (component.check b.high).mapError Failure.encoding
  if b.low ≤ b.high then .ok ()
  else .error (.argument (.emptyRange component b.low b.high))

end Bounds

/-- Bounds for each component of an encoding. -/
structure Box where
  op0 : Bounds
  op1 : Bounds
  crn : Bounds
  crm : Bounds
  op2 : Bounds
  deriving DecidableEq, Repr

namespace Box

/-- The box of the given bounds; the first component whose bounds are wrong is the failure. -/
def ofBounds (op0 op1 crn crm op2 : Bounds) : Except Failure Box := do
  op0.check .op0
  op1.check .op1
  crn.check .crn
  crm.check .crm
  op2.check .op2
  return ⟨op0, op1, crn, crm, op2⟩

/-- The encodings that the architecture leaves to implementations. -/
def implementationDefined : Box :=
  ⟨.exactly 3, ⟨0, 7⟩, .exactly 15, ⟨0, 15⟩, ⟨0, 7⟩⟩

/-- The bounds of a component. -/
def of (b : Box) : Component → Bounds
  | .op0 => b.op0
  | .op1 => b.op1
  | .crn => b.crn
  | .crm => b.crm
  | .op2 => b.op2

/-- The box of a single encoding. -/
def single (e : Encoding) : Box :=
  ⟨.exactly e.op0, .exactly e.op1, .exactly e.crn, .exactly e.crm, .exactly e.op2⟩

/-- The encodings in the box, ascending. -/
def encodings (b : Box) : List Encoding :=
  b.op0.values.flatMap fun op0 =>
    b.op1.values.flatMap fun op1 =>
      b.crn.values.flatMap fun crn =>
        b.crm.values.flatMap fun crm =>
          b.op2.values.map fun op2 => .truncating op0 op1 crn crm op2

/-- The number of encodings in the box. -/
def size (b : Box) : Nat :=
  (b.op0.high - b.op0.low + 1) * (b.op1.high - b.op1.low + 1) * (b.crn.high - b.crn.low + 1) *
    (b.crm.high - b.crm.low + 1) * (b.op2.high - b.op2.low + 1)

/-- The spelling of the box, in the manner of a canonical encoding. -/
def text (b : Box) : String :=
  "s" ++ b.op0.text ++ "_" ++ b.op1.text ++ "_c" ++ b.crn.text ++ "_c" ++ b.crm.text ++ "_" ++
    b.op2.text

end Box
end SysReg
