import SysReg.Reading

/-!
# Access to registers

Nothing in this library executes the instruction that reads a register. Whatever needs values is
given instruments: a way to read the register at an encoding, which may fail and may depend on all
earlier reads, and a clock.
-/

namespace SysReg

variable {m : Type → Type} [Monad m]

/-- A way to read the register at an encoding. -/
abbrev Reader (m : Type → Type) : Type := Encoding → m (Except Failure Word)

/-- What readings are taken with. -/
structure Instruments (m : Type → Type) where
  read : Reader m
  now : m Time

/-- Reads a register once and records the outcome; a failure is recorded as well. -/
def Instruments.take (tools : Instruments m) (name : String) (e : Encoding) : m Reading := do
  let answer ← tools.read e
  let time ← tools.now
  return .record name e time answer

end SysReg
