import SysReg.Exploration.Box
import SysReg.Text.Blank
import SysReg.Text.Search
import SysReg.Word

/-!
# Values of arguments

Readers of the values that a user types: register values, bounds of a component, and numbers.
-/

namespace SysReg

/-! ## Register values -/

/-- Why a typed text is not a register value. -/
structure WordFault where
  text : String
  fault : Numeral.Fault
  deriving DecidableEq, Repr

/-- The wording of a fault. -/
def WordFault.message (f : WordFault) : String :=
  "'" ++ f.text ++ "' is not a 64-bit value: " ++ f.fault.message

namespace Word

/-- A typed text without blanks around it and without the underscores that group its digits. -/
def ungrouped (text : String) : List Char :=
  (Text.trim text.toList).filter (· != '_')

/-- The value of a typed numeral: hexadecimal after `0x` or `0X`, else decimal. -/
def ofTyped (text : String) : Except WordFault Word :=
  (match ungrouped text with
    | '0' :: 'x' :: digits | '0' :: 'X' :: digits => ofNumeral 16 digits
    | digits => ofNumeral 10 digits).mapError (⟨String.ofList (ungrouped text), ·⟩)

end Word

/-! ## Bounds of a component -/

/-- Why a typed text does not give the bounds of a component. -/
inductive BoundsFault where
  /-- A bound is not a number of one byte. -/
  | noComponent (text : String)
  /-- The bounds are inverted. -/
  | empty (text : String)
  deriving DecidableEq, Repr

/-- The wording of a fault. -/
def BoundsFault.message : BoundsFault → String
  | noComponent text => "'" ++ text ++ "' is not a component value"
  | empty text => "range " ++ text ++ " is empty"

namespace Bounds

/-- A typed bound, with blanks around it. -/
def readBound (cs : List Char) : Except BoundsFault Nat :=
  (Numeral.readBelow 10 256 (Text.trim cs)).mapError fun _ => .noComponent (String.ofList cs)

/-- The bounds of a typed text: one number, or two with a dash between them. -/
def ofTyped (text : String) : Except BoundsFault Bounds := do
  let bounds ← match Text.cutAt? '-' text.toList with
    | some (low, high) => do
      let low ← readBound low
      let high ← readBound high
      pure ⟨low, high⟩
    | none => Bounds.exactly <$> readBound text.toList
  if bounds.low ≤ bounds.high then return bounds else throw (.empty text)

end Bounds

/-! ## Numbers -/

namespace Numeral

/-- The number of a typed decimal numeral below a limit. -/
def ofTyped? (limit : Nat) (text : String) : Option Nat :=
  (readBelow 10 limit text.toList).toOption

/-- The number of a typed decimal numeral below a limit, where zero may have a minus sign. -/
def ofSigned? (limit : Nat) (text : String) : Option Nat :=
  match text.toList with
  | '-' :: d :: digits => (continueBelow 10 1 0 (d :: digits)).toOption
  | _ => ofTyped? limit text

end Numeral
end SysReg
