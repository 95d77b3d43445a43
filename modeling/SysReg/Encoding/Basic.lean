import SysReg.Text.Numeral

/-!
# Encodings

A system register is named at the instruction level by five components `(op0, op1, CRn, CRm, op2)`,
of 2, 3, 4, 4 and 3 bits. The type holds exactly the 65536 combinations; only those with `op0` 2 or
3 address system registers, and `Encoding.ofIntegers` builds no other.

`packed` lays the components out as the move instructions do, `op0` uppermost.
-/

namespace SysReg

/-- One of the five components of an encoding. -/
inductive Component where
  | op0
  | op1
  | crn
  | crm
  | op2
  deriving DecidableEq, Repr

namespace Component

/-- The spelling of a component in messages. -/
def name : Component → String
  | op0 => "op0"
  | op1 => "op1"
  | crn => "CRn"
  | crm => "CRm"
  | op2 => "op2"

/-- The number of values that fit into the bits of a component. -/
def size : Component → Nat
  | op0 => 4
  | op1 => 8
  | crn => 16
  | crm => 16
  | op2 => 8

/-- The least value of the component in the encoding of a system register. -/
def least : Component → Nat
  | op0 => 2
  | _ => 0

/-- The greatest value of the component. -/
def greatest (c : Component) : Nat :=
  c.size - 1

theorem greatest_lt_size (c : Component) : c.greatest < c.size := by
  cases c <;> decide

end Component

/-- Why five numbers or a text are not the encoding of a system register. -/
inductive EncodingError where
  /-- The text has another number of components than five. -/
  | componentCount (text : String) (found : Nat)
  /-- The text is not of the form `sys_reg(…)`. -/
  | missingWrapper (text : String)
  /-- A component does not start with its letter. -/
  | missingLetter (component : Component) (letter : Char) (found : String)
  /-- A component is not a decimal numeral in canonical spelling. -/
  | invalidNumber (component : Component) (found : String)
  /-- A component is below zero. -/
  | negative (component : Component) (value : Int)
  /-- A component is outside its bounds. -/
  | outOfRange (component : Component) (value : Int)
  deriving DecidableEq, Repr

/-- The wording of an encoding error. -/
def EncodingError.message : EncodingError → String
  | .componentCount text found =>
    "expected 5 components in `" ++ text ++ "`, found " ++ Numeral.decimal found
  | .missingWrapper text =>
    "expected `sys_reg(op0, op1, CRn, CRm, op2)`, found `" ++ text ++ "`"
  | .missingLetter component letter found =>
    component.name ++ " must be written as `" ++ letter.toString ++ "<n>`, found `" ++ found ++ "`"
  | .invalidNumber component found =>
    component.name ++ " is not a decimal number: `" ++ found ++ "`"
  | .negative component value =>
    component.name ++ " must not be negative, found " ++ Numeral.signedDecimal value
  | .outOfRange component value =>
    component.name ++ " = " ++ Numeral.signedDecimal value ++ " is out of range " ++
      Numeral.decimal component.least ++ "..=" ++ Numeral.decimal component.greatest

/-- A value of a component from any integer; nothing is clamped or wrapped into range. -/
def Component.check (c : Component) (value : Int) : Except EncodingError (Fin c.size) :=
  if value < 0 then
    .error (.negative c value)
  else if h : c.least ≤ value.toNat ∧ value.toNat ≤ c.greatest then
    .ok ⟨value.toNat, Nat.lt_of_le_of_lt h.2 c.greatest_lt_size⟩
  else
    .error (.outOfRange c value)

/-- Refuses an integer outside the bounds given for a component. -/
def Component.within (c : Component) (value : Int) (least greatest : Nat) :
    Except EncodingError Unit :=
  if value < 0 then .error (.negative c value)
  else if value < least ∨ greatest < value then .error (.outOfRange c value)
  else .ok ()

/-- The five components that name a system register. -/
structure Encoding where
  op0 : Fin 4
  op1 : Fin 8
  crn : Fin 16
  crm : Fin 16
  op2 : Fin 8
  deriving DecidableEq, Repr

namespace Encoding

/-- The encoding of a system register with the given components; the first component outside its
bounds is the error. -/
def ofIntegers (op0 op1 crn crm op2 : Int) : Except EncodingError Encoding := do
  let op0 ← Component.op0.check op0
  let op1 ← Component.op1.check op1
  let crn ← Component.crn.check crn
  let crm ← Component.crm.check crm
  let op2 ← Component.op2.check op2
  return ⟨op0, op1, crn, crm, op2⟩

/-- The encoding whose components are the low bits of the given numbers, `op0` 0 and 1 included.
Tables are written with it; a catalog checks `op0` again. -/
def truncating (op0 op1 crn crm op2 : Nat) : Encoding :=
  ⟨Fin.ofNat 4 op0, Fin.ofNat 8 op1, Fin.ofNat 16 crn, Fin.ofNat 16 crm, Fin.ofNat 8 op2⟩

/-- The encoding of a system register whose components are the given bytes; the first byte outside
its bounds is the error. -/
def ofBytes (op0 op1 crn crm op2 : UInt8) : Except EncodingError Encoding := do
  Component.op0.within op0.toNat 2 3
  Component.op1.within op1.toNat 0 7
  Component.crn.within crn.toNat 0 15
  Component.crm.within crm.toNat 0 15
  Component.op2.within op2.toNat 0 7
  return .truncating op0.toNat op1.toNat crn.toNat crm.toNat op2.toNat

/-- The components in order. -/
def parts (e : Encoding) : List Nat :=
  [e.op0, e.op1, e.crn, e.crm, e.op2]

/-- The sixteen bits that the move instructions hold in their bits 5 to 20. -/
def packed (e : Encoding) : Nat :=
  e.op0.val * 16384 + e.op1.val * 2048 + e.crn.val * 128 + e.crm.val * 8 + e.op2.val

/-- Whether `op0` addresses the system register space. -/
def isSystemRegister (e : Encoding) : Bool :=
  2 ≤ e.op0.val

/-- The listing of the components with their names. -/
def listing (e : Encoding) : String :=
  "Encoding \x7b op0: " ++ Numeral.decimal e.op0 ++ ", op1: " ++ Numeral.decimal e.op1 ++
    ", CRn: " ++ Numeral.decimal e.crn ++ ", CRm: " ++ Numeral.decimal e.crm ++
    ", op2: " ++ Numeral.decimal e.op2 ++ " \x7d"

theorem isSystemRegister_iff {e : Encoding} :
    e.isSystemRegister = true ↔ e.op0 = 2 ∨ e.op0 = 3 := by
  rw [isSystemRegister, decide_eq_true_eq]
  omega

theorem packed_lt (e : Encoding) : e.packed < 65536 := by
  unfold packed
  omega

/-- Encodings with equal packed bits are equal. -/
theorem packed_injective {a b : Encoding} (h : a.packed = b.packed) : a = b := by
  obtain ⟨⟨_, _⟩, ⟨_, _⟩, ⟨_, _⟩, ⟨_, _⟩, ⟨_, _⟩⟩ := a
  obtain ⟨⟨_, _⟩, ⟨_, _⟩, ⟨_, _⟩, ⟨_, _⟩, ⟨_, _⟩⟩ := b
  simp only [packed] at h
  simp only [Encoding.mk.injEq, Fin.mk.injEq]
  omega

end Encoding
end SysReg
