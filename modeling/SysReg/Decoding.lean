import SysReg.Failure

/-!
# Decoding

A value is decoded with the layout of its register into one part per field, each with its sub-value
and a text that depends on the kind of the field. A value of an enumeration without a meaning is
shown, not refused. Only a field outside the 64 bits makes decoding fail.
-/

namespace SysReg

/-- The sub-value of a field and how it reads. -/
structure DecodedField where
  label : String
  bits : BitRange
  raw : Word
  text : String
  deriving DecidableEq, Repr

/-- The bits of a range of a bare value. -/
def extractBits (value : Word) (bits : BitRange) : Except Failure Word :=
  if bits.IsValid then .ok (bits.extract value)
  else .error (.fieldRange "<raw value>" bits.text bits)

/-- The number that the low `width` bits of a sub-value stand for in two's complement. A width that
no field of a register has leaves the sub-value as it is. -/
def twosComplement (width : Nat) (raw : Word) : Int :=
  if 1 ≤ width ∧ width ≤ 64 ∧ raw.getLsbD (width - 1) then (raw.toNat : Int) - Nat.pow 2 width
  else raw.toNat

namespace Field

/-- A number together with the hexadecimal spelling of the sub-value. -/
def withHex (number : String) (raw : Word) : String :=
  number ++ " (" ++ raw.compact ++ ")"

/-- How a sub-value of the field reads. -/
def render (f : Field) (raw : Word) : String :=
  match f.kind with
  | .flag => if raw = 0 then "clear" else "set"
  | .counter | .raw => withHex (Numeral.decimal raw.toNat) raw
  | .enumerated values =>
    (values.get? raw).getD ("unknown(" ++ Numeral.decimal raw.toNat ++ ")")
  | .signed => withHex (Numeral.signedDecimal (twosComplement f.bits.width raw)) raw

/-- The field of the value of a register. -/
def decode (f : Field) (register : String) (value : Word) : Except Failure DecodedField :=
  if f.bits.IsValid then
    let raw := f.bits.extract value
    .ok ⟨f.label, f.bits, raw, f.render raw⟩
  else .error (.fieldRange register f.label f.bits)

end Field

namespace Definition

/-- The fields of a value, in the order of their declaration. -/
def decode (d : Definition) (value : Word) : Except Failure (List DecodedField) :=
  d.fields.mapM fun f => f.decode d.name value

/-- The labels of the fields that read differently in two values. -/
def changedFields (d : Definition) (before after : Word) : Except Failure (List String) := do
  let before ← d.decode before
  let after ← d.decode after
  return ((before.zip after).filter fun (x, y) => x.text != y.text).map fun (x, _) => x.label

end Definition
end SysReg
