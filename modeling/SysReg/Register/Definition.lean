import SysReg.Encoding.Notation
import SysReg.Register.BitRange
import SysReg.Register.Category
import SysReg.Register.Enumeration

/-!
# Fields and register definitions

A field is a labelled bit range of a register with a kind, which decides how its value reads.

The definition of a register is what is known about it: its name, its encoding, its category and the
layout of its bits.
-/

/-! ## Fields -/

namespace SysReg

/-- How the value of a field reads. -/
inductive FieldKind where
  /-- One bit, set or clear. -/
  | flag
  /-- An unsigned count. -/
  | counter
  /-- A value with a meaning. -/
  | enumerated (values : Enumeration)
  /-- A two's complement number over the width of the field. -/
  | signed
  /-- Bits of no known meaning. -/
  | raw
  deriving DecidableEq

/-- The name of a kind in reports. -/
def FieldKind.name : FieldKind → String
  | flag => "flag"
  | counter => "counter"
  | enumerated _ => "enum"
  | signed => "signed-int"
  | raw => "raw-bits"

/-- A labelled part of a register. -/
structure Field where
  bits : BitRange
  label : String
  kind : FieldKind
  deriving DecidableEq

namespace Field

/-- A field of one bit. -/
def flag (bit : Nat) (label : String) : Field :=
  ⟨.bit bit, label, .flag⟩

/-- A field that holds a count. -/
def counter (high low : Nat) (label : String) : Field :=
  ⟨⟨high, low⟩, label, .counter⟩

/-- A field whose values have meanings. -/
def enumerated (high low : Nat) (label : String) (entries : List (Word × String)) : Field :=
  ⟨⟨high, low⟩, label, .enumerated (.ofList entries)⟩

/-- A field of unknown kind. -/
def raw (high low : Nat) (label : String) : Field :=
  ⟨⟨high, low⟩, label, .raw⟩

end Field

/-! ## Definitions -/

/-- A register and its layout. -/
structure Definition where
  name : String
  encoding : Encoding
  category : Category
  description : Option String
  fields : List Field
  deriving DecidableEq

namespace Definition

/-- The first field with the label. -/
def field? (d : Definition) (label : String) : Option Field :=
  d.fields.find? (·.label = label)

/-- The bits that lie in a valid field. -/
def documentedMask (d : Definition) : Word :=
  (d.fields.filter fun f => f.bits.IsValid).foldl (fun covered f => covered ||| f.bits.mask) 0

/-- The bits that lie in no valid field. -/
def undocumentedMask (d : Definition) : Word :=
  ~~~d.documentedMask

/-- The set bits of a value that lie in no valid field. -/
def undocumentedBits (d : Definition) (value : Word) : Word :=
  value &&& d.undocumentedMask

end Definition
end SysReg
