import SysReg.Text.Numeral

/-!
# Register values

A register holds 64 bits. A value is spelled in hexadecimal, either padded to sixteen digits (in
reports and snapshots) or without padding.
-/

namespace SysReg

/-- The value of a register: 64 bits, bit 0 the least significant. -/
abbrev Word : Type := BitVec 64

namespace Word

/-- The number of values a register can hold; every numeral of a value is below it. -/
def count : Nat := 0x10000000000000000

/-- The spelling with sixteen hexadecimal digits. -/
def padded (w : Word) : String :=
  Numeral.hex64 w.toNat

/-- The spelling in hexadecimal digits without padding. -/
def compact (w : Word) : String :=
  Numeral.hex w.toNat

/-- Reads a numeral as a value. -/
def ofNumeral (base : Nat) (cs : List Char) : Except Numeral.Fault Word :=
  (Numeral.readBelow base count cs).map (BitVec.ofNat 64)

end Word
end SysReg
