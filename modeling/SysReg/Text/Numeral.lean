/-!
# Numerals

Spelling natural numbers in decimal and hexadecimal, and reading a numeral with a limit on its
value. `readBelow` tells three causes of refusal apart, since two of its users report the cause.
-/

namespace SysReg.Numeral

/-! ## Spelling -/

/-- The decimal spelling, without leading zeros. -/
def decimal (n : Nat) : String :=
  String.ofList (Nat.toDigits 10 n)

/-- The decimal spelling with a minus sign in front of a negative number. -/
def signedDecimal : Int → String
  | .ofNat n => decimal n
  | .negSucc n => "-" ++ decimal (n + 1)

/-- The lowercase hexadecimal digits of a number, without leading zeros. -/
def hexDigits (n : Nat) : List Char :=
  Nat.toDigits 16 n

/-- The hexadecimal spelling `0x…` without padding. -/
def hex (n : Nat) : String :=
  "0x" ++ String.ofList (hexDigits n)

/-- The hexadecimal spelling `0x…` padded with zeros to at least sixteen digits. -/
def hex64 (n : Nat) : String :=
  "0x" ++ String.ofList ((hexDigits n).leftpad 16 '0')

/-! ## Reading -/

/-- The value of a digit, of either case above nine. -/
def digitValue? (c : Char) : Option Nat :=
  if '0' ≤ c ∧ c ≤ '9' then some (c.toNat - 48)
  else if 'a' ≤ c ∧ c ≤ 'f' then some (c.toNat - 87)
  else if 'A' ≤ c ∧ c ≤ 'F' then some (c.toNat - 55)
  else none

/-- Whether the character is a hexadecimal digit of either case. -/
def isHexDigit (c : Char) : Bool :=
  (digitValue? c).isSome

/-- Why a text is not a numeral below the limit. -/
inductive Fault where
  | empty
  | invalidDigit
  | tooLarge
  deriving DecidableEq, Repr

/-- The wording of a fault. -/
def Fault.message : Fault → String
  | .empty => "cannot parse integer from empty string"
  | .invalidDigit => "invalid digit found in string"
  | .tooLarge => "number too large to fit in target type"

/-- Continues the numeral `acc` with digits of the given base, left to right; the first character
that is no digit, or the first digit that carries the value to the limit, decides. -/
def continueBelow (base limit : Nat) (acc : Nat) : List Char → Except Fault Nat
  | [] => .ok acc
  | c :: cs =>
    match digitValue? c with
    | some d =>
      if d < base then
        let next := base * acc + d
        if next < limit then continueBelow base limit next cs else .error .tooLarge
      else .error .invalidDigit
    | none => .error .invalidDigit

/-- Reads an unsigned numeral of the given base whose value is below `limit`. One plus sign may
stand in front of the digits; at least one digit must follow. -/
def readBelow (base limit : Nat) (cs : List Char) : Except Fault Nat :=
  match cs with
  | [] => .error .empty
  | ['+'] => .error .invalidDigit
  | '+' :: digits => continueBelow base limit 0 digits
  | digits => continueBelow base limit 0 digits

end SysReg.Numeral
