/-!
# Text from bytes

Bytes are decoded as UTF-8. Bytes that are not UTF-8 do not stop the decoding: each longest run that
could have begun a character, and each byte that could not, becomes one replacement character.
-/

namespace SysReg.Text

/-- The replacement character. -/
def replacement : Char := '\ufffd'

/-- Where the decoding stands. -/
inductive Utf8State where
  /-- Between characters. -/
  | start
  /-- In a character: its number so far, the range of the next byte, and how many bytes are
  missing. -/
  | inside (number low high missing : Nat)
  deriving DecidableEq, Repr

/-- The state after the first byte of a character of several bytes. -/
def leadByte (b : Nat) : Option Utf8State :=
  if 0xC2 ≤ b ∧ b ≤ 0xDF then some (.inside (b - 0xC0) 0x80 0xBF 1)
  else if b = 0xE0 then some (.inside 0 0xA0 0xBF 2)
  else if b = 0xED then some (.inside 0xD 0x80 0x9F 2)
  else if 0xE1 ≤ b ∧ b ≤ 0xEF then some (.inside (b - 0xE0) 0x80 0xBF 2)
  else if b = 0xF0 then some (.inside 0 0x90 0xBF 3)
  else if 0xF1 ≤ b ∧ b ≤ 0xF3 then some (.inside (b - 0xF0) 0x80 0xBF 3)
  else if b = 0xF4 then some (.inside 4 0x80 0x8F 3)
  else none

/-- Decodes the bytes that follow in a state. -/
def decodeFrom : Utf8State → List Nat → List Char
  | .start, [] => []
  | .inside _ _ _ _, [] => [replacement]
  | .start, b :: bs => first b bs
  | .inside number low high missing, b :: bs =>
    if low ≤ b ∧ b ≤ high then
      let number := 64 * number + (b - 0x80)
      if missing = 1 then Char.ofNat number :: decodeFrom .start bs
      else decodeFrom (.inside number 0x80 0xBF (missing - 1)) bs
    else replacement :: first b bs
where
  /-- A byte between characters, and the bytes after it. -/
  first (b : Nat) (bs : List Nat) : List Char :=
    if b < 0x80 then Char.ofNat b :: decodeFrom .start bs
    else
      match leadByte b with
      | some state => decodeFrom state bs
      | none => replacement :: decodeFrom .start bs

/-- The text of bytes, given as numbers. -/
def decodeBytes (bytes : List Nat) : List Char :=
  decodeFrom .start bytes

end SysReg.Text
