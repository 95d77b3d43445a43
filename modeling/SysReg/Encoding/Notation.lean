import SysReg.Encoding.Basic
import SysReg.Text.Ascii
import SysReg.Text.Blank
import SysReg.Text.Search

/-!
# Notations of an encoding

Two texts name an encoding: the canonical one, `s3_0_c15_c0_0`, which debuggers accept as a register
name, and the call form, `sys_reg(3, 0, 15, 0, 0)`. Reading is strict. A component is a decimal
numeral without leading zeros; first every component has to be spelled right, then every one has to
lie in its bounds, both in the order of the components.
-/

namespace SysReg.Encoding

/-! ## Spelling -/

/-- The canonical spelling. -/
def canonical (e : Encoding) : String :=
  "s" ++ Numeral.decimal e.op0 ++ "_" ++ Numeral.decimal e.op1 ++ "_c" ++ Numeral.decimal e.crn ++
    "_c" ++ Numeral.decimal e.crm ++ "_" ++ Numeral.decimal e.op2

/-- The spelling in call form. -/
def callForm (e : Encoding) : String :=
  "sys_reg(" ++ Numeral.decimal e.op0 ++ ", " ++ Numeral.decimal e.op1 ++ ", " ++
    Numeral.decimal e.crn ++ ", " ++ Numeral.decimal e.crm ++ ", " ++ Numeral.decimal e.op2 ++ ")"

/-! ## Components -/

/-- A decimal numeral in its only canonical spelling: digits without a leading zero. -/
def isCanonicalNumeral (digits : List Char) : Bool :=
  !digits.isEmpty && digits.all Char.isDigit && !(digits.head? == some '0' && 1 < digits.length)

/-- An integer brought to the nearest of the 64-bit signed integers. -/
def saturate (n : Int) : Int :=
  max (-0x8000000000000000) (min n 0x7fffffffffffffff)

/-- Reads a component: a canonical numeral, with a minus sign in front if it is below zero. An
integer of more than 64 bits is still an integer, so it is a fault of range and not of spelling. -/
def readNumber (c : Component) (text : List Char) : Except EncodingError Int :=
  let invalid := .error (.invalidNumber c (String.ofList text))
  match text with
  | '-' :: digits =>
    if isCanonicalNumeral digits && digits != ['0'] then
      .ok (saturate (-(Nat.ofDigitChars 10 digits 0 : Int)))
    else invalid
  | digits =>
    if isCanonicalNumeral digits then .ok (saturate (Nat.ofDigitChars 10 digits 0))
    else invalid

/-- Reads a component that follows a letter. -/
def readLettered (c : Component) (letter : Char) (text : List Char) : Except EncodingError Int :=
  match text with
  | first :: rest =>
    if first = letter then readNumber c rest
    else .error (.missingLetter c letter (String.ofList text))
  | [] => .error (.missingLetter c letter "")

/-! ## Reading -/

/-- Reads the canonical spelling and no other text. -/
def ofCanonical (text : String) : Except EncodingError Encoding :=
  match text.toList.splitOn '_' with
  | [op0, op1, crn, crm, op2] => do
    let op0 ← readLettered .op0 's' op0
    let op1 ← readNumber .op1 op1
    let crn ← readLettered .crn 'c' crn
    let crm ← readLettered .crm 'c' crm
    let op2 ← readNumber .op2 op2
    ofIntegers op0 op1 crn crm op2
  | pieces => .error (.componentCount text pieces.length)

/-- What stands in front of the components in the call form. -/
def callOpening : List Char :=
  "sys_reg(".toList

/-- The text between `sys_reg(` and a closing bracket at the end, blanks at both ends of the whole
left aside. -/
def callBody? (text : List Char) : Option (List Char) :=
  match Text.dropPrefix? callOpening (Text.trim text) with
  | some rest => if rest.getLast? = some ')' then some rest.dropLast else none
  | none => none

/-- Reads the call form; blanks may stand around the whole and around each component. -/
def ofCallForm (text : String) : Except EncodingError Encoding :=
  match callBody? text.toList with
  | none => .error (.missingWrapper text)
  | some body =>
    match (body.splitOn ',').map Text.trim with
    | [op0, op1, crn, crm, op2] => do
      let op0 ← readNumber .op0 op0
      let op1 ← readNumber .op1 op1
      let crn ← readNumber .crn crn
      let crm ← readNumber .crm crm
      let op2 ← readNumber .op2 op2
      ofIntegers op0 op1 crn crm op2
    | pieces => .error (.componentCount text pieces.length)

/-- A text without blanks at its ends and without ASCII capitals: the form in which both notations
are recognised. -/
def normalized (text : String) : String :=
  String.ofList (Text.asciiLower (Text.trim text.toList))

/-- Whether a normalised text is meant to be in call form. -/
def isCallForm (text : String) : Bool :=
  Text.startsWith callOpening text.toList

/-- Reads either notation, in any ASCII case and with blanks around it. -/
def ofNotation (text : String) : Except EncodingError Encoding :=
  if isCallForm (normalized text) then ofCallForm (normalized text)
  else ofCanonical (normalized text)

/-- Whether a text is written as an encoding rather than as a name: it is in call form, or it is an
`s` before a digit or minus sign and holds an underscore. It tells a misspelt encoding from an
unknown name. -/
def looksLikeNotation (text : String) : Bool :=
  isCallForm (normalized text) ||
    match (normalized text).toList with
    | 's' :: c :: rest => (c.isDigit || c == '-') && rest.contains '_'
    | _ => false

end SysReg.Encoding
