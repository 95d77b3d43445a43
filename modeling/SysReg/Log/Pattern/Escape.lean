import SysReg.Log.Pattern.Edge
import SysReg.Log.Pattern.Mode
import SysReg.Text.Numeral

/-!
# Escapes

What a backslash stands for together with the characters after it. Classes that are named by a
property of characters are not known, nor are references to groups.
-/

namespace SysReg.Log.Pattern

/-- What an escape stands for. -/
inductive Escape where
  /-- A character, and whether it was written as the two hexadecimal digits of an octet. -/
  | literal (c : Char) (octet : Bool)
  /-- The digits, blanks or word characters, or all others. -/
  | letterClass (set : CharSet) (negated : Bool)
  | edge (e : Edge)
  deriving DecidableEq, Repr

/-- A character that stands for itself after a backslash. -/
def isEscapable (c : Char) : Bool :=
  c.toNat < 128 && !c.isAlphanum && c != '<' && c != '>'

/-- How many hexadecimal digits a letter takes after a backslash. -/
def digitsOf? : Char → Option Nat
  | 'x' => some 2
  | 'u' => some 4
  | 'U' => some 8
  | _ => none

/-- The hexadecimal digits at the front of a text, and the text after them. -/
def hexDigits? (m : Mode) : Nat → List Char → Option (List Char × List Char)
  | 0, cs => some ([], m.skip cs)
  | n + 1, cs =>
    match m.skip cs with
    | [] => none
    | c :: rest =>
      if Numeral.isHexDigit c then (hexDigits? m n rest).map fun (ds, rest) => (c :: ds, rest)
      else none

/-- The character of a code in hexadecimal digits. -/
def ofHexDigits? (digits : List Char) : Option Char :=
  match Numeral.readBelow 16 0x110000 digits with
  | .ok code => if code.isValidChar then some (Char.ofNat code) else none
  | .error _ => none

/-- What a letter stands for after a backslash. -/
def ofLetter? : Char → Option Escape
  | 'a' => some (.literal '\x07' false)
  | 'f' => some (.literal '\x0c' false)
  | 'n' => some (.literal '\n' false)
  | 'r' => some (.literal '\r' false)
  | 't' => some (.literal '\t' false)
  | 'v' => some (.literal '\x0b' false)
  | 'd' => some (.letterClass .digits false)
  | 's' => some (.letterClass .blanks false)
  | 'w' => some (.letterClass .wordChars false)
  | 'D' => some (.letterClass .digits true)
  | 'S' => some (.letterClass .blanks true)
  | 'W' => some (.letterClass .wordChars true)
  | 'A' => some (.edge .textStart)
  | 'z' => some (.edge .textEnd)
  | 'b' => some (.edge .word)
  | 'B' => some (.edge .noWord)
  | '<' => some (.edge .wordStart)
  | '>' => some (.edge .wordEnd)
  | _ => none

/-- The escape at the front of a text, without its backslash, and the text after it. -/
def escape? (m : Mode) : List Char → Option (Escape × List Char)
  | [] => none
  | c :: cs =>
    match digitsOf? c with
    | some n => do
      let (digits, rest) ← hexDigits? m n cs
      let d ← ofHexDigits? digits
      return (.literal d (n == 2), rest)
    | none =>
      if isEscapable c then some (.literal c false, cs)
      else (ofLetter? c).map fun e => (e, cs)

/-- An escape outside of classes. -/
def Mode.admitsEscape (m : Mode) : Escape → Bool
  | .literal c octet => m.admitsLiteral c octet
  | .letterClass _ negated => m.admitsLetterClass negated
  | .edge e => m.admitsEdge e.isOfWord

/-- An escape in a class. -/
def Mode.admitsItem (m : Mode) : Escape → Bool
  | .literal c _ => m.admitsMember c
  | .letterClass _ negated => m.admitsLetterClass negated
  | .edge _ => false

/-- The characters that an escape in a class stands for. -/
def Escape.members : Escape → CharSet
  | literal c _ => .single c
  | letterClass set negated => if negated then set.complement else set
  | edge _ => .none

end SysReg.Log.Pattern
