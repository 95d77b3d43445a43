import SysReg.Log.Event
import SysReg.Log.Pattern.Expression
import SysReg.Log.Pattern.Matching
import SysReg.Text.Ascii

/-!
# Values of fields

A directive of a log filter may ask for the value of a field by a word for a truth value, a number or a
regular expression. A text that is none of them makes the whole filter one that cannot be read.
-/

namespace SysReg.Log

/-- The value that a directive asks a field for. -/
inductive FieldValue where
  /-- A truth value or a number, as it was written. No text is either. -/
  | scalar (text : String)
  /-- A pattern, as it was written and as it was read. -/
  | pattern (text : String) (node : Pattern.Node)
  deriving DecidableEq, Repr

namespace FieldValue

/-- One digit or more and nothing else. -/
def isDigits (cs : List Char) : Bool :=
  !cs.isEmpty && cs.all Char.isDigit

/-- An exponent, or nothing. -/
def isExponent : List Char → Bool
  | [] => true
  | e :: '+' :: cs | e :: '-' :: cs => (e == 'e' || e == 'E') && isDigits cs
  | e :: cs => (e == 'e' || e == 'E') && isDigits cs

/-- A number without its sign: digits with at most one point among them, and perhaps an exponent. -/
def isMagnitude (cs : List Char) : Bool :=
  let whole := cs.takeWhile Char.isDigit
  match cs.dropWhile Char.isDigit with
  | '.' :: rest =>
    (!whole.isEmpty || !(rest.takeWhile Char.isDigit).isEmpty) &&
      isExponent (rest.dropWhile Char.isDigit)
  | rest => !whole.isEmpty && isExponent rest

/-- A number, which may have a sign and may be infinite. -/
def isNumber (cs : List Char) : Bool :=
  let magnitude := match cs with
    | '+' :: rest | '-' :: rest => rest
    | rest => rest
  ["inf", "infinity", "nan"].contains (Text.fold (String.ofList magnitude)) ||
    isMagnitude magnitude

/-- The value that a text asks for. -/
def ofText? (cs : List Char) : Option FieldValue :=
  let text := String.ofList cs
  if text = "true" ∨ text = "false" ∨ isNumber cs then some (scalar text)
  else (Pattern.Node.ofText? cs).map (pattern text)

/-- A field has the value. -/
def isOf (v : FieldValue) (value : Value) : Bool :=
  match v, value with
  | pattern _ node, .quoted text | pattern _ node, .plain text => node.agrees text.toList
  | scalar text, .number n => text == Numeral.decimal n
  | _, _ => false

end FieldValue
end SysReg.Log
