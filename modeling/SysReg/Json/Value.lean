import SysReg.Text.Numeral

/-!
# Writing JSON

Values of a document to be written, and their layout: one element or member on a line, two blanks of
indentation a level, and nothing between the brackets of an empty array or object. The members of an
object keep their order.
-/

namespace SysReg

/-- A JSON value to be written. -/
inductive Json where
  | null
  | bool (b : Bool)
  | number (n : Nat)
  | string (s : String)
  | array (items : List Json)
  | object (members : List (String × Json))

namespace Json

/-! ## Strings -/

/-- A character as it stands inside quotes: quotes, backslashes and controls are escaped. -/
def escape (c : Char) : List Char :=
  if c = '"' then ['\\', '"']
  else if c = '\\' then ['\\', '\\']
  else if c = '\n' then ['\\', 'n']
  else if c = '\r' then ['\\', 'r']
  else if c = '\t' then ['\\', 't']
  else if c = '\x08' then ['\\', 'b']
  else if c = '\x0c' then ['\\', 'f']
  else if c.toNat < 32 then
    ['\\', 'u', '0', '0', Nat.digitChar (c.toNat / 16), Nat.digitChar (c.toNat % 16)]
  else [c]

/-- A text in quotes. -/
def quote (cs : List Char) : List Char :=
  '"' :: cs.flatMap escape ++ ['"']

/-! ## Layout -/

/-- A new line at a level of indentation. -/
def newline (level : Nat) : List Char :=
  '\n' :: List.replicate (2 * level) ' '

mutual

/-- A value whose lines after the first are indented to a level. -/
def layout (level : Nat) : Json → List Char
  | null => "null".toList
  | bool true => "true".toList
  | bool false => "false".toList
  | number n => Nat.toDigits 10 n
  | string s => quote s.toList
  | array [] => ['[', ']']
  | array (item :: items) =>
    '[' :: newline (level + 1) ++ layout (level + 1) item ++ layoutItems (level + 1) items ++
      newline level ++ [']']
  | object [] => ['\x7b', '\x7d']
  | object ((key, value) :: members) =>
    '\x7b' :: newline (level + 1) ++ quote key.toList ++ [':', ' '] ++ layout (level + 1) value ++
      layoutMembers (level + 1) members ++ newline level ++ ['\x7d']

/-- The elements of an array after its first, each after a comma and on a line of its own. -/
def layoutItems (level : Nat) : List Json → List Char
  | [] => []
  | item :: items => ',' :: newline level ++ layout level item ++ layoutItems level items

/-- The members of an object after its first, each after a comma and on a line of its own. -/
def layoutMembers (level : Nat) : List (String × Json) → List Char
  | [] => []
  | (key, value) :: members =>
    ',' :: newline level ++ quote key.toList ++ [':', ' '] ++ layout level value ++
      layoutMembers level members

end

/-- The text of a value. -/
def text (j : Json) : String :=
  String.ofList (layout 0 j)

/-! ## Building values -/

/-- A text, or nothing. -/
def optionalString : Option String → Json
  | some s => string s
  | none => null

/-- A member that is left out if there is nothing to write. -/
def optionalMember (key : String) : Option Json → List (String × Json)
  | some value => [(key, value)]
  | none => []

end Json
end SysReg
