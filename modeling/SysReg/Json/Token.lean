import SysReg.Text.Numeral

/-!
# Tokens of JSON

The text of a document is cut into tokens by an automaton that looks at each character once. At the
first character that no token can hold it stops with the token `fault`.

A string token has no content if an escape in it names half of a surrogate pair: such a string may
stand where it is passed over but not where it is used.
-/

namespace SysReg.Json

/-- A token of a document. -/
inductive Token where
  | openArray
  | closeArray
  | openObject
  | closeObject
  | comma
  | colon
  | null
  | bool (b : Bool)
  /-- A number as it is spelled. -/
  | number (literal : List Char)
  | string (content : Option (List Char))
  /-- The text is no document from here on. -/
  | fault
  deriving DecidableEq, Repr

/-! ## Numbers -/

/-- A character that may stand in a number. -/
def isNumberChar (c : Char) : Bool :=
  c.isDigit || c == '-' || c == '+' || c == '.' || c == 'e' || c == 'E'

/-- One digit or more and nothing else. -/
def isDigits (cs : List Char) : Bool :=
  !cs.isEmpty && cs.all Char.isDigit

/-- The exponent of a number, if it has one. -/
def isExponent : List Char → Bool
  | [] => true
  | 'e' :: '+' :: cs | 'e' :: '-' :: cs | 'E' :: '+' :: cs | 'E' :: '-' :: cs => isDigits cs
  | 'e' :: cs | 'E' :: cs => isDigits cs
  | _ => false

/-- Fraction and exponent of a number, if it has them. -/
def isFraction : List Char → Bool
  | '.' :: cs => isDigits (cs.takeWhile Char.isDigit) && isExponent (cs.dropWhile Char.isDigit)
  | cs => isExponent cs

/-- A number without its sign: no zero stands in front of another digit. -/
def isMagnitude : List Char → Bool
  | '0' :: cs => isFraction cs
  | cs => isDigits (cs.takeWhile Char.isDigit) && isFraction (cs.dropWhile Char.isDigit)

/-- The spelling of a number. -/
def isNumber : List Char → Bool
  | '-' :: cs => isMagnitude cs
  | cs => isMagnitude cs

/-- The token of a run of number characters. -/
def numberToken (literal : List Char) : Token :=
  if isNumber literal then .number literal else .fault

/-- The token of a run of letters. -/
def wordToken (word : List Char) : Token :=
  if word = "null".toList then .null
  else if word = "true".toList then .bool true
  else if word = "false".toList then .bool false
  else .fault

/-! ## Strings -/

/-- The part of a string before the place of reading: its characters in reverse, unless they can no
longer be used, and the first half of a surrogate pair whose second half has to follow. -/
structure Content where
  reversed : Option (List Char)
  half : Option Nat
  deriving DecidableEq, Repr

namespace Content

/-- The start of a string. -/
def empty : Content :=
  ⟨some [], none⟩

/-- A character follows. After half a pair the string can no longer be used. -/
def push (content : Content) (c : Char) : Content :=
  match content.half with
  | none => ⟨content.reversed.map (c :: ·), none⟩
  | some _ => ⟨none, none⟩

/-- A code unit of an escape follows. -/
def pushUnit (content : Content) (unit : Nat) : Content :=
  match content.half with
  | some high =>
    if 0xDC00 ≤ unit ∧ unit < 0xE000 then
      ⟨content.reversed.map
        (Char.ofNat (0x10000 + (high - 0xD800) * 0x400 + (unit - 0xDC00)) :: ·), none⟩
    else ⟨none, none⟩
  | none =>
    if 0xD800 ≤ unit ∧ unit < 0xDC00 then ⟨content.reversed, some unit⟩
    else if 0xDC00 ≤ unit ∧ unit < 0xE000 then ⟨none, none⟩
    else ⟨content.reversed.map (Char.ofNat unit :: ·), none⟩

/-- The content of the string that ends here. -/
def finish (content : Content) : Option (List Char) :=
  match content.half with
  | none => content.reversed.map List.reverse
  | some _ => none

end Content

/-- The character that a letter stands for after a backslash. -/
def escaped? (c : Char) : Option Char :=
  match c with
  | '"' => some '"'
  | '\\' => some '\\'
  | '/' => some '/'
  | 'b' => some '\x08'
  | 'f' => some '\x0c'
  | 'n' => some '\n'
  | 'r' => some '\r'
  | 't' => some '\t'
  | _ => none

/-! ## The automaton -/

/-- Where the automaton stands. -/
inductive LexState where
  /-- Between tokens. -/
  | start
  /-- In a run of letters, which is held in reverse. -/
  | word (reversed : List Char)
  /-- In a run of number characters, which is held in reverse. -/
  | number (reversed : List Char)
  /-- In a string. -/
  | string (content : Content)
  /-- After a backslash in a string. -/
  | escape (content : Content)
  /-- In the four digits of an escape: how many are missing, and the value of those before. -/
  | digits (content : Content) (missing value : Nat)
  deriving DecidableEq, Repr

/-- A character between tokens: the token it is, if any, and the state after it. -/
def startToken (c : Char) : Option Token × Option LexState :=
  match c with
  | ' ' | '\n' | '\t' | '\r' => (none, some .start)
  | '[' => (some .openArray, some .start)
  | ']' => (some .closeArray, some .start)
  | '\x7b' => (some .openObject, some .start)
  | '\x7d' => (some .closeObject, some .start)
  | ',' => (some .comma, some .start)
  | ':' => (some .colon, some .start)
  | '"' => (none, some (.string .empty))
  | c =>
    if c.isDigit || c == '-' then (none, some (.number [c]))
    else if c.isLower then (none, some (.word [c]))
    else (some .fault, none)

/-- The state after a character inside a string, if a string may hold it. -/
def stringStep (content : Content) (c : Char) : Option LexState :=
  if c = '\\' then some (.escape content)
  else if c.toNat < 32 then none
  else some (.string (content.push c))

/-- The state after a character that follows a backslash, if there is such an escape. -/
def escapeStep (content : Content) (c : Char) : Option LexState :=
  if c = 'u' then some (.digits content 4 0)
  else (escaped? c).map fun e => .string (content.push e)

/-- The state after a digit of an escape. -/
def digitStep (content : Content) (missing value : Nat) (c : Char) : Option LexState :=
  (Numeral.digitValue? c).map fun d =>
    if missing = 1 then .string (content.pushUnit (16 * value + d))
    else .digits content (missing - 1) (16 * value + d)

/-- Continues with a state that was reached, or ends with a fault. -/
def lexFrom : LexState → List Char → List Token
  | .start, [] => []
  | .word reversed, [] => [wordToken reversed.reverse]
  | .number reversed, [] => [numberToken reversed.reverse]
  | .string _, [] | .escape _, [] | .digits _ _ _, [] => [.fault]
  | .start, c :: cs => between c cs
  | .word reversed, c :: cs =>
    if c.isLower then lexFrom (.word (c :: reversed)) cs
    else wordToken reversed.reverse :: between c cs
  | .number reversed, c :: cs =>
    if isNumberChar c then lexFrom (.number (c :: reversed)) cs
    else numberToken reversed.reverse :: between c cs
  | .string content, c :: cs =>
    if c = '"' then .string content.finish :: lexFrom .start cs
    else
      match stringStep content c with
      | some state => lexFrom state cs
      | none => [.fault]
  | .escape content, c :: cs =>
    match escapeStep content c with
    | some state => lexFrom state cs
    | none => [.fault]
  | .digits content missing value, c :: cs =>
    match digitStep content missing value c with
    | some state => lexFrom state cs
    | none => [.fault]
where
  /-- A character that starts a token or stands between tokens, and the text after it. -/
  between (c : Char) (cs : List Char) : List Token :=
    match startToken c with
    | (token, some state) => token.toList ++ lexFrom state cs
    | (token, none) => token.toList

/-- The tokens of a text. -/
def tokens (text : List Char) : List Token :=
  lexFrom .start text

end SysReg.Json
