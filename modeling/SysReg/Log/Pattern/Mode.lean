import SysReg.Text.Blank

/-!
# How an expression is read

Flags in a regular expression change how what follows is read. Three of them bear on whether an
expression can be used: whether letters stand for both of their cases, whether it is about
characters of all scripts or about octets, and whether blanks and comments may stand between its
parts. The others bear on what it matches: what a line is, and which repetition is tried first.

Two limits follow from what expressions are used for. They are matched against texts, so none may
match an octet that is no character; and they are matched without tables of all characters, so the
cases, the digits, the blanks and the words of all scripts are not known. The rules for the single
parts are the functions `admits…`.
-/

namespace SysReg.Log.Pattern

/-- How the text at a place of an expression is read. -/
structure Mode where
  /-- Letters stand for both of their cases. -/
  caseless : Bool
  /-- The expression is about the characters of all scripts, else about octets. -/
  allScripts : Bool
  /-- Blanks and comments do not count. -/
  spaced : Bool
  /-- A circumflex and a dollar sign stand for the edges of lines, else for those of the text. -/
  byLine : Bool
  /-- The dot stands for ends of lines too. -/
  dotEndsLine : Bool
  /-- A carriage return ends a line as well. -/
  returnEndsLine : Bool
  /-- Repetitions prefer to be few. -/
  fewFirst : Bool
  deriving DecidableEq, Repr

namespace Mode

/-- The mode in which an expression begins. -/
def initial : Mode :=
  ⟨false, true, false, false, false, false, false⟩

/-! ## Flags -/

/-- A mode after one flag was turned on or off. -/
def set (m : Mode) (on : Bool) : Char → Mode
  | 'i' => { m with caseless := on }
  | 'u' => { m with allScripts := on }
  | 'x' => { m with spaced := on }
  | 'm' => { m with byLine := on }
  | 's' => { m with dotEndsLine := on }
  | 'R' => { m with returnEndsLine := on }
  | 'U' => { m with fewFirst := on }
  | _ => m

/-- A mode after flags; those behind a dash are turned off. -/
def change (m : Mode) (on : Bool) : List Char → Mode
  | [] => m
  | '-' :: flags => m.change false flags
  | flag :: flags => (m.set on flag).change on flags

/-! ## Blanks and comments -/

/-- The text after blanks and comments. A comment goes from a number sign to the end of the line. -/
def skipBlanks (inComment : Bool) : List Char → List Char
  | [] => []
  | c :: cs =>
    if inComment then skipBlanks (c != '\n') cs
    else if Text.isBlank c then skipBlanks false cs
    else if c = '#' then skipBlanks true cs
    else c :: cs

/-- The text after what does not count. -/
def skip (m : Mode) (cs : List Char) : List Char :=
  if m.spaced then skipBlanks false cs else cs

/-- The character that decides whether a dash in a class makes a range. Where blanks do not count it is
the next other one, and behind a number sign the first of the comment. -/
def peek (m : Mode) (cs : List Char) : Option Char :=
  if m.spaced then
    match cs.dropWhile Text.isBlank with
    | '#' :: rest => (rest.dropWhile Text.isBlank).head?
    | rest => rest.head?
  else cs.head?

/-! ## What is known -/

/-- A character outside of classes. An octet is one that was written as two hexadecimal digits. -/
def admitsLiteral (m : Mode) (c : Char) (octet : Bool) : Bool :=
  if m.allScripts then !m.caseless else !octet || c.toNat < 128

/-- The dot, which stands for any character. -/
def admitsDot (m : Mode) : Bool :=
  m.allScripts

/-- An edge of the text or of a word. -/
def admitsEdge (m : Mode) (ofWord : Bool) : Bool :=
  !ofWord || !m.allScripts

/-- A class that is named by a letter. -/
def admitsLetterClass (m : Mode) (negated : Bool) : Bool :=
  !m.allScripts && !negated

/-- A character in a class. -/
def admitsMember (m : Mode) (c : Char) : Bool :=
  if m.allScripts then !m.caseless else c.toNat < 128

/-- A class that is named between colons. -/
def admitsNamedClass (m : Mode) (negated : Bool) : Bool :=
  if m.allScripts then !m.caseless else !negated

/-- A class in brackets, whatever its members. -/
def admitsBrackets (m : Mode) (negated : Bool) : Bool :=
  m.allScripts || !negated

end Mode
end SysReg.Log.Pattern
