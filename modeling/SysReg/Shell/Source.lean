import SysReg.Shell.Syntax

/-!
# The text of a script

A script is read from left to right, one line of commands after the other. What is known while it is
read, beside the text that is left, is the line, the documents that are still to come after the line,
and the names that stand for other texts.
-/

namespace SysReg.Shell

/-- What is wrong with a script, in one message or more. There is none if the text has ended where what
ends there is to be named. -/
structure SyntaxFault where
  line : Nat
  texts : List String
  deriving DecidableEq, Repr

/-- A token of a script. -/
inductive Token where
  | newline
  | semicolon
  | ampersand
  | both
  | either
  | bar
  /-- A bar through which errors go as well. -/
  | barForBoth
  | opening
  | closing
  | endOfArm (ending : ArmEnd)
  | ended
  /-- A reserved word. -/
  | keyword (word : String)
  | redirection (descriptor : Nat) (direction : Direction)
  /-- The start of a document, from whose lines tabs may be taken off. -/
  | document (descriptor : Nat) (untabbed : Bool)
  /-- A word follows that is a document by itself. -/
  | line (descriptor : Nat)
  | word (w : Word) (isQuoted : Bool)

namespace Token

/-- The reserved words of a kind of shell. -/
def keywords (d : Dialect) : List String :=
  ["!", "case", "do", "done", "elif", "else", "esac", "fi", "for", "if", "in", "then", "until",
    "while", "\x7b", "\x7d"] ++
  if d == .plain then [] else ["[[", "]]", "coproc", "function", "select", "time"]

/-- The token in the text of a fault. -/
def text : Token → String
  | newline => "newline"
  | semicolon => "\x22;\x22"
  | ampersand => "\x22&\x22"
  | both => "\x22&&\x22"
  | either => "\x22||\x22"
  | bar => "\x22|\x22"
  | barForBoth => "\x22|&\x22"
  | opening => "\x22(\x22"
  | closing => "\x22)\x22"
  | endOfArm _ => "\x22;;\x22"
  | ended => "end of file"
  | keyword w => "\x22" ++ w ++ "\x22"
  | redirection _ _ | document _ _ | line _ => "redirection"
  | word _ _ => "word"

/-- The token ends a list of commands. -/
def endsList : Token → Bool
  | closing | endOfArm _ | ended => true
  | keyword w => ["do", "done", "elif", "else", "esac", "fi", "then", "\x7d"].contains w
  | _ => false

/-- The token is a reserved word. -/
def isKeyword (t : Token) (asked : String) : Bool :=
  match t with
  | keyword w => w == asked
  | _ => false

end Token

/-- A document whose lines are still to come. -/
structure AwaitedDocument where
  number : Nat
  /-- The line on which it is asked for. -/
  line : Nat
  mark : List Char
  untabbed : Bool
  /-- Nothing is put into the document. -/
  isPlain : Bool

/-- What a word may set. -/
inductive Settable where
  | nothing
  /-- A variable. -/
  | variable
  /-- An element of the list in which the word stands. -/
  | element
  deriving DecidableEq, Repr

/-- A script that is being read. -/
structure Source where
  dialect : Dialect
  rest : List Char
  line : Nat
  /-- What was left at the start of the line. -/
  lineStart : List Char
  /-- What was left at the start of the last token. -/
  tokenStart : List Char
  /-- What was left at the start of the line of the last token. -/
  tokenLine : List Char
  /-- A token that was put back. -/
  held : Option Token
  awaited : List AwaitedDocument
  /-- What is to be said of the part of the script that was read. -/
  warnings : List SyntaxFault
  /-- The documents so far, by their numbers. -/
  documents : List (Nat × Word)
  nextDocument : Nat
  /-- The names that stand for other texts. -/
  aliases : List (String × String)
  /-- The names whose texts are being read, and how much is left of the script behind them. -/
  inUse : List (String × Nat)
  /-- How much is left of the script behind a text that ends in a blank. -/
  blankEnd : Option Nat
  /-- A part of the last word is quoted. -/
  quoteSeen : Bool
  /-- What the next word may set. -/
  settable : Settable
  /-- Patterns may stand in brackets behind a sign. -/
  hasPatterns : Bool

/-- The reading of a part of a script. -/
abbrev Reading : Type → Type := StateT Source (Except SyntaxFault)

namespace Source

/-- A script that begins on a line. -/
def ofText (d : Dialect) (text : List Char) (line : Nat) (aliases : List (String × String))
    (nextDocument : Nat) : Source where
  dialect := d
  rest := text
  line := line
  lineStart := text
  tokenStart := text
  tokenLine := text
  held := none
  awaited := []
  warnings := []
  documents := []
  nextDocument := nextDocument
  aliases := aliases
  inUse := []
  blankEnd := none
  quoteSeen := false
  settable := .nothing
  hasPatterns := false

/-- The text of the last token. -/
def tokenText (s : Source) : String :=
  String.ofList (s.tokenStart.take (s.tokenStart.length - s.rest.length))

/-- The line behind which the text has ended. -/
def lastLine (s : Source) : Nat :=
  if s.lineStart.isEmpty then s.line else s.line + 1

end Source

namespace Reading

/-- The kind of shell that the script is for. -/
def dialect : Reading Dialect := do
  return (← get).dialect

/-- Refuses the script. -/
def fail {α : Type} (text : String) : Reading α := do
  throw ⟨(← get).line, ["Syntax error: " ++ text]⟩

/-- Refuses a script that ends too early. -/
def failAtEnd {α : Type} (text : String) : Reading α := do
  let s ← get
  if s.dialect == .plain then fail text else throw ⟨s.lastLine, []⟩

/-- What is said if nothing closes what was opened. -/
def unmatched (closer : String) : String :=
  "unexpected EOF while looking for matching \x60" ++ closer ++ "'"

/-- Reads up to what closes what was opened on this line, or else on a later one. -/
def upTo {α : Type} (closer : String) (body : Reading α) : Reading α := do
  let line := (← get).line
  tryCatch body fun fault =>
    throw (if fault.texts.isEmpty then { fault with line, texts := [unmatched closer] } else fault)

/-- The line of the last token, as it stands in the script. -/
def quotedLine : Reading String := do
  return "\x60" ++ String.ofList ((← get).tokenLine.takeWhile (· != '\n')) ++ "'"

/-! ## Characters -/

/-- A text without the backslashes that join its first line to the next, and how many they were. -/
def joined : List Char → List Char × Nat
  | '\\' :: '\n' :: cs =>
    let (rest, n) := joined cs
    (rest, n + 1)
  | cs => (cs, 0)

/-- Passes over what joins a line to the next. -/
def join : Reading Unit :=
  modify fun s =>
    let (rest, n) := joined s.rest
    if n == 0 then s else { s with rest, line := s.line + n, lineStart := rest }

/-- Takes the next character as it is. -/
def takeRaw : Reading (Option Char) := do
  let s ← get
  match s.rest with
  | [] => return none
  | c :: rest =>
    if c == '\n' then set { s with rest, line := s.line + 1, lineStart := rest } else set { s with rest }
    return some c

/-- Takes the next character. -/
def take : Reading (Option Char) := do
  join
  takeRaw

/-- The next character. -/
def peek : Reading (Option Char) := do
  join
  return (← get).rest.head?

/-- Takes the next character if it is this one. -/
def takeIf (c : Char) : Reading Bool := do
  if (← peek) == some c then
    let _ ← takeRaw
    return true
  else return false

/-- Takes characters of a kind. The number is at least that of the characters. -/
def takeWhile (kind : Char → Bool) : Nat → Reading (List Char)
  | 0 => return []
  | n + 1 => do
    match ← peek with
    | some c =>
      if kind c then
        let _ ← takeRaw
        return c :: (← takeWhile kind n)
      else return []
    | none => return []

/-- Takes characters up to one that is taken as well. -/
def takeUpTo (stop : Char) (onEnd : String) : Nat → Reading (List Char)
  | 0 => failAtEnd onEnd
  | n + 1 => do
    match ← takeRaw with
    | none => failAtEnd onEnd
    | some c => if c == stop then return [] else return c :: (← takeUpTo stop onEnd n)

/-- A number that is greater than that of the characters left and of the token that was put back. -/
def bound : Reading Nat := do
  return (← get).rest.length + 2

/-! ## Texts of their own -/

/-- Reads another text from its first line on, and then goes on with the script. -/
def inside {α : Type} (text : List Char) (line : Nat) (body : Reading α) : Reading α := do
  let s ← get
  set { s with
    rest := text, line, lineStart := text, held := none, awaited := [], inUse := [], blankEnd := none }
  let found ← body
  modify fun after =>
    { after with
      rest := s.rest, line := s.line, lineStart := s.lineStart, tokenStart := s.tokenStart
      tokenLine := s.tokenLine, held := s.held, awaited := s.awaited, inUse := s.inUse
      blankEnd := s.blankEnd, quoteSeen := s.quoteSeen }
  return found

/-- Reads a part of the script for itself: its tokens and documents are its own. -/
def apart {α : Type} (body : Reading α) : Reading α := do
  let s ← get
  set { s with held := none, awaited := [] }
  let found ← body
  modify fun after =>
    { after with held := s.held, awaited := s.awaited, quoteSeen := s.quoteSeen }
  return found

end Reading
end SysReg.Shell
