/-!
# The syntax of scripts

A script for the shell is made of words and of commands, and each may hold the other: a word may stand
for the output of commands. A word is a row of pieces, which are characters, quoted or not, and what is
put in when the word is used.

A shell knows octets and no characters. In all of its modules a character stands for the octet of its
number.
-/

namespace SysReg.Shell

/-- The kinds of shells. -/
inductive Dialect where
  /-- Knows what every shell knows. -/
  | plain
  /-- Knows more. -/
  | extended
  deriving DecidableEq, Repr

/-- What a redirection does. -/
inductive Direction where
  | read
  | write
  | append
  /-- Writes, even if what is there is to be kept. -/
  | overwrite
  | readAndWrite
  /-- Takes the input of another descriptor, or closes the descriptor. -/
  | sameInput
  /-- Takes the output of another descriptor, or closes the descriptor. -/
  | sameOutput
  /-- Writes what is printed and the errors. -/
  | writeBoth
  /-- Appends what is printed and the errors. -/
  | appendBoth
  deriving DecidableEq, Repr

/-- When something else is used in place of a value. -/
inductive Absence where
  | unset
  | unsetOrEmpty
  deriving DecidableEq, Repr

/-- Which matches of a pattern are replaced. -/
inductive Extent where
  | first
  | every
  | atStart
  | atEnd
  deriving DecidableEq, Repr

/-- How letters are changed. -/
inductive LetterChange where
  | upper
  | lower
  | toggled
  deriving DecidableEq, Repr

/-- How an arm of a choice ends. -/
inductive ArmEnd where
  | over
  /-- The next arm is carried out as well. -/
  | intoNext
  /-- The next arms are asked about as well. -/
  | onward
  deriving DecidableEq, Repr

mutual

/-- A piece of a word. -/
inductive Piece where
  /-- A character that may be a wildcard. -/
  | plain (c : Char)
  /-- Characters that stand for themselves. There is a field for them even if there are none. -/
  | quoted (cs : List Char)
  /-- The value of a parameter; what is quoted is not split into fields. -/
  | parameter (subject : Parameter) (use : Use) (isQuoted : Bool)
  /-- The output of commands. -/
  | output (commands : Command) (isQuoted : Bool)
  /-- The value of an expression. -/
  | value (expression : List Piece) (isQuoted : Bool)
  /-- A path from which the output of commands is read, or to which their input is written. -/
  | channel (commands : Command) (isOutput : Bool)
  /-- The elements of a list, of which some have keys. -/
  | elements (found : List (Option (List Piece) × List Piece))
  /-- Patterns of which one has to match, as the sign in front of them says. -/
  | patterns (sign : Char) (choices : List (List Piece))

/-- What a value is taken of. -/
inductive Parameter where
  | named (name : String)
  /-- An element of a list. -/
  | element (name : String) (key : List Piece)
  /-- What the value of another is the name of. -/
  | through (subject : Parameter)

/-- How the value of a parameter is used. -/
inductive Use where
  | plain
  | length
  /-- Nothing that makes sense, as it stands in the script. -/
  | unknown (text : String)
  /-- The word in place of an absent value. -/
  | orElse (absence : Absence) (word : List Piece)
  /-- The word, unless the value is absent. -/
  | andThen (absence : Absence) (word : List Piece)
  /-- An absent value is set to the word first. -/
  | orSet (absence : Absence) (word : List Piece)
  /-- An absent value is a fault, for which the word is the message. -/
  | orFail (absence : Absence) (word : List Piece)
  /-- The value without what matches a pattern at its start or end. -/
  | without (atStart longest : Bool) (pattern : List Piece)
  /-- So many characters behind some, or all of them. -/
  | slice (offset : List Piece) (length : Option (List Piece))
  | replaced (extent : Extent) (pattern replacement : List Piece)
  /-- The letters that match a pattern are changed, or only the first of the value. -/
  | recased (change : LetterChange) (every : Bool) (pattern : List Piece)
  /-- The value as a letter says. -/
  | shown (letter : Char)
  /-- The keys of a list. -/
  | keys
  /-- The names of the variables that begin with the name. -/
  | names

/-- What sets a variable or an element of a list. -/
inductive Setting where
  | mk (name : String) (key : Option (List Piece)) (isAdded : Bool) (value : List Piece)

/-- What is to be true. -/
inductive Judgement where
  | one (operator : String) (operand : List Piece)
  | two (first : List Piece) (operator : String) (second : List Piece)
  | negated (body : Judgement)
  | both (first second : Judgement)
  | either (first second : Judgement)

/-- A redirection of a descriptor. -/
inductive Redirection where
  /-- The text is the target as it stands in the script. -/
  | directed (descriptor : Nat) (direction : Direction) (target : List Piece) (text : String)
  /-- A document in the script, by its number, is the input. -/
  | document (descriptor number : Nat)
  /-- A word is the input, as a line. -/
  | line (descriptor : Nat) (word : List Piece)

/-- A command. -/
inductive Command where
  | nothing
  /-- Variables to set and the words of a command, on a line. -/
  | simple (line : Nat) (settings : List Setting) (words : List (List Piece))
      (redirections : List Redirection)
  | redirected (line : Nat) (body : Command) (redirections : List Redirection)
  /-- What each command prints is the input of the next. -/
  | pipe (parts : List Command)
  | negated (body : Command)
  /-- The second is for a success of the first, or else for a failure. -/
  | guarded (onSuccess : Bool) (first second : Command)
  | sequence (first second : Command)
  /-- A command for whose end nothing waits. -/
  | background (body : Command)
  | branch (condition yes no : Command)
  /-- A loop as long as the condition succeeds, or else as long as it fails. -/
  | loop (onSuccess : Bool) (condition body : Command)
  | each (line : Nat) (name : String) (words : List (List Piece)) (body : Command)
  /-- A loop over an expression that is worked out first, one that is asked about, and one that comes
  behind the body. -/
  | counted (line : Nat) (start condition next : List Piece) (body : Command)
  | choose (line : Nat) (subject : List Piece) (arms : List (List (List Piece) × Command × ArmEnd))
  /-- A success if the value of an expression is not zero. -/
  | calculation (line : Nat) (expression : List Piece)
  | judged (line : Nat) (judgement : Judgement)
  /-- A command whose time is taken, and shown in a short form if that is asked for. -/
  | timed (isShort : Bool) (body : Command)
  /-- Commands that are read when they are to be carried out. -/
  | text (line : Nat) (text : String)
  /-- Commands on their own: of what they set nothing is left. -/
  | apart (line : Nat) (body : Command) (redirections : List Redirection)
  /-- The definition of a function. -/
  | define (name : String) (body : Command)

end

instance : Inhabited Command := ⟨.nothing⟩

/-- A word. -/
abbrev Word : Type := List Piece

namespace Command

/-- There is nothing to carry out. -/
def isNothing : Command → Bool
  | nothing => true
  | _ => false

/-- One command after another. -/
def followedBy (first second : Command) : Command :=
  if first.isNothing then second else if second.isNothing then first else sequence first second

end Command

/-! ## Names -/

/-- A character of a name. -/
def isNameChar (c : Char) : Bool :=
  c == '_' || c.isAlphanum

/-- A character that may begin a name. -/
def isNameStart (c : Char) : Bool :=
  c == '_' || c.isAlpha

/-- The text is the name of a variable. -/
def isName (text : String) : Bool :=
  match text.toList with
  | [] => false
  | c :: cs => isNameStart c && cs.all isNameChar

/-- The names of parameters that are one character and no letter. -/
def specialNames : List Char :=
  ['@', '*', '#', '?', '$', '!', '-']

/-! ## Words -/

namespace Setting

/-- A variable and its value. -/
def plain (name : String) (value : Word) : Setting :=
  mk name none false value

end Setting

namespace Word

/-- The characters of a word in which nothing is quoted and nothing is put in. -/
def bare? (word : Word) : Option String :=
  String.ofList <$> word.mapM fun piece =>
    match piece with
    | .plain c => some c
    | _ => none

/-- The key between brackets, of which the first is gone, and what follows the last. The number is that of
the brackets inside that are open. -/
def keyAt? : Nat → Word → Option (Word × Word)
  | _, [] => none
  | 0, .plain ']' :: rest => some ([], rest)
  | n, piece :: rest =>
    let inside := match piece with
      | .plain '[' => n + 1
      | .plain ']' => n - 1
      | _ => n
    (keyAt? inside rest).map fun (key, rest) => (piece :: key, rest)

/-- What is set, if a word sets a variable. Elements of lists, and what is added to a value, are known to
one kind of shell only. -/
def setting? (d : Dialect) (word : Word) : Option Setting :=
  let name := word.takeWhile fun piece =>
    match piece with
    | .plain c => isNameChar c
    | _ => false
  match (bare? name).filter isName, word.drop name.length with
  | none, _ => none
  | some text, .plain '=' :: value => some (.plain text value)
  | some text, rest =>
    if d == .plain then none
    else
      let (key, rest) := match rest with
        | .plain '[' :: rest =>
          match keyAt? 0 rest with
          | some (key, rest) => (some key, rest)
          | none => (none, [])
        | rest => (none, rest)
      match rest with
      | .plain '=' :: value => some (.mk text key false value)
      | .plain '+' :: .plain '=' :: value => some (.mk text key true value)
      | _ => none

/-- The key and the value of an element, if it has a key. -/
def element (word : Word) : Option Word × Word :=
  match word with
  | .plain '[' :: rest =>
    match keyAt? 0 rest with
    | some (key, .plain '=' :: value) => (some key, value)
    | _ => (none, word)
  | _ => (none, word)

end Word
end SysReg.Shell
