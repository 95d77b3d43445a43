import SysReg.Shell.Escape
import SysReg.Shell.Real
import SysReg.Shell.Tool.Editor.Script

/-!
# Reading scripts of the line editor

A script may come in pieces, from arguments and from files. A fault is put down to the piece and to how
far it was read.
-/

namespace SysReg.Shell

/-- A piece of a script. -/
structure EditPiece where
  /-- The file, or else the number of the argument. -/
  origin : String ⊕ Nat
  text : List Char
  deriving DecidableEq, Repr

/-- How far a script is read. -/
structure EditReading where
  isExtended : Bool
  piece : EditPiece
  rest : List Char
  /-- The characters of the piece that were read, and the lines. -/
  count : Nat
  line : Nat
  later : List EditPiece
  commands : Array EditCommand
  /-- The commands where the open blocks begin, and the pieces that they are in. -/
  blocks : List (Nat × EditPiece)
  /-- The labels with the commands behind them. -/
  labels : List (String × Nat)
  /-- The commands that lead to labels. -/
  leaps : List (Nat × String)
  /-- Lines are printed only if a command does. -/
  isSilent : Bool

namespace EditReading

/-- Why a script is refused, and the status that the editor leaves for it. -/
structure Refusal where
  status : Nat
  text : String
  deriving DecidableEq, Repr

/-- A step of reading. -/
abbrev Step : Type → Type := StateT EditReading (Except Refusal)

/-! ## Characters -/

/-- Where a fault is: in a piece, after so many characters or in a line. -/
def placeText (piece : EditPiece) (count line : Nat) : String :=
  match piece.origin with
  | .inl path => "file " ++ path ++ " line " ++ Numeral.decimal line ++ ": "
  | .inr n => "-e expression #" ++ Numeral.decimal n ++ ", char " ++ Numeral.decimal count ++ ": "

/-- A fault at the place up to which the script was read. -/
def fail {α : Type} (text : String) : Step α := do
  let r ← get
  throw ⟨1, placeText r.piece r.count r.line ++ text⟩

/-- Reads a character, unless the piece is at its end. -/
def next? : Step (Option Char) := do
  let r ← get
  match r.rest with
  | [] => return none
  | c :: rest =>
    set { r with rest, count := r.count + 1, line := if c == '\n' then r.line + 1 else r.line }
    return some c

/-- The next character, which is not read. -/
def look : Step (Option Char) := do
  return (← get).rest.head?

/-- Passes over so many characters. -/
def pass (n : Nat) : Step Unit :=
  modify fun r =>
    { r with
      rest := r.rest.drop n
      count := r.count + min n r.rest.length
      line := r.line + (r.rest.take n).count '\n' }

/-- Reads characters of a kind. -/
def takeWhile (isOne : Char → Bool) : Step (List Char) := do
  let found := (← get).rest.takeWhile isOne
  pass found.length
  return found

/-- A blank within a line. -/
def isBlank (c : Char) : Bool :=
  c == ' ' || c == '\t'

/-- A blank or the end of a line. -/
def isSpace (c : Char) : Bool :=
  c == ' ' || ('\t' ≤ c && c ≤ '\x0d')

/-- Passes over blanks. -/
def skipBlanks : Step Unit := do
  let _ ← takeWhile isBlank

/-- Reads digits as a number. -/
def number : Step Nat := do
  return Real.ofDigits (← takeWhile Char.isDigit)

/-! ## Texts -/

/-- What a letter behind a backslash stands for, with digits behind it, and what follows them. -/
def escapeAt? (cs : List Char) : Option (Char × List Char) :=
  match cs with
  | 'a' :: rest => some ('\x07', rest)
  | 'f' :: rest => some ('\x0c', rest)
  | 'n' :: rest => some ('\n', rest)
  | 'r' :: rest => some ('\x0d', rest)
  | 't' :: rest => some ('\t', rest)
  | 'v' :: rest => some ('\x0b', rest)
  | 'c' :: c :: rest => some (Char.ofNat (c.toUpper.toNat ^^^ 64), rest)
  | 'd' :: rest => Escape.octetAt? 10 3 rest
  | 'o' :: rest => Escape.octetAt? 8 3 rest
  | 'x' :: rest => Escape.octetAt? 16 2 rest
  | _ => none

/-- The text with its escapes replaced. Other backslashes stay. The number is at least that of the
characters. -/
def unescaped : Nat → List Char → List Char
  | 0, cs => cs
  | _, [] => []
  | n + 1, '\\' :: cs =>
    match escapeAt? cs with
    | some (c, rest) => c :: unescaped n rest
    | none => '\\' :: cs.take 1 ++ unescaped n (cs.drop 1)
  | n + 1, c :: cs => c :: unescaped n cs

/-- The set in brackets at the start of a text, behind the opening one, up to the closing one, if there
is one in the line. The number is at least that of the characters. -/
def bracket? : Nat → (isFirst : Bool) → List Char → Option (List Char)
  | 0, _, _ => none
  | n + 1, isFirst, cs =>
    let onward (found rest : List Char) : Option (List Char) := (bracket? n false rest).map (found ++ ·)
    match cs with
    | [] | '\n' :: _ => none
    | ']' :: rest => if isFirst then onward [']'] rest else some [']']
    | '[' :: kind :: rest =>
      if [':', '.', '='].contains kind then
        let name := rest.takeWhile (· != kind)
        match rest.drop name.length with
        | _ :: ']' :: after => onward ('[' :: kind :: name ++ [kind, ']']) after
        | _ => none
      else onward ['['] (kind :: rest)
    | c :: rest => onward [c] rest

/-- Reads a text up to a delimiter, or else nothing. The delimiter behind a backslash stands for itself,
and in a pattern it may stand in brackets. The number is at least that of the characters. -/
def delimited (isPattern : Bool) (delimiter : Char) : Nat → Step (Option (List Char))
  | 0 => return none
  | n + 1 => do
    let onward (found : List Char) : Step (Option (List Char)) := do
      return (← delimited isPattern delimiter n).map (found ++ ·)
    match ← look with
    | none | some '\n' => return none
    | some c =>
      pass 1
      if c == delimiter then return some []
      else if c == '\\' then
        match ← next? with
        | none => return none
        | some d =>
          if d == '\n' || (d == delimiter && (isPattern || d != '&')) then onward [d]
          else if isPattern && d == 'n' then onward ['\n']
          else onward ['\\', d]
      else if isPattern && c == '[' then
        let rest := (← get).rest
        let sign := rest.takeWhile (· == '^') |>.take 1
        match bracket? (rest.length + 1) true (rest.drop sign.length) with
        | some set =>
          pass (sign.length + set.length)
          onward ('[' :: sign ++ set)
        | none =>
          let _ ← takeWhile (· != '\n')
          return none
      else onward [c]

/-- Reads the rest of a line, or of what a label may hold. -/
def name (isOne : Char → Bool) : Step String := do
  skipBlanks
  return String.ofList (← takeWhile isOne)

/-- Reads the name of a file. -/
def fileName : Step String := do
  let found ← name (· != '\n')
  if found.isEmpty then fail "missing filename in r/R/w/W commands"
  pass 1
  return found

/-- Reads the rest of a line. -/
def restOfLine : Step (List Char) := do
  skipBlanks
  let found ← takeWhile (· != '\n')
  pass 1
  return found

/-- Reads a label. -/
def label : Step String :=
  name fun c => !isSpace c && c != ';' && c != '\x7d'

/-- Reads the lines of a text, which goes on behind a backslash at the end of a line and may go on in the
next piece. The number is at least that of the characters. -/
def textLines : Nat → Step (List Char)
  | 0 => return []
  | n + 1 => do
    match ← next? with
    | none => return ['\n']
    | some '\n' => return ['\n']
    | some '\\' =>
      let rest := (← get).rest
      match rest with
      | [] => return []
      | c :: _ =>
        match escapeAt? rest with
        | some (d, after) =>
          pass (rest.length - after.length)
          return d :: (← textLines n)
        | none =>
          pass 1
          return c :: (← textLines n)
    | some c => return c :: (← textLines n)

/-- Goes on with the next piece, if there is one. -/
def nextPiece : Step Bool := do
  let r ← get
  match r.later with
  | [] => return false
  | piece :: later =>
    set { r with piece, rest := piece.text, count := 0, line := 1, later }
    return true

/-- Reads the text of a command, behind it. -/
def text : Step (List Char) := do
  skipBlanks
  match (← get).rest with
  | [] => fail "expected \\ after \x60a', \x60c' or \x60i'"
  | '\\' :: rest =>
    pass 1
    if rest.isEmpty then if !(← nextPiece) then return []
    if rest.head? == some '\n' then pass 1
  | _ => pure ()
  textLines ((← get).rest.length + 1)

/-! ## Patterns -/

/-- The pattern of a text. -/
def pattern (cs : List Char) (foldsCase byLine : Bool) : Step LinePattern := do
  if cs.isEmpty then return ⟨none, foldsCase, byLine⟩
  match Regex.ofText ⟨(← get).isExtended, false, true⟩ (unescaped cs.length cs) with
  | .ok r => return ⟨some r, foldsCase, byLine⟩
  | .error fault => fail fault.text

/-- Reads letters that say how a pattern is meant. -/
def patternLetters : Step (Bool × Bool) := do
  let rest := (← get).rest
  let letters := rest.takeWhile fun c => c == 'I' || c == 'M' || isBlank c
  pass letters.length
  return (letters.contains 'I', letters.contains 'M')

/-! ## Lines -/

/-- Reads an address that may stand first. -/
def address? : Step (Option LineAddress) := do
  match ← look with
  | some '$' =>
    pass 1
    return some .last
  | some c =>
    if c == '/' || c == '\\' then
      pass 1
      let delimiter ← if c == '/' then pure (some '/') else next?
      match ← delimited true (delimiter.getD '\x00') ((← get).rest.length + 1) with
      | none => fail "unterminated address regex"
      | some found =>
        let (foldsCase, byLine) ← patternLetters
        return some (.containing (← pattern found foldsCase byLine))
    else if c.isDigit then
      let n ← number
      let blanks ← takeWhile isBlank
      if (← look) == some '~' then
        pass 1
        skipBlanks
        let step ← number
        return some (if step == 0 then .number n else .every n step)
      else
        modify fun r => { r with rest := blanks ++ r.rest, count := r.count - blanks.length }
        return some (.number n)
    else return none
  | none => return none

/-- Reads the end of a range. -/
def rangeEnd? : Step (Option RangeEnd) := do
  match ← look with
  | some '+' =>
    pass 1
    skipBlanks
    return some (.further (← number))
  | some '~' =>
    pass 1
    skipBlanks
    return some (.multiple (← number))
  | _ => return (← address?).map .at

/-- Reads which lines a command is for. -/
def choice : Step LineChoice := do
  if (← look) == some '+' || (← look) == some '~' then
    pass 1
    skipBlanks
    let _ ← number
    fail "invalid usage of +N or ~N as first address"
  let first ← address?
  if first.isSome then skipBlanks
  let stop ←
    if first.isSome && (← look) == some ',' then
      pass 1
      skipBlanks
      match ← rangeEnd? with
      | none =>
        pass 1
        fail "unexpected \x60,'"
      | found => pure found
    else pure none
  if stop.isSome then skipBlanks
  match first, stop with
  | some (.number 0), some (.at (.containing _)) => pure ()
  | some (.number 0), _ =>
    pass 1
    fail "invalid usage of line address 0"
  | _, _ => pure ()
  if (← look) == some '!' then
    pass 1
    skipBlanks
    if (← look) == some '!' then
      pass 1
      fail "multiple \x60!'s"
    return ⟨first, stop, true⟩
  return ⟨first, stop, false⟩

/-! ## Commands -/

/-- Adds a command. -/
def add (choice : LineChoice) (action : EditAction) : Step Unit :=
  modify fun r => { r with commands := r.commands.push ⟨choice, action⟩ }

/-- Reads the end of a command. -/
def commandEnd : Step Unit := do
  skipBlanks
  match ← look with
  | none | some '\x7d' | some '#' => return
  | some c =>
    pass 1
    if c != '\n' && c != ';' then fail "extra characters after command"

/-- Reads a number behind a command, if there is one. -/
def argument? : Step (Option Nat) := do
  skipBlanks
  if ((← look).map Char.isDigit).getD false then return some (← number) else return none

/-- The parts of what is put in the place of a match. The number is at least that of the characters. -/
def newParts (groups : Nat) : Nat → List Char → Step (List NewPart)
  | 0, _ | _, [] => return []
  | n + 1, '&' :: cs => return .group 0 :: (← newParts groups n cs)
  | n + 1, '\\' :: c :: cs => do
    let part (p : NewPart) : Step (List NewPart) := do return p :: (← newParts groups n cs)
    match c with
    | 'U' => part (.all .upper)
    | 'L' => part (.all .lower)
    | 'E' => part (.all .none)
    | 'u' => part (.next .upper)
    | 'l' => part (.next .lower)
    | _ =>
      if c.isDigit then
        let group := c.toNat - 48
        if groups < group then
          fail ("invalid reference \\" ++ c.toString ++ " on \x60s' command's RHS")
        part (.group group)
      else
        match escapeAt? (c :: cs) with
        | some (d, rest) => return .one d :: (← newParts groups n rest)
        | none => part (.one c)
  | n + 1, c :: cs => return .one c :: (← newParts groups n cs)

/-- The options of a substitution. -/
structure NewOptions where
  first : Option Nat
  goesOn : Bool
  prints : Bool
  runs : Bool
  foldsCase : Bool
  byLine : Bool
  target : Option String

/-- Reads the options of a substitution. The number is at least that of the characters. -/
def newOptions : Nat → NewOptions → Step NewOptions
  | 0, o => return o
  | n + 1, o => do
    match ← look with
    | none | some '\x7d' | some '#' => return o
    | some c =>
      if c.isDigit then
        if o.first.isSome then
          pass 1
          fail "multiple number options to \x60s' command"
        let first ← number
        if first == 0 then fail "number option to \x60s' command may not be zero"
        newOptions n { o with first := some first }
      else
        pass 1
        match c with
        | '\n' | ';' => return o
        | 'i' | 'I' => newOptions n { o with foldsCase := true }
        | 'm' | 'M' => newOptions n { o with byLine := true }
        | 'e' => newOptions n { o with runs := true }
        | 'p' =>
          if o.prints then fail "multiple \x60p' options to \x60s' command"
          newOptions n { o with prints := true }
        | 'g' =>
          if o.goesOn then fail "multiple \x60g' options to \x60s' command"
          newOptions n { o with goesOn := true }
        | 'w' => return { o with target := some (← fileName) }
        | _ => if isBlank c then newOptions n o else fail "unknown option to \x60s'"

/-- Reads a substitution. -/
def substitution : Step Substitution := do
  let part (isPattern : Bool) (delimiter : Char) : Step (List Char) := do
    match ← delimited isPattern delimiter ((← get).rest.length + 1) with
    | some found => return found
    | none => fail "unterminated \x60s' command"
  match ← next? with
  | none => fail "unterminated \x60s' command"
  | some delimiter =>
    let old ← part true delimiter
    let new ← part false delimiter
    let o ← newOptions ((← get).rest.length + 1) ⟨none, false, false, false, false, false, none⟩
    let p ← pattern old o.foldsCase o.byLine
    let groups := (p.regex.map Regex.groupCount).getD 9
    return ⟨p, ← newParts groups (new.length + 1) new, o.first.getD 1, o.goesOn, o.prints, o.runs,
      o.target⟩

/-- The letters of a text in which backslashes stand before some. The number is at least that of the
characters. -/
def plainLetters : Nat → List Char → List Char
  | 0, _ | _, [] => []
  | n + 1, '\\' :: c :: cs =>
    match escapeAt? (c :: cs) with
    | some (d, rest) => d :: plainLetters n rest
    | none => c :: plainLetters n cs
  | n + 1, c :: cs => c :: plainLetters n cs

/-- Reads letters that are to be exchanged for others. -/
def letterPairs : Step (List (Char × Char)) := do
  match ← next? with
  | none => fail "unterminated \x60y' command"
  | some delimiter =>
    let part : Step (List Char) := do
      match ← delimited false delimiter ((← get).rest.length + 1) with
      | some found => return plainLetters (found.length + 1) found
      | none => fail "unterminated \x60y' command"
    let old ← part
    let new ← part
    if old.length != new.length then fail "strings for \x60y' command are different lengths"
    commandEnd
    return old.zip new

/-- Reads a command that leads to a label, or to the end. -/
def leap (choice : LineChoice) (condition : LeapCondition) : Step Unit := do
  let found ← label
  modify fun r =>
    { r with
      commands := r.commands.push ⟨choice, .leap condition 0⟩
      leaps := (r.commands.size, found) :: r.leaps }

/-- Reads a command whose letter is read. -/
def command (choice : LineChoice) (letter : Char) : Step Unit := do
  let simple (action : EditAction) : Step Unit := do
    commandEnd
    add choice action
  match letter with
  | '\x7b' =>
    modify fun r =>
      { r with
        commands := r.commands.push ⟨choice, .block 0⟩
        blocks := (r.commands.size, r.piece) :: r.blocks }
  | '\x7d' =>
    match (← get).blocks with
    | [] => fail "unexpected \x60\x7d'"
    | (opening, _) :: blocks =>
      if choice.first.isSome then fail "\x60\x7d' doesn't want any addresses"
      commandEnd
      modify fun r =>
        { r with
          commands := r.commands.modify opening fun c => { c with action := .block r.commands.size }
          blocks }
  | ':' =>
    if choice.first.isSome then fail ": doesn't want any addresses"
    let found ← label
    if found.isEmpty then fail "\":\" lacks a label"
    modify fun r => { r with labels := (found, r.commands.size) :: r.labels }
  | '=' => simple .number
  | 'd' => simple (.delete false)
  | 'D' => simple (.delete true)
  | 'F' => simple .name
  | 'g' => simple (.recall false)
  | 'G' => simple (.recall true)
  | 'h' => simple (.keep false)
  | 'H' => simple (.keep true)
  | 'n' => simple (.next false)
  | 'N' => simple (.next true)
  | 'p' => simple (.print false)
  | 'P' => simple (.print true)
  | 'x' => simple .exchange
  | 'z' => simple .clear
  | 'l' => simple (.show (← argument?))
  | 'q' | 'Q' =>
    if choice.stop.isSome then fail "command only uses one address"
    simple (.quit (letter == 'q') ((← argument?).getD 0))
  | 'a' => add choice (.after (← text))
  | 'i' => add choice (.before (← text))
  | 'c' => add choice (.change (← text))
  | 'e' => add choice (.execute (← restOfLine))
  | 'r' => add choice (.readFile (← fileName))
  | 'R' => add choice (.readLine (← fileName))
  | 'w' => add choice (.write false (← fileName))
  | 'W' => add choice (.write true (← fileName))
  | 's' => add choice (.substitute (← substitution))
  | 'y' => add choice (.exchangeLetters (← letterPairs))
  | 'b' => leap choice .always
  | 't' => leap choice .afterSuccess
  | 'T' => leap choice .afterFailure
  | 'v' =>
    let _ ← label
  | '\n' => fail "missing command"
  | 'L' => throw ⟨4, "INTERNAL ERROR: Bad cmd L"⟩
  | _ => fail ("unknown command: \x60" ++ letter.toString ++ "'")

/-- Reads a comment. The first line of a script may say that nothing is printed by itself. -/
def comment (choice : LineChoice) : Step Unit := do
  if choice.first.isSome then fail "comments don't accept any addresses"
  let isStart := (← get).count == 1 && (← get).commands.isEmpty
  let found ← takeWhile (· != '\n')
  if isStart && found == ['n'] then modify fun r => { r with isSilent := true }

/-- Reads commands up to the end. The number is at least that of the characters of all pieces. -/
def allCommands : Nat → Step Unit
  | 0 => return
  | n + 1 => do
    let _ ← takeWhile fun c => c == ';' || isSpace c
    if (← look).isNone then
      if ← nextPiece then allCommands n else return
    else
      let found ← choice
      match ← next? with
      | none => fail "missing command"
      | some '#' => comment found
      | some c => command found c
      allCommands n

/-- The commands, of which one leads to another now. -/
def aimed (found : Array EditCommand) (index target : Nat) : Array EditCommand :=
  found.modify index fun c =>
    match c.action with
    | .leap condition _ => { c with action := .leap condition target }
    | _ => c

/-- The commands of a script, and whether lines are printed only if one does. -/
def script (isExtended : Bool) (pieces : List EditPiece) :
    Except Refusal (Array EditCommand × Bool) := do
  match pieces with
  | [] => return (#[], false)
  | first :: later =>
    let size := (pieces.map fun piece => piece.text.length + 2).foldl (· + ·) 0
    let start : EditReading :=
      ⟨isExtended, first, first.text, 0, 1, later, #[], [], [], [], false⟩
    let ((), r) ← (allCommands size).run start
    match r.blocks with
    | (_, piece) :: _ => throw ⟨1, placeText piece 0 0 ++ "unmatched \x60\x7b'"⟩
    | [] =>
      let found ← r.leaps.reverse.foldlM (fun found (index, name) =>
        match if name.isEmpty then some r.commands.size else r.labels.lookup name with
        | some target => .ok (aimed found index target)
        | none => .error ⟨4, "can't find label for jump to \x60" ++ name ++ "'"⟩) r.commands
      return (found, r.isSilent)

end EditReading
end SysReg.Shell
