import SysReg.Shell.Escape
import SysReg.Shell.Source

/-!
# Reading words

How far a word reaches and which of its characters have a meaning depends on where it stands: among
others, between quotes, between braces, in an expression or in a document. What stands for the output of
commands is handed to the reader of commands.
-/

namespace SysReg.Shell

/-- Where a piece of a word stands. -/
inductive Place where
  /-- Among other words: the word ends at a blank or an operator. -/
  | among
  /-- In the mark of a document, in which nothing is put. -/
  | mark
  /-- Between double quotes. -/
  | quotes
  /-- Between the braces of a parameter, which may be quoted. -/
  | braces (isQuoted : Bool)
  /-- In an expression, behind so many brackets. -/
  | expression (brackets : Nat)
  /-- In a document. -/
  | document
  /-- Between the braces of a parameter, up to a slash. -/
  | part
  /-- The key of an element, behind so many brackets of its own. -/
  | key (brackets : Nat)
  /-- What texts are matched against, behind so many brackets. -/
  | form (brackets : Nat)
  /-- One of some patterns in brackets. -/
  | alternative
  deriving DecidableEq, Repr

namespace Place

/-- What stands there is quoted. -/
def isQuoted : Place → Bool
  | among | mark | part | key _ | form _ | alternative => false
  | braces isQuoted => isQuoted
  | quotes | expression _ | document => true

/-- A backslash takes the meaning of the character after it. -/
def escapes (place : Place) (c : Char) : Bool :=
  !place.isQuoted || ['\\', '\x60', '$'].contains c || (c == '\x22' && place != document) ||
    (c == '\x7d' && place == braces true)

/-- The characters that end a word among others. -/
def boundaries : List Char :=
  [' ', '\t', '\n', ';', '&', '|', '<', '>', '(', ')']

/-- The word ends before the character, which is taken if it belongs to the word. -/
def endsAt (place : Place) (c : Char) : Bool :=
  match place with
  | among | mark => boundaries.contains c
  | quotes => c == '\x22'
  | braces _ => c == '\x7d'
  | part => c == '/' || c == '\x7d'
  | key 0 => c == ']'
  | form 0 => c != '(' && c != '|' && boundaries.contains c
  | alternative => c == '|' || c == ')'
  | expression _ | document | key _ | form _ => false

/-- The character at which the word ends belongs to it. -/
def takesEnd : Place → Bool
  | quotes | braces _ | key _ => true
  | _ => false

/-- What is wrong if the script ends there. -/
def onEnd : Place → Option String
  | among | mark | document | form 0 => none
  | quotes | braces true => some "Unterminated quoted string"
  | braces false | part => some "Missing '\x7d'"
  | expression _ => some "Missing '))'"
  | key _ | form _ | alternative => some "Missing end"

/-- A character that stands for itself. -/
def literal (place : Place) (c : Char) : Piece :=
  if place.isQuoted then .quoted [c] else .plain c

end Place

namespace Quotation

/-- There is a quote in the word. -/
def noteQuote : Reading Unit :=
  modify fun s => { s with quoteSeen := true }

/-! ## Backticks -/

/-- The script between backticks, of which the first is gone. -/
def insideTicks (isQuoted : Bool) : Nat → Reading (List Char)
  | 0 => Reading.failAtEnd "EOF in backquote substitution"
  | n + 1 => do
    match ← Reading.take with
    | none => Reading.failAtEnd "EOF in backquote substitution"
    | some '\x60' => return []
    | some '\\' =>
      match ← Reading.takeRaw with
      | none => Reading.failAtEnd "EOF in backquote substitution"
      | some c =>
        let rest ← insideTicks isQuoted n
        if c == '\\' || c == '\x60' || c == '$' || (isQuoted && c == '\x22') then return c :: rest
        else return '\\' :: c :: rest
    | some c => return c :: (← insideTicks isQuoted n)

/-! ## Parameters -/

/-- The name of a parameter between braces and whether its length is meant, or `none` if there is no
name. -/
def parameterName : Reading (Option (String × Bool)) := do
  Reading.join
  match (← get).rest with
  | [] => return none
  | c :: cs =>
    if isNameStart c then
      return some (String.ofList (← Reading.takeWhile isNameChar (← Reading.bound)), false)
    else if c.isDigit then
      return some (String.ofList (← Reading.takeWhile Char.isDigit (← Reading.bound)), false)
    else
      let lengthOf (d : Char) : Bool :=
        isNameChar d || (specialNames.contains d && (cs.drop 1).head? == some '\x7d')
      match c, cs with
      | '#', d :: _ =>
        let _ ← Reading.takeRaw
        if d == '\x7d' || !lengthOf d then return some ("#", false)
        else if isNameStart d then
          return some (String.ofList (← Reading.takeWhile isNameChar (← Reading.bound)), true)
        else if d.isDigit then
          return some (String.ofList (← Reading.takeWhile Char.isDigit (← Reading.bound)), true)
        else
          let _ ← Reading.takeRaw
          return some (d.toString, true)
      | _, _ =>
        if specialNames.contains c then
          let _ ← Reading.takeRaw
          return some (c.toString, false)
        else return none

/-- How the value of a parameter is used, up to the brace that closes. The reader is that of the word in
braces, quoted or not. -/
def useOf (word : (isQuoted : Bool) → Reading Word) (isQuoted : Bool) : Reading Use := do
  let absence : Absence := if ← Reading.takeIf ':' then .unsetOrEmpty else .unset
  match ← Reading.take with
  | none =>
    let _ ← word isQuoted
    return .unknown ""
  | some '\x7d' => return .plain
  | some '-' => return .orElse absence (← word isQuoted)
  | some '+' => return .andThen absence (← word isQuoted)
  | some '?' => return .orFail absence (← word isQuoted)
  | some '=' => return .orSet absence (← word isQuoted)
  | some c =>
    if (c == '%' || c == '#') && absence == .unset then
      let longest ← Reading.takeIf c
      return .without (c == '#') longest (← word false)
    else
      -- The end of a line in the place of an operator is not counted.
      if c == '\n' then modify fun s => { s with line := s.line - 1 }
      let _ ← word isQuoted
      return .unknown ""

/-- The parameter between braces, of which the first is gone. -/
def inBraces (word : (isQuoted : Bool) → Reading Word) (isQuoted : Bool) : Reading Piece := do
  match ← parameterName with
  | none =>
    let _ ← word isQuoted
    return .parameter (.named "") (.unknown "") isQuoted
  | some (name, true) =>
    if ← Reading.takeIf '\x7d' then return .parameter (.named name) .length isQuoted
    else
      let _ ← word isQuoted
      return .parameter (.named name) (.unknown "") isQuoted
  | some (name, false) => return .parameter (.named name) (← useOf word isQuoted) isQuoted

/-! ## More uses of parameters -/

section

-- The reader of words.
variable (word : Place → Reading Word)

/-- What the value is taken of, if that stands there. -/
def subject? : Reading (Option Parameter) := do
  match ← Reading.peek with
  | none => return none
  | some c =>
    if isNameStart c then
      let name := String.ofList (← Reading.takeWhile isNameChar (← Reading.bound))
      if ← Reading.takeIf '[' then return some (.element name (← word (.key 0)))
      else return some (.named name)
    else if c.isDigit then
      return some (.named (String.ofList (← Reading.takeWhile Char.isDigit (← Reading.bound))))
    else if specialNames.contains c then
      let _ ← Reading.takeRaw
      return some (.named c.toString)
    else return none

/-- The piece is a character that stands for itself or may be a wildcard. -/
def isPieceOf (c : Char) : Piece → Bool
  | .plain d => c == d
  | .quoted [d] => c == d
  | _ => false

/-- The pieces up to a colon that does not belong to a choice or to brackets, and those behind it. The
numbers are those of the choices and brackets that are open. -/
def colonAt? (choices brackets : Nat) : Word → Option (Word × Word)
  | [] => none
  | piece :: rest =>
    if isPieceOf ':' piece && choices == 0 && brackets == 0 then some ([], rest)
    else
      let change (opens closes : Char) (n : Nat) : Nat :=
        if isPieceOf opens piece then n + 1 else if isPieceOf closes piece then n - 1 else n
      (colonAt? (change '?' ':' choices) (change '(' ')' brackets) rest).map
        fun (front, rest) => (piece :: front, rest)

/-- How a value is used that one kind of shell alone can use so, up to the brace that closes. -/
def furtherUse? (isQuoted : Bool) : Reading (Option Use) := do
  let recased (change : LetterChange) (c : Char) : Reading (Option Use) := do
    let every ← Reading.takeIf c
    return some (.recased change every (← word (.braces false)))
  match ← Reading.take with
  | some ':' =>
    let content ← word (.braces isQuoted)
    match colonAt? 0 0 content with
    | some (offset, length) => return some (.slice offset (some length))
    | none => return if content.isEmpty then none else some (.slice content none)
  | some '/' =>
    let extent : Extent ←
      if ← Reading.takeIf '/' then pure .every
      else if ← Reading.takeIf '#' then pure .atStart
      else if ← Reading.takeIf '%' then pure .atEnd
      else pure .first
    let pattern ← word .part
    if ← Reading.takeIf '/' then return some (.replaced extent pattern (← word (.braces false)))
    else
      let _ ← Reading.takeIf '\x7d'
      return some (.replaced extent pattern [])
  | some '^' => recased .upper '^'
  | some ',' => recased .lower ','
  | some '~' => recased .toggled '~'
  | some '@' =>
    match ← word (.braces isQuoted) with
    | [piece] =>
      return (['Q', 'E', 'P', 'A', 'a', 'U', 'u', 'L', 'K', 'k'].find? fun c => isPieceOf c piece).map
        Use.shown
    | _ => return none
  | some '\x7d' => return some .plain
  | _ =>
    let _ ← word (.braces isQuoted)
    return none

/-- How a value is used, up to the brace that closes, if that makes sense. -/
def use? (isQuoted : Bool) : Reading (Option Use) := do
  Reading.join
  let isShared := match (← get).rest with
    | ':' :: c :: _ => ['-', '+', '?', '='].contains c
    | c :: _ => ['-', '+', '?', '=', '%', '#'].contains c
    | [] => true
  if isShared then return some (← useOf (fun isQuoted => word (.braces isQuoted)) isQuoted)
  else furtherUse? word isQuoted

/-- The parameter between braces, of which the first is gone, in a shell that knows more uses. -/
def inBracesExtended (isQuoted : Bool) : Reading Piece := do
  Reading.join
  let start := (← get).rest
  let refused : Reading Piece := do
    let rest := (← get).rest
    let text := String.ofList (['$', '\x7b'] ++ start.take (start.length - rest.length))
    return .parameter (.named "") (.unknown text) isQuoted
  let passed : Reading Piece := do
    let _ ← word (.braces isQuoted)
    refused
  let isSpecial (c : Char) (rest : List Char) : Bool :=
    isNameChar c || (specialNames.contains c && rest.head? == some '\x7d')
  match start with
  | '#' :: c :: rest =>
    if isSpecial c rest then
      let _ ← Reading.takeRaw
      match ← subject? word with
      | some subject =>
        if ← Reading.takeIf '\x7d' then return .parameter subject .length isQuoted else passed
      | none => passed
    else
      let _ ← Reading.takeRaw
      match ← use? word isQuoted with
      | some use => return .parameter (.named "#") use isQuoted
      | none => refused
  | '!' :: c :: rest =>
    if !isSpecial c rest && c != '#' && c != '@' && c != '*' then
      let _ ← Reading.takeRaw
      match ← use? word isQuoted with
      | some use => return .parameter (.named "!") use isQuoted
      | none => refused
    else
      let _ ← Reading.takeRaw
      match ← subject? word with
      | none => passed
      | some subject =>
        match subject, (← get).rest with
        | .element _ [.plain '@'], '\x7d' :: _ | .element _ [.plain '*'], '\x7d' :: _ =>
          let _ ← Reading.takeRaw
          return .parameter subject .keys isQuoted
        | .named _, '@' :: '\x7d' :: _ | .named _, '*' :: '\x7d' :: _ =>
          let _ ← Reading.takeRaw
          let _ ← Reading.takeRaw
          return .parameter subject .names isQuoted
        | _, _ =>
          match ← use? word isQuoted with
          | some use => return .parameter (.through subject) use isQuoted
          | none => refused
  | _ =>
    match ← subject? word with
    | none => passed
    | some subject =>
      match ← use? word isQuoted with
      | some use => return .parameter subject use isQuoted
      | none => refused

/-- The patterns behind a sign, of whose brackets the first is gone. The number is at least that of the
characters. -/
def alternatives : Nat → Reading (List Word)
  | 0 => return []
  | n + 1 => do
    let first ← word .alternative
    if ← Reading.takeIf '|' then return first :: (← alternatives n)
    else
      let _ ← Reading.takeIf ')'
      return [first]

end

/-! ## Quotes with escapes -/

/-- The characters up to a single quote without a backslash. -/
def escapedQuote : Nat → Reading (List Char)
  | 0 => Reading.failAtEnd "Unterminated quoted string"
  | n + 1 => do
    match ← Reading.takeRaw with
    | none => Reading.failAtEnd "Unterminated quoted string"
    | some '\x27' => return []
    | some '\\' =>
      match ← Reading.takeRaw with
      | none => Reading.failAtEnd "Unterminated quoted string"
      | some d => return '\\' :: d :: (← escapedQuote n)
    | some c => return c :: (← escapedQuote n)

/-- The octets of the character of a number as this kind of shell spells them: those of ASCII as they
are. -/
def spelledCode (digits n : Nat) : List Char :=
  if n < 128 then [Char.ofNat n]
  else ['\\', if digits == 4 then 'u' else 'U'] ++ ((Nat.toDigits 16 n).map Char.toUpper).leftpad digits '0'

/-- The text of quotes in which a backslash stands for characters. The number is at least that of the
characters. -/
def unescaped : Nat → List Char → List Char
  | 0, _ | _, [] => []
  | n + 1, '\\' :: c :: cs =>
    let code (most : Nat) : List Char :=
      let digits := (cs.take most).takeWhile fun c => (Numeral.digitValue? c).any (· < 16)
      if digits.isEmpty then '\\' :: c :: unescaped n cs
      else
        spelledCode most (digits.foldl (fun n c => 16 * n + (Numeral.digitValue? c).getD 0) 0) ++
          unescaped n (cs.drop digits.length)
    match c with
    | 'E' => '\x1b' :: unescaped n cs
    | '\x27' | '\x22' | '?' => c :: unescaped n cs
    | 'c' =>
      match cs with
      | d :: rest => Char.ofNat (d.toUpper.toNat &&& 31) :: unescaped n rest
      | [] => ['\\', 'c']
    | 'x' =>
      match Escape.octetAt? 16 2 cs with
      | some (d, rest) => d :: unescaped n rest
      | none => '\\' :: c :: unescaped n cs
    | 'u' => code 4
    | 'U' => code 8
    | _ =>
      match Escape.simpleAt? (c :: cs) with
      | some (d, rest) => d :: unescaped n rest
      | none => '\\' :: c :: unescaped n cs
  | n + 1, c :: cs => c :: unescaped n cs

/-! ## Dollar signs -/

/-- What a reader of words needs: commands up to a closing bracket, commands up to the end of a text, and
the elements of a list up to its closing bracket. -/
structure Readers where
  commands : Reading Command
  script : Reading Command
  elements : Reading (List Word)

/-- The piece that a dollar sign begins, which is gone. -/
def afterDollar (r : Readers) (word : Place → Reading Word) (isQuoted : Bool) : Reading Piece := do
  let d ← Reading.dialect
  match ← Reading.peek with
  | some '(' =>
    let _ ← Reading.takeRaw
    if ← Reading.takeIf '(' then return .value (← Reading.upTo ")" (word (.expression 0))) isQuoted
    else return .output (← r.commands) isQuoted
  | some '\x7b' =>
    let _ ← Reading.takeRaw
    Reading.upTo "\x7d" <|
      if d == .plain then inBraces (fun isQuoted => word (.braces isQuoted)) isQuoted
      else inBracesExtended word isQuoted
  | some c =>
    if isNameStart c then
      let name ← Reading.takeWhile isNameChar (← Reading.bound)
      return .parameter (.named (String.ofList name)) .plain isQuoted
    else if c.isDigit || specialNames.contains c then
      let _ ← Reading.takeRaw
      return .parameter (.named c.toString) .plain isQuoted
    else if c == '[' && d == .extended then
      let _ ← Reading.takeRaw
      return .value (← Reading.upTo "]" (word (.key 0))) isQuoted
    else return if isQuoted then .quoted ['$'] else .plain '$'
  | none => return if isQuoted then .quoted ['$'] else .plain '$'

/-! ## Words -/

/-- The word is nothing but a list, of which each element is a field. -/
def isList (d : Dialect) : Word → Bool
  | [.parameter (.named "@") .plain _] => true
  | [.parameter _ .length _] => false
  | [.parameter (.named "@") _ _] | [.parameter (.element _ [.plain '@']) _ _] => d == .extended
  | _ => false

/-- What a double quote begins, which is gone. Nothing but a list is between quotes that make no field. -/
def quotedPieces (d : Dialect) (found : Word) : Word :=
  if isList d found then found else .quoted [] :: found

/-- What an open bracket among other words begins, if it belongs to the word. -/
inductive Bracket where
  /-- The elements of a list. -/
  | elements
  /-- The key of an element. -/
  | key
  /-- A path for commands. -/
  | channel (isOutput : Bool)
  /-- Patterns behind a sign. -/
  | patterns
  deriving DecidableEq, Repr

/-- What begins with the next characters of a word, of which one kind of shell alone knows. -/
def bracketAt? (s : Source) (place : Place) : Option Bracket :=
  if s.dialect == .plain then none
  else
    match s.rest with
    | '(' :: _ =>
      let name := s.tokenText.toList.reverse
      let isSetting := match name with
        | '=' :: '+' :: front | '=' :: front => isName (String.ofList front.reverse)
        | _ => false
      if place == .among && s.settable == .variable && isSetting then some .elements else none
    | '[' :: _ =>
      if place == .among && ((s.settable == .variable && isName s.tokenText) ||
          (s.settable == .element && s.tokenText.isEmpty)) then some .key else none
    | '<' :: '(' :: _ => if place == .among then some (.channel true) else none
    | '>' :: '(' :: _ => if place == .among then some (.channel false) else none
    | c :: '(' :: _ =>
      if s.hasPatterns && ['?', '*', '+', '@', '!'].contains c && !place.isQuoted &&
          (match place with
            | .form _ | .key _ => false
            | _ => true) then some .patterns else none
    | _ => none

/-- The pieces up to the end of a word. -/
def pieces (r : Readers) : Nat → Place → Reading Word
  | 0, _ => return []
  | n + 1, place => do
    let goOn (found : Word) (place : Place) : Reading Word := do
      return found ++ (← pieces r n place)
    match ← Reading.peek with
    | none =>
      match place.onEnd with
      | some fault => Reading.failAtEnd fault
      | none => return []
    | some c =>
      if let some bracket := bracketAt? (← get) place then
        let _ ← Reading.takeRaw
        match bracket with
        | .elements =>
          let words ← r.elements
          goOn [.elements (words.map Word.element)] place
        | .key =>
          let key ← Reading.upTo "]" (pieces r n (.key 0))
          goOn ([.plain '['] ++ key ++ [.plain ']']) place
        | .channel isOutput =>
          let _ ← Reading.takeRaw
          goOn [.channel (← r.commands) isOutput] place
        | .patterns =>
          let _ ← Reading.takeRaw
          let found ← Reading.upTo ")" (alternatives (pieces r n) (← Reading.bound))
          goOn [.patterns c found] place
      else if place.endsAt c then
        if place.takesEnd then let _ ← Reading.takeRaw
        return []
      else
        let _ ← Reading.takeRaw
        let d ← Reading.dialect
        let opensQuotes := match place with
          | .quotes | .braces true | .expression _ | .document => false
          | _ => true
        match c, place with
        | '\\', _ =>
          match ← Reading.takeRaw with
          | none => return [.quoted ['\\']]
          | some d =>
            noteQuote
            goOn [.quoted (if place.escapes d then [d] else ['\\', d])] place
        | '$', .mark | '\x60', .mark => goOn [.plain c] place
        | '$', _ =>
          match d, (← get).rest with
          | .extended, '\x27' :: _ =>
            if opensQuotes then
              noteQuote
              let _ ← Reading.takeRaw
              let found ← Reading.upTo "'" (do escapedQuote (← Reading.bound))
              goOn [.quoted (unescaped (found.length + 1) found)] place
            else goOn [.quoted ['$']] place
          | .extended, '\x22' :: _ =>
            goOn (if opensQuotes then [] else [.quoted ['$']]) place
          | _, _ =>
            let piece ← afterDollar r (pieces r n) place.isQuoted
            goOn [piece] place
        | '\x60', _ =>
          let line := (← get).line
          let text ← Reading.upTo "\x60" (do insideTicks place.isQuoted (← Reading.bound))
          let body ← match d with
            | .plain => Reading.inside text 1 r.script
            | .extended => pure (.text line (String.ofList text))
          goOn [.output body place.isQuoted] place
        | '(', .expression brackets => goOn [.quoted ['(']] (.expression (brackets + 1))
        | ')', .expression 0 =>
          if ← Reading.takeIf ')' then return [] else goOn [.quoted [')']] place
        | ')', .expression (brackets + 1) => goOn [.quoted [')']] (.expression brackets)
        | '[', .key brackets => goOn [.plain '['] (.key (brackets + 1))
        | ']', .key (brackets + 1) => goOn [.plain ']'] (.key brackets)
        | '(', .form brackets => goOn [.plain '('] (.form (brackets + 1))
        | ')', .form (brackets + 1) => goOn [.plain ')'] (.form brackets)
        | '\x22', .expression _ => goOn [] place
        | _, _ =>
          if c == '\x27' && opensQuotes then
            noteQuote
            let found ← Reading.upTo "'" (do
              Reading.takeUpTo '\x27' "Unterminated quoted string" (← Reading.bound))
            goOn [.quoted found] place
          else if c == '\x22' && opensQuotes then
            noteQuote
            let found ← Reading.upTo "\x22" (pieces r n .quotes)
            goOn (quotedPieces d found) place
          else if c == '\x22' && place == .braces true then
            let found ← pieces r n .quotes
            goOn found place
          else goOn [place.literal c] place

/-! ## Documents -/

/-- A line up to its end, and what follows it. A backslash at the end of a line in which something may be
put joins the next line to it. -/
def documentLine (isPlain : Bool) : Nat → List Char → List Char × List Char
  | 0, cs => (cs, [])
  | n + 1, cs =>
    let line := cs.takeWhile (· != '\n')
    let rest := cs.drop (line.length + 1)
    let slashes := (line.reverse.takeWhile (· == '\\')).length
    if !isPlain && slashes % 2 == 1 && !rest.isEmpty then
      let (others, rest) := documentLine isPlain n rest
      (line ++ '\n' :: others, rest)
    else (line, rest)

/-- The text of a document up to the line that is its mark, and what follows that line, if it is there. -/
def documentText (d : AwaitedDocument) : Nat → List Char → List Char × Option (List Char)
  | 0, cs => (cs, none)
  | n + 1, cs =>
    if cs.isEmpty then ([], none)
    else
      let (line, rest) := documentLine d.isPlain cs.length cs
      let line := if d.untabbed then line.dropWhile (· == '\t') else line
      if line == d.mark then ([], some rest)
      else
        let (others, rest) := documentText d n rest
        let ended := cs.length > line.length || rest.any fun rest => !rest.isEmpty
        (line ++ (if ended then ['\n'] else []) ++ others, rest)

/-- Reads the document that comes next in the script. -/
def readDocument (word : Reading Word) (d : AwaitedDocument) : Reading Unit := do
  let s ← get
  let (text, found) := documentText d (s.rest.length + 1) s.rest
  let rest := found.getD []
  let content ← if d.isPlain then pure [.quoted text] else Reading.inside text s.line word
  let lines := (s.rest.take (s.rest.length - rest.length)).count '\n'
  let warnings : List SyntaxFault := if found.isSome || s.dialect == .plain then []
    else
      [⟨s.line + lines - 1, ["warning: here-document at line " ++ Numeral.decimal d.line ++
        " delimited by end-of-file (wanted \x60" ++ String.ofList d.mark ++ "')"]⟩]
  modify fun s =>
    { s with
      rest
      line := s.line + lines
      lineStart := rest
      documents := (d.number, content) :: s.documents
      warnings := s.warnings ++ warnings }

end Quotation
end SysReg.Shell
