import SysReg.Shell.Quotation

/-!
# The grammar of scripts

Reading tokens and commands. A command may hold others, so the readers here are given the reader of
lists of commands, and `Grammar.list` ties the knot; its number bounds how deep commands are nested.

One line of commands is read at a time. All that stands in front of a fault is thus carried out, but
nothing of the line with the fault.
-/

namespace SysReg.Shell

/-- Which kind of list of commands is read. -/
inductive ListKind where
  /-- Up to the end of the line. -/
  | line
  /-- At least one command. -/
  | body
  /-- Perhaps no command. -/
  | arm
  deriving DecidableEq, Repr

/-- What the next token may be taken for. -/
structure Expectation where
  /-- Newlines are passed over. -/
  skipsNewlines : Bool
  keywords : Bool
  aliases : Bool
  /-- A word may set a variable, even behind the name of a command. -/
  declares : Bool
  deriving DecidableEq, Repr

/-- The commands behind whose names words may set variables. -/
def declaringCommands : List String :=
  ["declare", "export", "local", "readonly", "typeset"]

/-- The commands whose faults end a script. -/
def specialCommands : List String :=
  [".", ":", "break", "continue", "eval", "exec", "exit", "export", "local", "readonly", "return",
    "set", "shift", "times", "trap", "unset"]

namespace Grammar

/-- A reader of lists of commands. -/
abbrev ListReader : Type := ListKind → Reading Command

/-- Nothing special is expected. -/
def anything : Expectation := ⟨false, false, false, false⟩

/-- A command may begin. -/
def beginning : Expectation := ⟨false, true, true, false⟩

/-- A command may begin, on a later line. -/
def laterBeginning : Expectation := ⟨true, true, true, false⟩

/-- A reserved word may stand on a later line. -/
def laterKeyword : Expectation := ⟨true, true, false, false⟩

/-! ## Tokens -/

/-- Puts a token back. -/
def hold (t : Token) : Reading Unit :=
  modify fun s => { s with held := some t }

/-- Refuses a token. -/
def unexpected {α : Type} (t : Token) (expected : Option Token) : Reading α := do
  let s ← get
  match s.dialect, t with
  | .plain, _ =>
    Reading.fail (t.text ++ " unexpected" ++
      ((expected.map fun e => " (expecting " ++ e.text ++ ")").getD ""))
  | .extended, .ended => throw ⟨s.lastLine, []⟩
  | .extended, _ =>
    let (line, text) := match t with
      | .newline => (s.line - 1, "newline")
      | _ => (s.line, s.tokenText)
    throw ⟨line, ["syntax error near unexpected token \x60" ++ text ++ "'", ← Reading.quotedLine]⟩

variable (lists : ListReader)

/-- The commands up to a closing bracket. -/
def bracketed (token : Expectation → Reading Token) (documents : Reading Unit) : Reading Command :=
  tryCatch
    (Reading.apart do
      let found ← lists .arm
      match ← token anything with
      | .closing =>
        documents
        return found
      | t => unexpected t (some .closing))
    fun fault =>
      throw (if fault.texts.isEmpty then { fault with texts := [Reading.unmatched ")"] } else fault)

/-- The commands up to the end of a text. -/
def whole (token : Expectation → Reading Token) : Reading Command := do
  let found ← lists .arm
  match ← token anything with
  | .ended => return found
  | t => unexpected t none

/-- The token of an operator whose first character is gone. -/
def operator? (c : Char) : Reading (Option Token) := do
  let isExtended := (← Reading.dialect) == .extended
  match c with
  | '\n' => return some .newline
  | '&' => return some (if ← Reading.takeIf '&' then .both else .ampersand)
  | '|' =>
    if ← Reading.takeIf '|' then return some .either
    else if isExtended then return some (if ← Reading.takeIf '&' then .barForBoth else .bar)
    else return some .bar
  | ';' =>
    if ← Reading.takeIf ';' then
      if isExtended then return some (.endOfArm (if ← Reading.takeIf '&' then .onward else .over))
      else return some (.endOfArm .over)
    else if isExtended then
      return some (if ← Reading.takeIf '&' then .endOfArm .intoNext else .semicolon)
    else return some .semicolon
  | '(' => return some .opening
  | ')' => return some .closing
  | _ => return none

/-- The redirection whose first character is gone, for a descriptor if one was given. -/
def redirection (c : Char) (descriptor : Option Nat) : Reading Token := do
  if c == '>' then
    let d := descriptor.getD 1
    if ← Reading.takeIf '>' then return .redirection d .append
    else if ← Reading.takeIf '|' then return .redirection d .overwrite
    else if ← Reading.takeIf '&' then return .redirection d .sameOutput
    else return .redirection d .write
  else
    let d := descriptor.getD 0
    if ← Reading.takeIf '<' then
      if (← Reading.dialect) == .extended && (← Reading.peek) == some '<' then
        let _ ← Reading.takeRaw
        return .line d
      else return .document d (← Reading.takeIf '-')
    else if ← Reading.takeIf '&' then return .redirection d .sameInput
    else if ← Reading.takeIf '>' then return .redirection d .readAndWrite
    else return .redirection d .read

/-- The token that begins with an ampersand and is for what is printed and for errors. -/
def bothOutputs? : Reading (Option Token) := do
  match (← get).dialect, (← get).rest with
  | .extended, '&' :: '>' :: rest =>
    let _ ← Reading.takeRaw
    let _ ← Reading.takeRaw
    if rest.head? == some '>' then
      let _ ← Reading.takeRaw
      return some (.redirection 1 .appendBoth)
    else return some (.redirection 1 .writeBoth)
  | _, _ => return none

/-- The descriptor that a word is in front of a redirection. -/
def descriptorOf? (d : Dialect) (word : Word) : Option Nat :=
  match d, word with
  | .plain, [.plain c] => if c.isDigit then some (c.toNat - 48) else none
  | .plain, _ => none
  | .extended, _ => ((Word.bare? word).filter fun text => text.all Char.isDigit).bind String.toNat?

/-- The next token of the text, of which words are read by a reader. The number is at least that of the
characters. -/
def scan (word : Reading Word) : Nat → Reading Token
  | 0 => return .ended
  | n + 1 => do
    match ← Reading.peek with
    | none => return .ended
    | some c =>
      if c == ' ' || c == '\t' then
        let _ ← Reading.takeRaw
        scan word n
      else if c == '#' then
        modify fun s => { s with rest := s.rest.dropWhile (· != '\n') }
        scan word n
      else
        modify fun s => { s with tokenStart := s.rest, tokenLine := s.lineStart }
        let start ← get
        let isChannel := start.dialect == .extended && (c == '<' || c == '>') &&
          (start.rest.drop 1).head? == some '('
        if let some t ← bothOutputs? then return t
        else if (c == '<' || c == '>') && !isChannel then
          let _ ← Reading.takeRaw
          redirection c none
        else if ['\n', '&', '|', ';', '(', ')'].contains c then
          let _ ← Reading.takeRaw
          return (← operator? c).getD .newline
        else
          modify fun s => { s with quoteSeen := false }
          let found ← word
          modify fun s => { s with tokenStart := start.tokenStart, tokenLine := start.tokenLine }
          let isQuoted := (← get).quoteSeen
          match descriptorOf? start.dialect found, ← Reading.peek with
          | some d, some e =>
            if e == '<' || e == '>' then
              let _ ← Reading.takeRaw
              redirection e (some d)
            else return .word found isQuoted
          | _, _ => return .word found isQuoted

/-- The text that a name stands for, unless that text is being read. -/
def aliasOf? (name : String) : Reading (Option String) := do
  let s ← get
  let left := s.rest.length
  if s.inUse.any fun use => use.1 == name && use.2 < left then return none
  else return s.aliases.lookup name

/-- The next token, as what it is expected to be. The number bounds how often a name stands for another
text. -/
def tokenFrom (word : Reading Word) (documents : Reading Unit) :
    Nat → Expectation → Reading Token
  | 0, _ => return .ended
  | n + 1, e => do
    let s ← get
    let t ← match s.held with
      | some t =>
        set { s with held := none }
        pure t
      | none =>
        set { s with
          settable := if e.keywords || e.aliases || e.declares then .variable else .nothing }
        scan word (← Reading.bound)
    match t with
    | .newline =>
      if e.skipsNewlines then
        documents
        tokenFrom word documents n e
      else return t
    | .word found false =>
      match Word.bare? found with
      | none => return t
      | some text =>
        if e.keywords && (Token.keywords s.dialect).contains text then return .keyword text
        let after ← get
        let behindBlank := after.blankEnd.any fun left => after.rest.length < left
        if behindBlank then set { after with blankEnd := none }
        if !e.aliases && !behindBlank then return t
        match ← aliasOf? text with
        | none => return t
        | some value =>
          modify fun s =>
            { s with
              rest := value.toList ++ s.rest
              inUse := (text, s.rest.length) :: s.inUse
              blankEnd := if value.endsWith " " || value.endsWith "\t" then some s.rest.length
                else s.blankEnd }
          tokenFrom word documents n e
    | _ => return t

/-- The words of a list up to its closing bracket. The number is at least that of the characters. -/
def elements (word : Reading Word) : Nat → Reading (List Word)
  | 0 => return []
  | n + 1 => do
    modify fun s => { s with settable := .element }
    match ← scan word (← Reading.bound) with
    | .newline => elements word n
    | .closing => return []
    | .word found _ => return found :: (← elements word n)
    | .ended => throw ⟨(← get).line, []⟩
    | t => unexpected t none

mutual

/-- The words of a script. The number bounds how deep they are nested. -/
def wordAt : Nat → Place → Reading Word
  | 0, _ => Reading.fail "nested too deep"
  | n + 1, place => do
    let token := tokenFrom (wordAt n .among) (awaitedDocuments n)
    let list : Reading (List Word) := do
      let s ← get
      let found ← Reading.upTo ")" (do elements (wordAt n .among) (← Reading.bound))
      modify fun after =>
        { after with tokenStart := s.tokenStart, tokenLine := s.tokenLine, settable := s.settable }
      return found
    Quotation.pieces
      ⟨bracketed lists (token 1000) (awaitedDocuments n), whole lists (token 1000), list⟩
      (← Reading.bound) place

/-- Reads the documents that come after a line. -/
def awaitedDocuments : Nat → Reading Unit
  | 0 => return
  | n + 1 => do
    let s ← get
    set { s with awaited := [] }
    s.awaited.forM (Quotation.readDocument (wordAt n .document))

end

/-- How deep words are nested at most. -/
def wordDepth : Nat := 100

/-- Reads the documents that come after the line. -/
def documents : Reading Unit :=
  awaitedDocuments lists wordDepth

/-- The next token. -/
def token (e : Expectation) : Reading Token :=
  tokenFrom (wordAt lists wordDepth .among) (documents lists) 1000 e

/-- Passes over a token, which has to be there. -/
def expect (e : Expectation) (asked : Token) : Reading Unit := do
  let t ← token lists e
  let isThere := match asked, t with
    | .keyword w, .keyword v => w == v
    | .closing, .closing => true
    | _, _ => false
  if isThere then return else unexpected t (some asked)

/-! ## Redirections -/

/-- The mark that a word is, in which nothing is quoted any more. -/
def markOf (w : Word) : List Char :=
  w.flatMap fun piece =>
    match piece with
    | .plain c => [c]
    | .quoted cs => cs
    | _ => []

/-- The redirection that a token begins, if it begins one. -/
def redirectionFrom? (t : Token) : Reading (Option Redirection) := do
  match t with
  | .redirection descriptor direction =>
    match ← token lists anything with
    | .word target _ => return some (.directed descriptor direction target (← get).tokenText)
    | t => unexpected t none
  | .line descriptor =>
    match ← token lists anything with
    | .word w _ => return some (.line descriptor w)
    | t => unexpected t none
  | .document descriptor untabbed =>
    modify fun s => { s with quoteSeen := false }
    match ← tokenFrom (wordAt lists wordDepth .mark) (documents lists) 1 anything with
    | .word mark isPlain => do
      let s ← get
      let number := s.nextDocument
      set { s with
        nextDocument := number + 1
        awaited := s.awaited ++ [AwaitedDocument.mk number s.line (markOf mark) untabbed isPlain] }
      return some (.document descriptor number)
    | t => unexpected t none
  | _ => return none

/-- The redirections behind a command. The number is at least that of the characters. -/
def redirections : Nat → Reading (List Redirection)
  | 0 => return []
  | n + 1 => do
    let t ← token lists beginning
    match ← redirectionFrom? lists t with
    | some found => return found :: (← redirections n)
    | none =>
      hold t
      return []

/-! ## Commands -/

/-- The parts of a simple command. -/
structure SimpleParts where
  settings : List Setting
  words : List Word
  redirections : List Redirection

namespace SimpleParts

/-- How many parts there are. -/
def count (parts : SimpleParts) : Nat :=
  parts.settings.length + parts.words.length + parts.redirections.length

/-- The words behind the first may set variables as those in front of it may. -/
def declares (parts : SimpleParts) : Bool :=
  (parts.words.head?.bind Word.bare?).any declaringCommands.contains

end SimpleParts

/-- The body of a function whose name and opening bracket are gone. -/
def functionBody (command compound : Expectation → Reading Command) (name : Word) :
    Reading Command := do
  match ← token lists anything with
  | .closing =>
    match ← Reading.dialect, Word.bare? name with
    | .plain, some text =>
      if isName text && !specialCommands.contains text then
        return .define text (← command laterBeginning)
      else Reading.fail "Bad function name"
    | .plain, none => Reading.fail "Bad function name"
    | .extended, some text => return .define text (← compound laterBeginning)
    | .extended, none => throw ⟨(← get).line, ["\x60" ++ (← get).tokenText ++ "': not a valid identifier"]⟩
  | t => unexpected t (some .closing)

/-- A simple command that goes on behind some parts. In one kind of shell its line is that of its second
token. The number is at least that of the characters. -/
def simple (command compound : Expectation → Reading Command) :
    Nat → (line : Nat) → SimpleParts → Reading Command
  | 0, _, _ => return .nothing
  | n + 1, line, parts => do
    let d ← Reading.dialect
    let t ← token lists ⟨false, false, parts.words.isEmpty, d == .extended && parts.declares⟩
    let line ← match d, t with
      | .plain, _ | .extended, .newline | .extended, .ended => pure line
      | .extended, _ => if parts.count == 1 then pure (← get).line else pure line
    match t with
    | .word w _ =>
      match parts.words, Word.setting? d w with
      | [], some setting =>
        simple command compound n line { parts with settings := parts.settings ++ [setting] }
      | _, _ => simple command compound n line { parts with words := parts.words ++ [w] }
    | .opening =>
      match parts with
      | ⟨[], [name], []⟩ => functionBody lists command compound name
      | _ =>
        hold t
        return .simple line parts.settings parts.words parts.redirections
    | _ =>
      match ← redirectionFrom? lists t with
      | some found =>
        simple command compound n line { parts with redirections := parts.redirections ++ [found] }
      | none =>
        hold t
        return .simple line parts.settings parts.words parts.redirections

/-- What follows `if` or `elif`. The number is at least that of the characters. -/
def branches : Nat → Reading Command
  | 0 => return .nothing
  | n + 1 => do
    let condition ← lists .body
    expect lists anything (.keyword "then")
    let yes ← lists .body
    match ← token lists anything with
    | .keyword "elif" => return .branch condition yes (← branches n)
    | .keyword "else" =>
      let no ← lists .body
      expect lists anything (.keyword "fi")
      return .branch condition yes no
    | .keyword "fi" => return .branch condition yes .nothing
    | t => unexpected t (some (.keyword "fi"))

/-- The words up to the end of a command, and the token behind them. The number is at least that of the
characters. -/
def words : Nat → Reading (List Word × Token)
  | 0 => return ([], .ended)
  | n + 1 => do
    match ← token lists anything with
    | .word w _ =>
      let (others, t) ← words n
      return (w :: others, t)
    | t => return ([], t)

/-- The body of a loop. One kind of shell takes braces as well. -/
def loopBody : Reading Command := do
  match ← Reading.dialect, ← token lists laterBeginning with
  | .extended, .keyword "\x7b" =>
    let body ← lists .body
    expect lists anything (.keyword "\x7d")
    return body
  | _, .keyword "do" =>
    let body ← lists .body
    expect lists anything (.keyword "done")
    return body
  | _, t => unexpected t (some (.keyword "do"))

/-- What follows `for`, if that is a name. -/
def eachOf (line : Nat) : Reading Command := do
  let d ← Reading.dialect
  let name ← match ← token lists anything, d with
    | .word w false, .plain => pure ((Word.bare? w).filter isName)
    | .word _ _, .extended => pure (some (← get).tokenText)
    | t, .extended => unexpected t none
    | _, .plain => pure none
  match name with
  | none => Reading.fail "Bad for loop variable"
  | some name =>
    let all : List Word := [[.parameter (.named "@") .plain true]]
    let values ← match ← token lists laterBeginning with
      | .keyword "in" => do
        let (values, t) ← words lists (← Reading.bound)
        match t with
        | .newline | .semicolon => pure values
        | t => unexpected t none
      | .semicolon => pure all
      | t => do
        hold t
        pure all
    return .each line name values (← loopBody lists)

/-- The brackets behind an open one close together with it. -/
def closesTwice : Nat → List Char → Bool
  | _, [] => false
  | n, '(' :: cs => closesTwice (n + 1) cs
  | 0, ')' :: cs => cs.head? == some ')'
  | n + 1, ')' :: cs => closesTwice n cs
  | n, _ :: cs => closesTwice n cs

/-- The expression between two brackets and two others, of which the first is gone, if it stands there. -/
def calculation? : Reading (Option Word) := do
  let s ← get
  match s.dialect, s.held, s.rest with
  | .extended, none, '(' :: rest =>
    if closesTwice 0 rest then
      let _ ← Reading.takeRaw
      return some (← Reading.upTo ")" (wordAt lists wordDepth (.expression 0)))
    else return none
  | _, _, _ => return none

/-- What follows `for`, if that is an expression in three parts. -/
def counted (line : Nat) (expression : Word) : Reading Command := do
  match expression.splitOnP (Quotation.isPieceOf ';') with
  | [start, condition, next] =>
    let t ← token lists laterBeginning
    match t with
    | .semicolon => pure ()
    | _ => hold t
    return .counted line start condition next (← loopBody lists)
  | _ =>
    throw ⟨(← get).line, ["syntax error: arithmetic expression required",
      "syntax error: \x60(" ++ (← get).tokenText ++ "'"]⟩

/-- The patterns of an arm, of which a token is the first, and the token behind them. The number is at
least that of the characters. -/
def patterns : Nat → Token → Reading (List Word × Token)
  | 0, t => return ([], t)
  | n + 1, t => do
    let pattern : Word := match t with
      | .word w _ => w
      | .keyword text => text.toList.map .plain
      | _ => []
    match ← token lists anything with
    | .bar =>
      let (others, t) ← patterns n (← token lists anything)
      return (pattern :: others, t)
    | t => return ([pattern], t)

/-- The arms of a choice. The number is at least that of the characters. -/
def arms : Nat → Reading (List (List Word × Command × ArmEnd))
  | 0 => return []
  | n + 1 => do
    let t ← token lists laterKeyword
    if t.isKeyword "esac" then return []
    let t ← match t with
      | .opening => token lists anything
      | t => pure t
    match ← Reading.dialect, t with
    | .plain, _ | _, .word _ _ | _, .keyword _ => pure ()
    | .extended, t => unexpected t none
    let (found, t) ← patterns lists (← Reading.bound) t
    match t with
    | .closing =>
      let body ← lists .arm
      match ← token lists laterKeyword with
      | .keyword "esac" => return [(found, body, .over)]
      | .endOfArm ending => return (found, body, ending) :: (← arms n)
      | t => unexpected t (some (.endOfArm .over))
    | t => unexpected t (some .closing)

/-- What follows `case`. -/
def choice (line : Nat) : Reading Command := do
  match ← token lists anything with
  | .word subject _ =>
    expect lists laterBeginning (.keyword "in")
    return .choose line subject (← arms lists (← Reading.bound))
  | t => unexpected t (some (.word [] false))

/-! ## Conditions between double brackets -/

/-- Refuses a condition at the last token. -/
def refuseCondition {α : Type} (t : Token) (texts : List String) : Reading α := do
  let s ← get
  match t with
  | .ended => throw ⟨s.lastLine, texts ++ ["syntax error: unexpected end of file"]⟩
  | _ =>
    let (line, near) := match t with
      | .newline => (s.line - 1, "newline")
      | _ => (s.line, s.tokenText)
    throw ⟨line, texts ++ ["syntax error near \x60" ++ near ++ "'", ← Reading.quotedLine]⟩

/-- The operators of one operand. -/
def oneOperators : List String :=
  ["-a", "-b", "-c", "-d", "-e", "-f", "-g", "-h", "-k", "-n", "-o", "-p", "-r", "-s", "-t", "-u", "-v", "-w",
    "-x", "-z", "-G", "-L", "-N", "-O", "-R", "-S"]

/-- The operators of two operands. -/
def twoOperators : List String :=
  ["=", "==", "!=", "=~", "-eq", "-ne", "-ge", "-gt", "-le", "-lt", "-nt", "-ot", "-ef"]

/-- The regular expression that comes next, which may begin with a bracket. -/
def formToken : Reading Token := do
  let s ← get
  let rest := s.rest.dropWhile fun c => c == ' ' || c == '\t'
  if s.held.isNone && rest.head? == some '(' then
    set { s with rest, tokenStart := rest, tokenLine := s.lineStart, quoteSeen := false }
    let found ← wordAt lists wordDepth (.form 0)
    modify fun after => { after with tokenStart := rest, tokenLine := s.lineStart }
    return .word found (← get).quoteSeen
  else tokenFrom (wordAt lists wordDepth (.form 0)) (documents lists) 1 anything

/-- The second operand of an operator. -/
def secondOperand (operator : String) : Reading Word := do
  modify fun s => { s with hasPatterns := true }
  let before ← get
  let t ← if operator == "=~" then formToken lists
    else tokenFrom (wordAt lists wordDepth .among) (documents lists) 1 anything
  modify fun s => { s with hasPatterns := before.hasPatterns }
  match t with
  | .word w _ =>
    if Word.bare? w == some "]]" then
      refuseCondition t ["unexpected argument \x60]]' to conditional binary operator"]
    else return w
  | _ =>
    refuseCondition t ["unexpected argument \x60" ++ (← get).tokenText ++ "' to conditional binary operator"]

/-- A condition of one operator, of which a word is the first. -/
def conditionOf (first : Word) (isQuoted : Bool) : Reading Judgement := do
  let text := if isQuoted then none else Word.bare? first
  match text.filter oneOperators.contains with
  | some operator =>
    match ← token lists anything with
    | .word w _ =>
      if Word.bare? w == some "]]" then
        refuseCondition (.word w false) ["unexpected argument \x60]]' to conditional unary operator"]
      else return .one operator w
    | t =>
      refuseCondition t ["unexpected argument \x60" ++ (← get).tokenText ++ "' to conditional unary operator"]
  | none =>
    let t ← token lists anything
    match t with
    | .word w false =>
      match Word.bare? w with
      | some "]]" =>
        hold t
        return .one "-n" first
      | some operator =>
        if twoOperators.contains operator then return .two first operator (← secondOperand lists operator)
        else refuseCondition t ["conditional binary operator expected"]
      | none => refuseCondition t ["conditional binary operator expected"]
    | .word _ true => refuseCondition t ["conditional binary operator expected"]
    | .redirection 0 .read => return .two first "<" (← secondOperand lists "<")
    | .redirection 1 .write => return .two first ">" (← secondOperand lists ">")
    | .both | .either | .closing =>
      hold t
      return .one "-n" first
    | _ =>
      let found := (← get).tokenText
      let found := if found == "\n" then "newline" else found
      refuseCondition t ["unexpected token \x60" ++ found ++ "', conditional binary operator expected"]

/-- The conditions between brackets, of which one or all have to hold. The number bounds how deep they are
nested. -/
def judgement : Nat → Reading Judgement
  | 0 => Reading.fail "nested too deep"
  | n + 1 => do
    let first ← conjunction n
    let t ← token lists anything
    match t with
    | .either => return .either first (← judgement n)
    | t =>
      hold t
      return first
where
  /-- Conditions that all have to hold. -/
  conjunction : Nat → Reading Judgement
    | 0 => Reading.fail "nested too deep"
    | n + 1 => do
      let first ← term n
      match ← token lists anything with
      | .both => return .both first (← conjunction n)
      | t =>
        hold t
        return first
  /-- A condition on its own. -/
  term : Nat → Reading Judgement
    | 0 => Reading.fail "nested too deep"
    | n + 1 => do
      let t ← token lists ⟨true, false, false, false⟩
      match t with
      | .opening =>
        let body ← judgement n
        match ← token lists ⟨true, false, false, false⟩ with
        | .closing => return body
        | t => refuseCondition t ["unexpected token \x60" ++ (← get).tokenText ++ "', expected \x60)'"]
      | .word w isQuoted =>
        match isQuoted, Word.bare? w with
        | false, some "!" => return .negated (← term n)
        | false, some "]]" => refuseCondition t []
        | _, _ => conditionOf lists w isQuoted
      | t => refuseCondition t []

/-- What follows two open brackets. -/
def judged (line : Nat) : Reading Command := do
  let found ← judgement lists (← Reading.bound)
  let t ← token lists ⟨true, false, false, false⟩
  match t with
  | .word w false =>
    if Word.bare? w == some "]]" then return .judged line found
    else refuseCondition t ["syntax error in conditional expression"]
  | t => refuseCondition t ["syntax error in conditional expression"]

/-! ## Compound commands -/

/-- The function that follows its reserved word. -/
def namedFunction (compound : Expectation → Reading Command) : Reading Command := do
  match ← token lists anything with
  | .word name _ =>
    let text := (Word.bare? name).getD (← get).tokenText
    let t ← token lists beginning
    match t with
    | .opening =>
      match ← token lists anything with
      | .closing => return .define text (← compound laterBeginning)
      | t => unexpected t none
    | t =>
      hold t
      return .define text (← compound laterBeginning)
  | t => unexpected t none

/-- A command that a reserved word or a bracket begins. -/
def compound? (compound : Expectation → Reading Command) (line : Nat) (t : Token) :
    Reading (Option Command) := do
  match t with
  | .keyword "if" => return some (← branches lists (← Reading.bound))
  | .keyword "while" | .keyword "until" =>
    let condition ← lists .body
    expect lists anything (.keyword "do")
    let body ← lists .body
    expect lists anything (.keyword "done")
    return some (.loop (t.isKeyword "while") condition body)
  | .keyword "for" =>
    let isExpression := (← get).dialect == .extended &&
      ((← get).rest.dropWhile fun c => c == ' ' || c == '\t').take 2 == ['(', '(']
    if isExpression then
      let start ← get
      let _ ← token lists anything
      match ← calculation? lists with
      | some expression =>
        modify fun s => { s with
          tokenStart := (start.rest.dropWhile fun c => c == ' ' || c == '\t').drop 1 }
        return some (← counted lists line expression)
      | none => unexpected .opening none
    else return some (← eachOf lists line)
  | .keyword "case" => return some (← choice lists line)
  | .keyword "[[" => return some (← judged lists line)
  | .keyword "function" => return some (← namedFunction lists compound)
  | .opening =>
    match ← calculation? lists with
    | some expression => return some (.calculation line expression)
    | none =>
      let body ← lists .body
      expect lists anything .closing
      return some (.apart line body [])
  | .keyword "\x7b" =>
    let body ← lists .body
    expect lists anything (.keyword "\x7d")
    return some body
  | _ => return none

/-- One command with its redirections, which may have to be more than words. The number bounds how
functions are nested. -/
def command : Nat → (isCompound : Bool) → Expectation → Reading Command
  | 0, _, _ => return .nothing
  | n + 1, isCompound, e => do
    let t ← token lists e
    let line := (← get).line
    match ← compound? lists (command n true) line t with
    | some (.define name body) => return .define name body
    | some body =>
      match body, ← redirections lists (← Reading.bound) with
      | _, [] => return body
      | .apart line body _, found => return .apart line body found
      | _, found => return .redirected line body found
    | none =>
      match t, isCompound with
      | .word _ _, false | .redirection _ _, false | .document _ _, false | .line _, false =>
        hold t
        simple lists (command n false) (command n true) (← Reading.bound) line ⟨[], [], []⟩
      | t, _ => unexpected t none

/-- A command that begins as expected. -/
def commandAt (e : Expectation) : Reading Command :=
  command lists 100 false e

/-- The command with its errors among what it prints. -/
def withErrors (c : Command) : Command :=
  let errors : Redirection := .directed 2 .sameOutput [.plain '1'] "1"
  match c with
  | .simple line settings words redirections => .simple line settings words (redirections ++ [errors])
  | .redirected line body redirections => .redirected line body (redirections ++ [errors])
  | .apart line body redirections => .apart line body (redirections ++ [errors])
  | c => .redirected 0 c [errors]

/-- A command and those behind bars after it. The number is at least that of the characters. -/
def piped : Nat → Command → Reading (List Command)
  | 0, first => return [first]
  | n + 1, first => do
    match ← token lists anything with
    | .bar => return first :: (← piped n (← commandAt lists laterBeginning))
    | .barForBoth => return withErrors first :: (← piped n (← commandAt lists laterBeginning))
    | t =>
      hold t
      return [first]

/-- Commands joined by bars, which may be negated or have their time taken. The number is at least that of
the characters. -/
def pipeline : Nat → Expectation → Reading Command
  | 0, _ => return .nothing
  | n + 1, e => do
    let t ← token lists e
    match ← Reading.dialect, t with
    | .extended, .keyword "time" =>
      let option ← token lists beginning
      let isShort ← match option with
        | .word [.plain '-', .plain 'p'] _ => pure true
        | _ => do
          hold option
          pure false
      let t ← token lists beginning
      hold t
      match t with
      | .newline | .semicolon | .ampersand | .ended => return .timed isShort .nothing
      | _ => return .timed isShort (← pipeline n beginning)
    | .extended, .keyword "!" => return .negated (← pipeline n beginning)
    | _, _ =>
      let negated := t.isKeyword "!"
      if !negated then hold t
      let first ← commandAt lists (if negated then beginning else anything)
      let body := match ← piped lists (← Reading.bound) first with
        | [only] => only
        | parts => .pipe parts
      return if negated then .negated body else body

/-- What follows commands joined by `&&` and `||`, which bind to the left. The number is at least that of
the characters. -/
def links : Nat → Command → Reading Command
  | 0, first => return first
  | n + 1, first => do
    match ← token lists anything with
    | .both => links n (.guarded true first (← pipeline lists (← Reading.bound) laterBeginning))
    | .either => links n (.guarded false first (← pipeline lists (← Reading.bound) laterBeginning))
    | t =>
      hold t
      return first

/-- Commands in a row behind some. The number is at least that of the characters. -/
def row (kind : ListKind) : Nat → (mayEnd : Bool) → Command → Reading Command
  | 0, _, found => return found
  | n + 1, mayEnd, found => do
    let t ← token lists ⟨kind != .line, true, true, false⟩
    match t with
    | .newline =>
      documents lists
      return found
    | .ended =>
      documents lists
      hold .ended
      return found
    | _ =>
      hold t
      if mayEnd && t.endsList then return found
      let c ← links lists (← Reading.bound) (← pipeline lists (← Reading.bound) anything)
      let mayEnd := kind != .line
      match ← token lists anything with
      | .ampersand => row kind n mayEnd (found.followedBy (.background c))
      | .semicolon => row kind n mayEnd (found.followedBy c)
      | .newline =>
        hold .newline
        row kind n mayEnd (found.followedBy c)
      | .ended =>
        documents lists
        hold .ended
        return found.followedBy c
      | t =>
        if kind == .line then unexpected t none
        else
          hold t
          return found.followedBy c

/-- A list of commands. The number bounds how deep commands are nested. -/
def list : Nat → ListReader
  | 0, _ => Reading.fail "nested too deep"
  | n + 1, kind => do row (list n) kind (← Reading.bound) (kind == .arm) .nothing

/-- How deep commands are nested at most. -/
def depth : Nat := 200

/-- The next line of commands, or `none` if nothing is left. -/
def line? : Reading (Option Command) := do
  if (← get).rest.isEmpty then return none
  let found ← tryCatch (list depth .line) fun fault =>
    throw (if fault.texts.isEmpty then { fault with texts := ["syntax error: unexpected end of file"] }
      else fault)
  modify fun s => { s with held := none }
  return some found

end Grammar

/-- The next line of commands of a script, and the script behind it. -/
def Source.next (s : Source) : Except SyntaxFault (Option Command × Source) :=
  Grammar.line?.run s

end SysReg.Shell
