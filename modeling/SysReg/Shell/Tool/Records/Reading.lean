import SysReg.Shell.Tool.Records.Token

/-!
# Reading programs

A program is read word by word. A statement that makes no sense is complained of and passed over, so that
other faults behind it are found too.
-/

namespace SysReg.Shell.Records

/-- What a variable holds. -/
inductive Kind where
  | value
  | table
  deriving DecidableEq, Repr

/-- What a function is given, as far as the text of the program shows it. -/
inductive Given where
  | expression
  | shared (name : String)
  /-- A variable that a function has for itself. -/
  | own (function : String) (place : Nat)
  deriving DecidableEq, Repr

/-- A call of a function. -/
structure CallSite where
  function : String
  line : Nat
  arguments : List Given

/-- What part of a program is read. -/
inductive Part where
  | edge
  | rule
  | routine (name : String)
  deriving DecidableEq, Repr

/-- What is read so far. -/
structure ReadState where
  /-- The name by which the tool was called. -/
  called : String
  /-- What stands in front of a complaint. -/
  lead : String
  scanner : Scanner
  current : Token
  /-- The line of the word at work. -/
  line : Nat
  /-- The complaints, the last one first, and their number. -/
  complaints : List String
  faults : Nat
  /-- What the variables hold that all share. -/
  kinds : List (String × Kind)
  /-- What the variables of functions hold. -/
  ownKinds : List ((String × Nat) × Kind)
  parameters : List String
  functions : List String
  calls : List CallSite
  routines : List Routine
  part : Part
  loops : Nat

/-- Why reading stops. -/
inductive ReadStop where
  /-- The statement makes no sense. -/
  | misplaced
  /-- Nothing more is read. -/
  | over
  deriving DecidableEq, Repr

/-- A step of reading. -/
abbrev Reading : Type → Type := ExceptT ReadStop (StateM ReadState)

namespace Reading

/-- The variables that hold something from the start. -/
def firstKinds : List (String × Kind) :=
  (["NF", "NR", "FNR", "FS", "OFS", "ORS", "RS", "SUBSEP", "CONVFMT", "OFMT", "FILENAME", "RSTART", "RLENGTH",
    "ARGC"].map (·, Kind.value)) ++ [("ENVIRON", .table), ("ARGV", .table)]

/-- How many complaints there are at most. -/
def mostFaults : Nat := 5

/-- Puts lines into what is said. -/
def say (lines : List String) : Reading Unit := do
  modify fun s => { s with complaints := lines.reverse ++ s.complaints, faults := s.faults + 1 }
  if mostFaults ≤ (← get).faults then throw .over

/-- Complains of a line. -/
def complainAt (line : Nat) (text : String) : Reading Unit := do
  say [(← get).lead ++ "line " ++ Numeral.decimal line ++ ": " ++ text]

/-- Complains of the line at work. -/
def complain (text : String) : Reading Unit := do
  complainAt (← get).line text

/-- What a name is known for: a variable or a function. -/
def kindOf (s : ReadState) (name : String) : Option Bool :=
  if s.parameters.contains name then some false
  else if s.functions.contains name then some true
  else if (s.kinds.lookup name).isSome then some false
  else none

/-- Goes on to the next word. -/
def advance : Reading Unit := do
  let s ← get
  match s.scanner.next (kindOf s) (s.scanner.rest.length + 2) with
  | .ok f =>
    let functions := match f.token with
      | .called name => if s.functions.contains name then s.functions else name :: s.functions
      | _ => s.functions
    set { s with scanner := f.next, current := f.token, line := f.line, functions }
    f.complaints.forM (complainAt f.line)
  | .error text =>
    complainAt s.scanner.line text
    throw .over

/-- The word behind the one at work. -/
def following : Reading (Option Token) := do
  let s ← get
  match s.scanner.next (kindOf s) (s.scanner.rest.length + 2) with
  | .ok f => return some f.token
  | .error _ => return none

/-- The word at work makes no sense. -/
def misplaced {α : Type} : Reading α := do
  let s ← get
  match s.current with
  | .unknown c =>
    let shown := if ' ' < c && c < '\x7f' then "'" ++ c.toString ++ "'"
      else "0x" ++ String.ofList ((Nat.toDigits 16 c.toNat).leftpad 2 '0')
    say [s.called ++ ": " ++ Numeral.decimal s.line ++ ": unexpected character " ++ shown]
  | t =>
    if t.closesAll && 0 < s.scanner.parens then complain ("missing ) near " ++ t.shown)
    else if 0 < s.scanner.braces && (match t with | .ending => true | _ => false) then
      complain "missing \x7d near end of file"
    else complain ("syntax error at or near " ++ t.shown)
  throw .misplaced

/-- The word at work is a sign. -/
def isAt (sign : String) : Reading Bool := do
  return (← get).current.isSign sign

/-- Passes over a sign, which has to be there. -/
def expect (sign : String) : Reading Unit := do
  if ← isAt sign then advance else misplaced

/-- Passes over ends of lines. -/
def overLines : Reading Unit := do
  let s ← get
  match s.current with
  | .newline => advance
  | _ => return

/-! ## Variables -/

/-- The variable of a name. -/
def variableOf (name : String) : Reading Variable := do
  match (← get).parameters.idxOf? name with
  | some place => return .own place
  | none => return .shared name

/-- What a variable holds so far. -/
def kind? (v : Variable) : Reading (Option Kind) := do
  let s ← get
  match v, s.part with
  | .shared name, _ => return s.kinds.lookup name
  | .own place, .routine f => return s.ownKinds.lookup (f, place)
  | .own _, _ => return none

/-- Uses a variable as something that it may not be. -/
def use (name : String) (kind : Kind) : Reading Variable := do
  let v ← variableOf name
  match ← kind? v with
  | some found =>
    if found != kind then
      let word := match found with
        | .value => "variable "
        | .table => "array "
      complain ("illegal reference to " ++ (match v with | .own _ => "local " | .shared _ => "") ++ word ++ name)
  | none =>
    modify fun s => match v, s.part with
      | .shared name, _ => { s with kinds := (name, kind) :: s.kinds }
      | .own place, .routine f => { s with ownKinds := ((f, place), kind) :: s.ownKinds }
      | .own _, _ => s
  return v

/-- Passes over a name. -/
def name : Reading String := do
  match (← get).current with
  | .name name =>
    advance
    return name
  | _ => misplaced

/-- A table by its name. -/
def table : Reading Variable := do
  let found ← name
  use found .table

/-! ## Expressions -/

/-- The signs that give a value. -/
def assignment? : Token → Option (Option Operation)
  | .sign "=" => some none
  | .sign "+=" => some (some .plus)
  | .sign "-=" => some (some .minus)
  | .sign "*=" => some (some .times)
  | .sign "/=" => some (some .over)
  | .sign "%=" => some (some .rest)
  | .sign "^=" => some (some .power)
  | _ => none

/-- An expression may begin with the word, if it stands behind another one. -/
def beginsAnother : Token → Bool
  | .number _ _ | .text _ | .pattern _ | .name _ | .called _ | .primitive _ _ => true
  | .keyword text => ["getline", "match", "sub", "gsub", "split"].contains text
  | .sign text => ["(", "!", "$", "++", "--"].contains text
  | _ => false

/-- The signs that compare. -/
def relation? : Token → Option Relation
  | .sign "<" => some .less
  | .sign "<=" => some .atMost
  | .sign "==" => some .equal
  | .sign "!=" => some .unequal
  | .sign ">=" => some .atLeast
  | .sign ">" => some .greater
  | _ => none

/-- The pattern of a text, of which a fault is complained of. -/
def pattern (cs : List Char) : Reading Regex := do
  match Pattern.ofText cs with
  | .ok r => return r
  | .error fault =>
    let s ← get
    say [s.lead ++ "line " ++ Numeral.decimal s.line ++ ": regular expression compile failed (" ++ fault.text ++ ")",
      String.ofList cs]
    return .empty

/-- An operand that was read, and whether it can be given a value. -/
structure Operand where
  expr : Expr
  place : Option Place

/-- An operand that cannot be given a value. -/
def fixed (e : Expr) : Operand := ⟨e, none⟩

/-- An operand that can be given a value. -/
def settable (p : Place) : Operand := ⟨.get p, some p⟩

/-- A text that is written out and used as a pattern is one. -/
def checkPattern (e : Expr) : Reading Expr := do
  match e with
  | .text cs => return .matchesRecord (← pattern cs)
  | e => return e

mutual

/-- An expression. The numbers bound how deep it is nested. -/
def expr : Nat → Reading Expr
  | 0 => misplaced
  | n + 1 => do
    let condition ← binary n 2
    if ← isAt "?" then
      advance
      let yes ← expr n
      expect ":"
      let no ← expr n
      return .choose condition yes no
    else return condition

/-- An expression of operands between which signs stand that bind at least so much. -/
def binary : Nat → Nat → Reading Expr
  | 0, _ => misplaced
  | n + 1, level => do
    let first ← operand n
    chain n level first

/-- Goes on behind a first operand. -/
def chain : Nat → Nat → Expr → Reading Expr
  | 0, _, first => return first
  | n + 1, level, first => do
    match (← get).current with
    | .keyword "in" =>
      if level ≤ 4 then
        advance
        let v ← table
        chain n level (.contains v [first])
      else return first
    | .sign "||" =>
      if level ≤ 2 then
        advance
        let second ← binary n 3
        chain n level (.oneOf first second)
      else return first
    | .sign "&&" =>
      if level ≤ 3 then
        advance
        let second ← binary n 4
        chain n level (.both first second)
      else return first
    | t =>
      let matching := t.isSign "~" || t.isSign "!~"
      if matching && level ≤ 5 then
        advance
        let second ← checkPattern (← binary n 6)
        chain n level (.isMatch (t.isSign "!~") first second)
      else
        match relation? t with
        | some r =>
          if level ≤ 6 then
            advance
            let second ← binary n 7
            chain n level (.compare r first second)
          else return first
        | none => return first

/-- An operand: something that is given a value, or parts that are joined. -/
def operand : Nat → Reading Expr
  | 0 => misplaced
  | n + 1 => do
    match (← get).current with
    | .sign "-" | .sign "+" | .sign "!" => joined n (← sumFrom n (← productFrom n (← signed n)))
    | _ =>
      let first ← primary n
      match first.place, assignment? (← get).current with
      | some p, some o =>
        advance
        return .assign p o (← expr n)
      | _, _ =>
        let first ← pipedFrom n (← powerFrom n (← stepped first))
        joined n (← sumFrom n (← productFrom n first))

/-- Parts that are joined. -/
def joined : Nat → Expr → Reading Expr
  | 0, first => return first
  | n + 1, first => do
    if beginsAnother (← get).current then
      let second ← sumFrom n (← productFrom n (← signed n))
      joined n (.join first second)
    else return first

/-- A sum behind its first part. -/
def sumFrom : Nat → Expr → Reading Expr
  | 0, first => return first
  | n + 1, first => do
    match (← get).current with
    | .sign "+" =>
      advance
      sumFrom n (.combine .plus first (← productFrom n (← signed n)))
    | .sign "-" =>
      advance
      sumFrom n (.combine .minus first (← productFrom n (← signed n)))
    | _ => return first

/-- A product behind its first part. -/
def productFrom : Nat → Expr → Reading Expr
  | 0, first => return first
  | n + 1, first => do
    match (← get).current with
    | .sign "*" =>
      advance
      productFrom n (.combine .times first (← signed n))
    | .sign "/" =>
      advance
      productFrom n (.combine .over first (← signed n))
    | .sign "%" =>
      advance
      productFrom n (.combine .rest first (← signed n))
    | _ => return first

/-- An operand with signs in front of it. -/
def signed : Nat → Reading Expr
  | 0 => misplaced
  | n + 1 => do
    match (← get).current with
    | .sign "-" =>
      advance
      return .negative (← signed n)
    | .sign "+" =>
      advance
      return .numeric (← signed n)
    | .sign "!" =>
      advance
      return .not (← signed n)
    | _ => pipedFrom n (← powerFrom n (← stepped (← primary n)))

/-- Lines that are read of a command. -/
def pipedFrom : Nat → Expr → Reading Expr
  | 0, first => return first
  | n + 1, first => do
    if ← isAt "|" then
      advance
      if !(← get).current.isKeyword "getline" then misplaced
      advance
      pipedFrom n (.readLine .command first (← target n))
    else return first

/-- What a line is read into, if it is named. -/
def target : Nat → Reading (Option Place)
  | 0 => misplaced
  | n + 1 => do
    match (← get).current with
    | .name _ | .sign "$" => return (← primary n).place
    | _ => return none

/-- A power behind its base. -/
def powerFrom : Nat → Expr → Reading Expr
  | 0, first => return first
  | n + 1, first => do
    if ← isAt "^" then
      advance
      match (← get).current with
      | .sign "-" | .sign "+" | .sign "!" => return .combine .power first (← signed n)
      | _ => return .combine .power first (← powerFrom n (← stepped (← primary n)))
    else return first

/-- An operand to which one is added behind its value. -/
def stepped (o : Operand) : Reading Expr := do
  match o.place, (← get).current with
  | some p, .sign "++" =>
    advance
    return .step true true p
  | some p, .sign "--" =>
    advance
    return .step false true p
  | _, _ => return o.expr

/-- An operand without signs. -/
def primary : Nat → Reading Operand
  | 0 => misplaced
  | n + 1 => do
    match (← get).current with
    | .number x _ =>
      advance
      return fixed (.number x)
    | .text cs =>
      advance
      return fixed (.text cs)
    | .pattern cs =>
      let r ← pattern cs
      advance
      return fixed (.matchesRecord r)
    | .name _ => return settable (← reference n)
    | .called f => return fixed (← callOf n f)
    | .primitive p text => return fixed (← application n p text)
    | .sign "$" =>
      advance
      match (← get).current with
      | .name "NF" => return settable (.field (← stepped (← primary n)))
      | .name _ => return settable (.field (.get (← reference n)))
      | .sign "-" | .sign "+" | .sign "!" => return settable (.field (← signed n))
      | .sign "$" => return settable (.field (← stepped (← primary n)))
      | _ => return settable (.field (← primary n).expr)
    | .sign "++" =>
      advance
      return fixed (.step true false (← place n))
    | .sign "--" =>
      advance
      return fixed (.step false false (← place n))
    | .sign "(" =>
      advance
      let first ← expr n
      if ← isAt "," then
        let others ← more n
        expect ")"
        if !(← get).current.isKeyword "in" then misplaced
        advance
        return fixed (.contains (← table) (first :: others))
      else
        expect ")"
        match first with
        | .get (.field e) => return settable (.field e)
        | e => return fixed e
    | .keyword "getline" =>
      advance
      let into ← target n
      match (← get).current with
      | .inlet =>
        advance
        let source ← match (← get).current with
          | .sign "-" | .sign "+" | .sign "!" => signed n
          | _ => powerFrom n (← stepped (← primary n))
        return fixed (.readLine .file source into)
      | _ => return fixed (.readLine .records (.number 0.0) into)
    | .keyword "match" =>
      advance
      expect "("
      let e ← expr n
      expect ","
      let wanted ← checkPattern (← expr n)
      expect ")"
      return fixed (.find e wanted)
    | .keyword "split" =>
      advance
      expect "("
      let e ← expr n
      expect ","
      let v ← table
      let separator ← if ← isAt "," then do
          advance
          pure (some (← expr n))
        else pure none
      expect ")"
      return fixed (.split e v separator)
    | .keyword "sub" => return fixed (← replacement n false)
    | .keyword "gsub" => return fixed (← replacement n true)
    | _ => misplaced

/-- What can be given a value. -/
def place : Nat → Reading Place
  | 0 => misplaced
  | n + 1 => do
    match (← get).current with
    | .name _ | .sign "$" | .sign "(" =>
      match (← primary n).place with
      | some p => return p
      | none => misplaced
    | _ => misplaced

/-- A replacement. -/
def replacement : Nat → Bool → Reading Expr
  | 0, _ => misplaced
  | n + 1, all => do
    advance
    expect "("
    let wanted ← checkPattern (← expr n)
    expect ","
    let e ← expr n
    if ← isAt "," then
      advance
      let p ← place n
      expect ")"
      return .replace all wanted e p
    else
      expect ")"
      return .replace all wanted e (.field (.number 0.0))

/-- Expressions behind commas. -/
def more : Nat → Reading (List Expr)
  | 0 => return []
  | n + 1 => do
    if ← isAt "," then
      advance
      let e ← expr n
      return e :: (← more n)
    else return []

/-- A variable or an element of a table. -/
def reference : Nat → Reading Place
  | 0 => misplaced
  | n + 1 => do
    let found ← name
    if (← isAt "[") && found != "NF" then
      let v ← use found .table
      advance
      let first ← expr n
      let others ← more n
      expect "]"
      return .element v (first :: others)
    else return .variable (← use found .value)

/-- A call of a function. -/
def callOf : Nat → String → Reading Expr
  | 0, _ => misplaced
  | n + 1, f => do
    let line := (← get).line
    advance
    expect "("
    let found ← if ← isAt ")" then pure [] else passed n
    expect ")"
    modify fun s => { s with calls := ⟨f, line, found.map (·.2)⟩ :: s.calls }
    return .call f (found.map (·.1))

/-- What a function is given. A variable of which nothing is known may be a table. -/
def passed : Nat → Reading (List (Expr × Given))
  | 0 => misplaced
  | n + 1 => do
    let first ← match (← get).current, (← following) with
      | .name found, some after =>
        if after.isSign "," || after.isSign ")" then do
          advance
          let v ← variableOf found
          let given := match v, (← get).part with
            | .own place, .routine f => Given.own f place
            | _, _ => .shared found
          pure (Expr.get (.variable v), given)
        else do pure (← expr n, .expression)
      | _, _ => do pure (← expr n, .expression)
    if ← isAt "," then
      advance
      return first :: (← passed n)
    else return [first]

/-- The value of a function that every program has. -/
def application : Nat → Primitive → String → Reading Expr
  | 0, _, _ => misplaced
  | n + 1, p, text => do
    advance
    if p == .length && !(← isAt "(") then return .apply p []
    expect "("
    let sized ← match p, (← get).current, (← following) with
      | .length, .name found, some after =>
        if after.isSign ")" then do
          advance
          pure (some (← variableOf found))
        else pure none
      | _, _, _ => pure none
    match sized with
    | some v =>
      expect ")"
      return .size v
    | none =>
      let arguments ← if ← isAt ")" then pure [] else do
        let first ← expr n
        pure (first :: (← more n))
      expect ")"
      match primitives.lookup text with
      | some (_, least, most) =>
        if arguments.length < least || most < arguments.length then
          complain ("wrong number of arguments in call to " ++ text)
      | none => return .apply p arguments
      return .apply p arguments

end

/-! ## Statements -/

/-- An expression, which is not nested deeper than the text is long. -/
def wholeExpr : Reading Expr := do
  expr (20 * (← get).scanner.rest.length + 100)

/-- Passes over the end of a statement. -/
def separator : Reading Unit := do
  if (← get).current.isSeparator then advance else misplaced

/-- What is printed in parentheses, if that is all that is printed. -/
def printedGroup : Reading (Option (List Expr)) := do
  let before ← get
  let read : Reading (List Expr) := do
    advance
    if ← isAt ")" then
      advance
      return []
    let first ← wholeExpr
    let others ← more (before.scanner.rest.length * 20 + 100)
    expect ")"
    return first :: others
  let found ← tryCatch (some <$> read) fun _ => return none
  let isWhole := match (← get).current with
    | .outlet _ => true
    | t => t.isSeparator
  match found, isWhole with
  | some es, true =>
    if es.length == 1 then
      set before
      return none
    else return some es
  | _, _ =>
    set before
    return none

/-- What is printed, and where. -/
def printed : Reading (List Expr × Option (Outlet × Expr)) := do
  let s ← get
  let isBare := match s.current with
    | .outlet _ => true
    | t => t.isSeparator
  let es ← if isBare then pure [] else do
    let group ← if s.current.isSign "(" then printedGroup else pure none
    match group with
    | some es => pure es
    | none =>
      let first ← wholeExpr
      pure (first :: (← more (s.scanner.rest.length * 20 + 100)))
  match (← get).current with
  | .outlet o =>
    advance
    let place ← wholeExpr
    separator
    return (es, some (o, place))
  | _ =>
    separator
    return (es, none)

/-- An expression that perhaps is not there. -/
def optional (isOver : Token → Bool) : Reading (Option Expr) := do
  if isOver (← get).current then return none else return some (← wholeExpr)

/-- Reads inside of one more loop. -/
def inLoop {α : Type} (step : Reading α) : Reading α := do
  modify fun s => { s with loops := s.loops + 1 }
  let found ← tryCatch step fun stop => do
    modify fun s => { s with loops := s.loops - 1 }
    throw stop
  modify fun s => { s with loops := s.loops - 1 }
  return found

/-- A statement that stands where it may not. -/
def outOfPlace (isAllowed : Bool) (text : String) : Reading Unit := do
  if !isAllowed then complain text

/-- Passes over what makes no sense, up to the end of a statement, or of a block if that has just begun. -/
def recover (orBrace : Bool) : Nat → Reading Unit
  | 0 => throw .over
  | n + 1 => do
    let s ← get
    match s.current with
    | .ending => throw .over
    | t =>
      if t.isSeparator then
        set { s with scanner := { s.scanner with parens := 0, isPrinting := false, isReading := false } }
        advance
      else if orBrace && t.isSign "\x7d" then return
      else
        advance
        recover orBrace n

/-- A table that a loop goes over, if the loop is one. -/
def eachHead : Reading (Option (Variable × Variable)) := do
  let before ← get
  match before.current, (← following) with
  | .name v, some (.keyword "in") =>
    advance
    advance
    match (← get).current, (← following) with
    | .name t, some after =>
      if after.isSign ")" then
        advance
        advance
        let element ← use v .value
        return some (element, ← use t .table)
      else
        set before
        return none
    | _, _ =>
      set before
      return none
  | _, _ => return none

mutual

/-- A statement. What makes no sense is passed over. -/
def statement : Nat → (isFirst : Bool) → Reading Statement
  | 0, _ => throw .over
  | n + 1, isFirst =>
    tryCatch (plainStatement n) fun stop => do
      match stop with
      | .over => throw .over
      | .misplaced =>
        recover isFirst ((← get).scanner.rest.length + 2)
        return .empty

/-- A statement that makes sense. -/
def plainStatement : Nat → Reading Statement
  | 0 => throw .over
  | n + 1 => do
    let s ← get
    match s.current with
    | .sign "\x7b" => block n
    | .keyword "if" =>
      advance
      expect "("
      let c ← wholeExpr
      expect ")"
      overLines
      let yes ← statement n false
      if (← get).current.isKeyword "else" then
        advance
        return .branch c yes (← statement n false)
      else return .branch c yes .empty
    | .keyword "while" =>
      advance
      expect "("
      let c ← wholeExpr
      expect ")"
      overLines
      return .whileTrue c (← inLoop (statement n false))
    | .keyword "do" =>
      advance
      let body ← inLoop (statement n false)
      if !(← get).current.isKeyword "while" then misplaced
      advance
      expect "("
      let c ← wholeExpr
      expect ")"
      separator
      return .untilFalse body c
    | .keyword "for" =>
      advance
      expect "("
      match ← eachHead with
      | some (v, t) =>
        overLines
        return .forEach v t (← inLoop (statement n false))
      | none =>
        let first ← optional (·.isSign ";")
        expect ";"
        let condition ← optional (·.isSign ";")
        expect ";"
        let step ← optional (·.isSign ")")
        expect ")"
        overLines
        return .count first condition step (← inLoop (statement n false))
    | .keyword "print" =>
      advance
      let (es, sink) ← printed
      return .print es sink
    | .keyword "printf" =>
      let line := s.line
      advance
      let (es, sink) ← printed
      if es.isEmpty then complainAt line "no arguments in call to printf"
      return .printForm es sink
    | .keyword "delete" =>
      advance
      let v ← table
      if ← isAt "[" then
        advance
        let first ← wholeExpr
        let others ← more (20 * s.scanner.rest.length + 100)
        expect "]"
        separator
        return .delete v (first :: others)
      else
        separator
        return .clear v
    | .keyword "break" =>
      outOfPlace (0 < s.loops) "break statement outside of loop"
      advance
      separator
      return .break
    | .keyword "continue" =>
      outOfPlace (0 < s.loops) "continue statement outside of loop"
      advance
      separator
      return .continue
    | .keyword "next" =>
      outOfPlace (s.part != .edge) "improper use of next"
      advance
      separator
      return .next
    | .keyword "nextfile" =>
      outOfPlace (s.part != .edge) "improper use of nextfile"
      advance
      separator
      return .nextFile
    | .keyword "exit" =>
      advance
      let e ← optional Token.isSeparator
      separator
      return .exit e
    | .keyword "return" =>
      outOfPlace (match s.part with | .routine _ => true | _ => false) "return outside function body"
      advance
      let e ← optional Token.isSeparator
      separator
      return .return e
    | t =>
      if t.isSeparator then
        advance
        return .empty
      else
        let e ← wholeExpr
        separator
        return .value e

/-- A block of statements. -/
def block : Nat → Reading Statement
  | 0 => throw .over
  | n + 1 => do
    expect "\x7b"
    let ss ← statements n true
    expect "\x7d"
    return .block ss

/-- Statements up to a closing brace. -/
def statements : Nat → (isFirst : Bool) → Reading (List Statement)
  | 0, _ => throw .over
  | n + 1, isFirst => do
    if !isFirst && (← isAt "\x7d") then return []
    let first ← statement n isFirst
    if ← isAt "\x7d" then return [first]
    return first :: (← statements n false)

end

/-- A block, which is not nested deeper than the text is long. -/
def wholeBlock (part : Part) : Reading Statement := do
  modify fun s => { s with part, loops := 0 }
  let found ← block (4 * (← get).scanner.rest.length + 100)
  modify fun s => { s with part := .rule, parameters := [] }
  return found

/-! ## Rules and functions -/

/-- The names of what a function is given. -/
def parameters (f : String) : Nat → List String → Reading (List String)
  | 0, found => return found
  | n + 1, found => do
    if let .called g := (← get).current then
      if g == f then complain "function parameter cannot be the function"
    let parameter ← name
    if parameter == f then complain "function parameter cannot be the function"
    if found.contains parameter then complain (parameter ++ " is duplicated in argument list")
    let found := found ++ [parameter]
    if ← isAt "," then
      advance
      parameters f n found
    else return found

/-- A function. -/
def routine : Reading Unit := do
  advance
  let f ← match (← get).current with
    | .name f | .called f =>
      let s ← get
      if (s.kinds.lookup f).isSome then complain ("illegal reference to variable " ++ f)
      if s.routines.any (·.name == f) then complain ("redefinition of " ++ f)
      set { (← get) with functions := if s.functions.contains f then s.functions else f :: s.functions }
      advance
      pure f
    | _ => misplaced
  expect "("
  let found ← if ← isAt ")" then pure [] else parameters f ((← get).scanner.rest.length + 1) []
  modify fun s => { s with parameters := found }
  expect ")"
  overLines
  let body ← wholeBlock (.routine f)
  modify fun s => { s with routines := s.routines ++ [⟨f, found.length, body⟩] }

/-- What is done by a rule: a block, or nothing said. -/
def ruleBody : Reading (Option Statement) := do
  if ← isAt "\x7b" then return some (← wholeBlock .rule)
  else
    separator
    return none

/-- A rule, if it is none but a function. -/
def rule : Reading (List Rule) := do
  match (← get).current with
  | .keyword "BEGIN" =>
    advance
    return [⟨.atStart, some (← wholeBlock .edge)⟩]
  | .keyword "END" =>
    advance
    return [⟨.atEnd, some (← wholeBlock .edge)⟩]
  | .keyword "function" =>
    routine
    return []
  | .sign "\x7b" => return [⟨.always, some (← wholeBlock .rule)⟩]
  | _ =>
    let first ← wholeExpr
    if ← isAt "," then
      advance
      let last ← wholeExpr
      return [⟨.between first last, ← ruleBody⟩]
    else return [⟨.when first, ← ruleBody⟩]

/-- Passes over what makes no sense up to a block, which is read. -/
def recoverRule : Nat → Reading Unit
  | 0 => throw .over
  | n + 1 => do
    match (← get).current with
    | .ending => throw .over
    | .sign "\x7b" =>
      modify fun s => { s with parameters := [] }
      discard (wholeBlock .rule)
    | _ =>
      advance
      recoverRule n

/-- The rules up to the end of the text. -/
def rules : Nat → Reading (List Rule)
  | 0 => throw .over
  | n + 1 => do
    match (← get).current with
    | .ending => return []
    | _ =>
      let found ← tryCatch rule fun stop => do
        match stop with
        | .over => throw .over
        | .misplaced =>
          recoverRule ((← get).scanner.rest.length + 2)
          return []
      return found ++ (← rules n)

/-! ## What calls agree with -/

/-- What is known of something that a function is given. -/
def givenKind (s : ReadState) : Given → Option Kind
  | .expression => some .value
  | .shared name => s.kinds.lookup name
  | .own f place => s.ownKinds.lookup (f, place)

/-- Learns from the calls what variables hold, once; what functions are given says more than what they use. -/
def learn (isFirst : Bool) (s : ReadState) : ReadState :=
  s.calls.reverse.foldl (fun s site =>
    site.arguments.zipIdx.foldl (fun s (given, place) =>
      let wanted := s.ownKinds.lookup (site.function, place)
      match givenKind s given, wanted with
      | some kind, none => { s with ownKinds := ((site.function, place), kind) :: s.ownKinds }
      | none, some kind =>
        if isFirst then s else match given with
        | .shared name => { s with kinds := (name, kind) :: s.kinds }
        | .own f place => { s with ownKinds := ((f, place), kind) :: s.ownKinds }
        | .expression => s
      | _, _ => s) s) s

/-- What a kind is called in a message. -/
def kindText : Kind → String
  | .value => "local variable"
  | .table => "local array"

/-- Complains of the calls that give functions what they cannot use. -/
def checkCalls : Reading Unit := do
  modify fun s =>
    let times := List.range (s.calls.length + 1)
    times.foldl (fun s _ => learn false s) (times.foldl (fun s _ => learn true s) s)
  let s ← get
  let line := s.scanner.line
  let names := (s.calls.map (·.function)).filter fun f => !s.routines.any (·.name == f)
  names.eraseDups.forM fun f => complainAt line ("function " ++ f ++ " never defined")
  s.calls.reverse.forM fun site =>
    match s.routines.find? (·.name == site.function) with
    | none => return
    | some r => do
      if r.parameters < site.arguments.length then
        complainAt site.line ("too many arguments in call to " ++ site.function)
      else
        site.arguments.zipIdx.forM fun (given, place) =>
          match givenKind s given, s.ownKinds.lookup (site.function, place) with
          | some actual, some wanted =>
            if actual != wanted then
              complainAt site.line ("type error in arg(" ++ Numeral.decimal (place + 1) ++ ") in call to " ++
                site.function ++ " (actual " ++ kindText actual ++ " vs " ++ kindText wanted ++ ")")
            else return
          | _, _ => return

/-- The whole program. -/
def whole : Reading Program := do
  modify fun s => { s with scanner := s.scanner.overLines }
  advance
  let found ← rules ((← get).scanner.rest.length + 2)
  if 0 < (← get).faults then throw .over
  checkCalls
  if 0 < (← get).faults then throw .over
  return ⟨found, (← get).routines⟩

end Reading

/-- The program of a text, or what is wrong with it, given how the tool was called and what stands in front of
a complaint. -/
def Program.ofText (called lead : String) (cs : List Char) : Except (List String) Program :=
  let start : ReadState :=
    { called, lead, scanner := Scanner.ofText cs, current := .newline, line := 1, complaints := [], faults := 0
      kinds := Reading.firstKinds, ownKinds := [], parameters := [], functions := [], calls := [], routines := []
      part := .rule, loops := 0 }
  match Reading.whole.run.run start with
  | (.ok p, _) => .ok p
  | (.error _, s) => .error s.complaints.reverse

end SysReg.Shell.Records
