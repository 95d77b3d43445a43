import SysReg.Shell.Process

/-!
# Calculations

The elements of lists, and expressions that may change variables and elements while they are worked out.
What a variable holds is an expression itself. One kind of shell has simpler expressions, which
`SysReg.Shell.Arithmetic` explains.
-/

namespace SysReg.Shell

/-- What an element is found by. -/
inductive Key where
  | number (n : Nat)
  | name (name : String)
  deriving DecidableEq, Repr

namespace Content

/-- The elements, with the texts that they are found by. -/
def entries : Content → List (String × String)
  | text value => [("0", value)]
  | list elements => elements.map fun (n, value) => (Numeral.decimal n, value)
  | table elements => ordered elements
where
  /-- Where the entries of a name are kept. -/
  bucket (name : String) : Nat :=
    name.toList.foldl (fun n c => Nat.xor (n * 16777619 % 0x100000000) c.toNat) 2166136261 % 1024
  /-- The elements in the order in which they are kept. -/
  ordered (elements : List (String × String)) : List (String × String) :=
    elements.mergeSort fun a b => bucket a.1 ≤ bucket b.1

/-- The element of a key. -/
def element? (content : Content) (key : Key) : Option String :=
  match content, key with
  | text value, .number 0 => some value
  | list elements, .number n => elements.lookup n
  | table elements, .name name => elements.lookup name
  | _, _ => none

/-- An element is put in its place. -/
def withElement (content : Option Content) (key : Key) (value : String) : Content :=
  match content, key with
  | some (table elements), .name name =>
    if elements.any (·.1 == name) then
      table (elements.map fun e => if e.1 == name then (name, value) else e)
    else table ((name, value) :: elements)
  | none, .name name => table [(name, value)]
  | some (list elements), .number n => list (Run.withElement elements n value)
  | some (text first), .number n => list (Run.withElement [(0, first)] n value)
  | none, .number n => list [(n, value)]
  | some content, _ => content

/-- An element is taken away. -/
def withoutElement (content : Content) (key : Key) : Content :=
  match content, key with
  | list elements, .number n => list (elements.filter (·.1 != n))
  | table elements, .name name => table (elements.filter (·.1 != name))
  | content, _ => content

/-- The number behind that of the last element. -/
def size : Content → Nat
  | text _ => 1
  | list elements => ((elements.getLast?).map (·.1 + 1)).getD 0
  | table _ => 0

/-- The elements are found by names. -/
def isTable : Content → Bool
  | table _ => true
  | _ => false

end Content

/-! ## Elements -/

namespace Run

section

-- The value of an expression.
variable (evaluate : String → Run Int)

/-- The key that a text stands for, unless it is a number in front of the first element. -/
def keyOf? (name text : String) : Run (Option Key) := do
  let content := (← get).content? name
  if content.any Content.isTable then return some (.name text)
  else
    let n ← evaluate text
    let n := if n < 0 then n + (content.map Content.size).getD 0 else n
    return if n < 0 then none else some (.number n.toNat)

/-- The key that a text stands for where an element is set. -/
def keyOf (name text : String) : Run Key := do
  match ← keyOf? evaluate name text with
  | some key => return key
  | none => fail (.stated (name ++ "[" ++ text ++ "]: bad array subscript"))

/-- The value of a variable or of an element. -/
def lookUp (name : String) (key : Option String) : Run (Option String) := do
  match key with
  | none => return (← get).parameter? name
  | some text =>
    match ← keyOf? evaluate name text with
    | some key => return ((← get).content? name).bind (·.element? key)
    | none =>
      report (.stated (name ++ ": bad array subscript"))
      return none

/-- Gives a variable or an element a value. -/
def store (name : String) (key : Option String) (value : String) : Run Unit := do
  match key with
  | none => setVariable name value
  | some text =>
    let p ← get
    let name := p.meant name
    if (p.variableOf? name).any (·.isReadOnly) then fail (.readOnly name)
    let key ← keyOf evaluate name text
    let before := ((← get).variableOf? name).getD .empty
    setContent name (.withElement before.content key (recased before.letters value))

end

end Run

/-! ## Expressions -/

namespace Calculation

/-- What the next part of an expression is. -/
inductive Mark where
  | ended
  | number
  | name
  | sign (text : String)
  deriving DecidableEq, Repr

/-- An expression that is being worked out. -/
structure Work where
  whole : List Char
  rest : List Char
  /-- What was left at the last part. -/
  latest : List Char
  mark : Mark
  before : Mark
  /-- The variable or element that was named last. -/
  place : Option (String × Option String)
  /-- The value of the last name or number. -/
  value : Int
  /-- The operator that changes what is set. -/
  change : String
  /-- What is read has no effect. -/
  isIdle : Bool

/-- A step of working an expression out. -/
abbrev Step : Type → Type := StateT Work Run

/-- A blank of an expression. -/
def isBlank (c : Char) : Bool :=
  c == ' ' || c == '\t' || c == '\n' || c == '\r'

/-- Refuses an expression at what was left of it. -/
def refuseAt {α : Type} (token : List Char) (text : String) : Step α := do
  let w ← get
  Run.fail (.stated (String.ofList (w.whole.dropWhile isBlank) ++ ": " ++ text ++
    " (error token is \x22" ++ String.ofList token ++ "\x22)"))

/-- Refuses an expression at its last part. -/
def refuse {α : Type} (text : String) : Step α := do
  refuseAt (← get).latest text

/-- The value of a digit in a base. -/
def digitOf (base : Nat) (c : Char) : Nat :=
  if c.isDigit then c.toNat - 48
  else if c.isLower then c.toNat - 97 + 10
  else if c.isUpper then c.toNat - 65 + (if base ≤ 36 then 10 else 36)
  else if c == '@' then 62 else 63

/-- The number that digits spell, or what is wrong with them. -/
def numberOf (cs : List Char) : Except String Int := do
  let digits (base : Nat) (cs : List Char) : Except String Int := do
    if cs.any fun c => c == '#' then throw "invalid number"
    if cs.any fun c => base ≤ digitOf base c then throw "value too great for base"
    return Arithmetic.wrapped (cs.foldl (fun n c => n * base + digitOf base c) 0 : Nat)
  match cs with
  | ['0'] => return 0
  | '0' :: x :: rest =>
    if x == 'x' || x == 'X' then
      if rest.isEmpty then throw "invalid number" else digits 16 rest
    else digits 8 (x :: rest)
  | _ =>
    let front := cs.takeWhile (· != '#')
    match cs.drop front.length with
    | [] => digits 10 cs
    | _ :: rest =>
      let base := (← digits 10 front)
      if base < 2 || 64 < base then throw "invalid arithmetic base"
      if rest.isEmpty then throw "invalid integer constant"
      digits base.toNat rest

/-- The key up to the bracket that closes it, and what follows. -/
def keyAt? : Nat → List Char → Option (List Char × List Char)
  | _, [] => none
  | 0, ']' :: rest => some ([], rest)
  | n, c :: rest =>
    (keyAt? (if c == '[' then n + 1 else if c == ']' then n - 1 else n) rest).map
      fun (key, rest) => (c :: key, rest)

/-- The characters of operators. -/
def signs : List Char :=
  ['=', '>', '<', '+', '-', '*', '/', '%', '!', '(', ')', '&', '|', '^', '~', '?', ':', ',']

/-- The operator at the start of a text, which sets what stands in front of it if there is a second one, and
what follows it. -/
def signAt (mark : Mark) (cs : List Char) : Except String (String × Option String × List Char) :=
  let plain (n : Nat) : Except String (String × Option String × List Char) :=
    .ok (String.ofList (cs.take n), none, cs.drop n)
  match cs with
  | '=' :: '=' :: _ | '!' :: '=' :: _ | '>' :: '=' :: _ | '<' :: '=' :: _ => plain 2
  | '<' :: '<' :: '=' :: rest => .ok ("set", some "<<", rest)
  | '>' :: '>' :: '=' :: rest => .ok ("set", some ">>", rest)
  | '<' :: '<' :: _ | '>' :: '>' :: _ | '&' :: '&' :: _ | '|' :: '|' :: _ | '*' :: '*' :: _ => plain 2
  | c :: d :: rest =>
    if (c == '+' || c == '-') && c == d then
      match mark with
      | .name => .ok (String.ofList ['x', c, c], none, rest)
      | .number => .error (String.ofList [c, c] ++ ": assignment requires lvalue")
      | _ =>
        if (rest.dropWhile isBlank).head?.any isNameStart then .ok (String.ofList [c, c, 'x'], none, rest)
        else plain 1
    else if d == '=' && ['*', '/', '%', '+', '-', '&', '^', '|'].contains c then
      .ok ("set", some c.toString, rest)
    else single mark c (d :: rest)
  | [c] => single mark c []
  | [] => plain 0
where
  /-- The operator that one character is. -/
  single (mark : Mark) (c : Char) (rest : List Char) : Except String (String × Option String × List Char) :=
    if signs.contains c then .ok (c.toString, none, rest)
    else
      match mark with
      | .name | .number => .error "syntax error: invalid arithmetic operator"
      | _ => .error "syntax error: operand expected"

section

-- The value of an expression that is another's variable.
variable (self : String → Run Int)

/-- The value of a variable or element. -/
def look (place : String × Option String) : Step Int := do
  let p ← get
  if p.isIdle then return 0
  let value ← Run.lookUp self place.1 place.2
  match value with
  | none =>
    if (← getThe Process).has 'u' then
      Run.failForGood (.absent place.1 .unset)
    else return 0
  | some text => if text.toList.all isBlank then return 0 else self text

/-- Sets a variable or element. -/
def put (place : Option (String × Option String)) (value : Int) : Step Unit := do
  match place, (← get).isIdle with
  | some (name, key), false => Run.store self name key (Numeral.signedDecimal value)
  | _, _ => return

/-- Goes on to the next part. -/
def advance : Step Unit := do
  let w ← get
  let cs := w.rest.dropWhile isBlank
  match cs with
  | [] => set { w with rest := [], before := w.mark, mark := .ended }
  | c :: _ =>
    set { w with rest := cs, latest := cs }
    if isNameStart c then
      let name := cs.takeWhile isNameChar
      let behind := cs.drop name.length
      let (key, rest) ← match behind with
        | '[' :: inner =>
          match keyAt? 0 inner with
          | some (key, rest) => pure (some (String.ofList key), rest)
          | none => refuse "bad array subscript"
        | _ => pure (none, behind)
      let place := (String.ofList name, key)
      let isSet := match rest.dropWhile isBlank with
        | '=' :: '=' :: _ => false
        | '=' :: _ => true
        | _ => false
      let isStep := w.mark == .sign "++x" || w.mark == .sign "--x"
      let value ← if isSet && !isStep then pure 0 else look self place
      modify fun w => { w with rest, place := some place, value, before := w.mark, mark := .name }
    else if c.isDigit then
      let digits := cs.takeWhile fun c => c.isAlphanum || c == '#' || c == '@' || c == '_'
      match numberOf digits with
      | .ok value =>
        modify fun w => { w with rest := cs.drop digits.length, value, before := w.mark, mark := .number }
      | .error text => refuseAt digits text
    else
      match signAt w.mark cs with
      | .error text => refuse text
      | .ok (sign, change, rest) =>
        modify fun w =>
          { w with rest, change := change.getD w.change, before := w.mark, mark := .sign sign }

/-- Carries a step out that has no effect if that is asked for. -/
def idle {α : Type} (isIdle : Bool) (step : Step α) : Step α := do
  let before := (← get).isIdle
  modify fun w => { w with isIdle := before || isIdle }
  let found ← step
  modify fun w => { w with isIdle := before }
  return found

/-- The sign that is next. -/
def sign? : Step (Option String) := do
  return match (← get).mark with
    | .sign text => some text
    | _ => none

/-- A number, a variable, or an expression in brackets. -/
def primary (whole : Step Int) : Step Int := do
  let w ← get
  match w.mark with
  | .sign "(" =>
    advance self
    let value ← whole
    if (← sign?) != some ")" then refuse "missing \x60)'"
    advance self
    return value
  | .number =>
    advance self
    return w.value
  | .name =>
    advance self
    match ← sign? with
    | some sign =>
      if sign == "x++" || sign == "x--" then
        put self w.place (Arithmetic.wrapped (w.value + (if sign == "x++" then 1 else -1)))
        modify fun w => { w with mark := .number }
        advance self
    | none => pure ()
    -- What was named last is what an equals sign sets.
    modify fun after =>
      if after.before == .name then { after with place := w.place } else after
    return w.value
  | .sign "++x" | .sign "--x" =>
    advance self
    let named ← get
    let value := Arithmetic.wrapped (named.value + (if w.mark == .sign "++x" then 1 else -1))
    put self named.place value
    modify fun w => { w with mark := .number }
    advance self
    return value
  | _ => refuse "syntax error: operand expected"

/-- What stands behind signs. -/
def signed (whole : Step Int) : Nat → Step Int
  | 0 => refuse "syntax error: operand expected"
  | n + 1 => do
    let change (f : Int → Int) : Step Int := do
      advance self
      return f (← signed whole n)
    match (← get).mark with
    | .sign "!" => change fun x => Arithmetic.flag (x == 0)
    | .sign "~" => change fun x => -x - 1
    | .sign "-" => change fun x => Arithmetic.wrapped (-x)
    | .sign "+" => change id
    | _ => primary self whole

/-- A power, which is worked out from the right. -/
def power (operand : Step Int) : Nat → Step Int
  | 0 => refuse "syntax error: operand expected"
  | n + 1 => do
    let base ← operand
    if (← sign?) == some "**" then
      advance self
      let exponent ← power operand n
      if exponent < 0 then refuse "exponent less than 0"
      return Arithmetic.wrapped ((BitVec.ofInt 64 base) ^ exponent.toNat).toInt
    else return base

/-- The operators of two sides, those that bind loosely first. -/
def levels : List (List String) :=
  [["|"], ["^"], ["&"], ["==", "!="], ["<", ">", "<=", ">="], ["<<", ">>"], ["+", "-"], ["*", "/", "%"]]

/-- What follows the left side of an operator of a level. The number is at least that of the
characters. -/
def chain (operators : List String) (operand : Step Int) : Nat → Int → Step Int
  | 0, left => return left
  | n + 1, left => do
    match (← sign?).filter operators.contains with
    | none => return left
    | some operator =>
      let behind := (← get).rest.dropWhile isBlank
      advance self
      let right ← operand
      let isIdle := (← get).isIdle
      if right == 0 && (operator == "/" || operator == "%") then
        if isIdle then chain operators operand n left else refuseAt behind "division by 0"
      else
        match Arithmetic.combine operator left right with
        | .ok value => chain operators operand n value
        | .error text => refuseAt behind text

/-- The operators of some levels. -/
def level (tight : Step Int) (bound : Nat) : List (List String) → Step Int
  | [] => tight
  | operators :: rest => do
    chain self operators (level tight bound rest) bound (← level tight bound rest)

/-- What follows the left side of `&&` or `||`, of which the left side may decide. The number is at least
that of the characters. -/
def decided (operator : String) (decides : Int → Bool) (combine : Bool → Bool → Bool)
    (operand : Step Int) : Nat → Int → Step Int
  | 0, left => return left
  | n + 1, left => do
    if (← sign?) != some operator then return left
    let right ← idle (decides left) do
      advance self
      operand
    decided operator decides combine operand n (Arithmetic.flag (combine (left != 0) (right != 0)))

/-- A choice between two values. -/
def choice (whole sides : Step Int) : Nat → Step Int
  | 0 => refuse "expression expected"
  | n + 1 => do
    let asked ← sides
    if (← sign?) != some "?" then return asked
    let yes ← idle (asked == 0) do
      advance self
      if (← get).mark == .ended then refuse "expression expected"
      whole
    if (← sign?) != some ":" then refuse "\x60:' expected for conditional expression"
    let no ← idle (asked != 0) do
      advance self
      if (← get).mark == .ended then refuse "expression expected"
      choice whole sides n
    modify fun w => { w with before := .sign "?" }
    return if asked != 0 then yes else no

/-- An expression that may set a variable, of which there may be several in a row. The number bounds how
deep it is nested. -/
def whole : Nat → (isRow : Bool) → Step Int
  | 0, _ => refuse "expression recursion level exceeded"
  | n + 1, isRow => do
    let tight := power self (signed self (whole n true) (n + 1)) (n + 1)
    let sides := do
      let conjunction := do
        let operand := level self tight (n + 1) levels
        decided self "&&" (· == 0) (· && ·) operand (n + 1) (← operand)
      decided self "||" (· != 0) (· || ·) conjunction (n + 1) (← conjunction)
    let left ← choice self (whole n true) sides (n + 1)
    let value ← match ← sign? with
      | some sign =>
        if sign != "=" && sign != "set" then pure left
        else
          let w ← get
          if w.before != .name then refuse "attempted assignment to non-variable"
          advance self
          let right ← whole n false
          let value ← if sign == "=" then pure right
            else if right == 0 && (w.change == "/" || w.change == "%") then
              if w.isIdle then pure 0 else refuse "division by 0"
            else
              match Arithmetic.combine w.change left right with
              | .ok value => pure value
              | .error text => refuse text
          put self w.place value
          pure value
      | none => pure left
    if isRow && (← sign?) == some "," then
      advance self
      whole n true
    else return value

end

/-- The value of an expression. The number bounds how often a variable is an expression. -/
def valueOf : Nat → String → Run Int
  | 0, text => Run.fail (.stated (text ++ ": expression recursion level exceeded (error token is \x22" ++
      text ++ "\x22)"))
  | n + 1, text => do
    let cs := text.toList
    if cs.all isBlank then return 0
    let step : Step Int := do
      advance (valueOf n)
      let value ← whole (valueOf n) (cs.length + 2) true
      if (← get).mark != .ended then refuse "syntax error in expression"
      return value
    return (← step.run ⟨cs, cs, cs, .ended, .ended, none, 0, "", false⟩).1

/-- How often a variable is an expression at most. -/
def depth : Nat := 1024

end Calculation

namespace Run

/-- The value of a variable in an expression of the simpler kind. -/
def integer (p : Process) (name : String) : Except String Int :=
  Arithmetic.ofValue ((p.parameter? name).getD "")

/-- The value of an expression, whose settings are made. -/
def evaluate (expression : String) : Run Int := do
  match (← get).dialect with
  | .extended => Calculation.valueOf Calculation.depth expression
  | .plain =>
    match Arithmetic.evaluate (integer (← get)) expression with
    | .ok (value, settings) =>
      settings.reverse.forM fun (name, value) => setVariable name (Numeral.signedDecimal value)
      return value
    | .error text => fail (.stated text)

/-- Gives a variable or an element a value, or adds to the one that it has. What is to be a number is
worked out first. -/
def assign (name : String) (key : Option String) (isAdded : Bool) (value : String) : Run Unit := do
  let p ← get
  let name := p.meant name
  let isInteger := ((p.variableOf? name).map (·.isInteger)).getD false
  let before ← if isAdded then lookUp evaluate name key else pure none
  let value ← if isInteger then do
      let n ← evaluate value
      let m ← if isAdded then evaluate (before.getD "") else pure 0
      pure (Numeral.signedDecimal (Arithmetic.wrapped (m + n)))
    else pure (before.getD "" ++ value)
  store evaluate name key value

/-- Lets a variable be a list of elements, some of which have keys, or adds them to it. -/
def assignList (name : String) (isAdded : Bool) (elements : List (Option String × String)) : Run Unit := do
  let name := (← get).meant name
  let v := ((← get).variableOf? name).getD .empty
  if v.isReadOnly then fail (.readOnly name)
  let isTable := v.content.any Content.isTable
  let start : Content := match isAdded, v.content with
    | true, some (.text text) => .list [(0, text)]
    | true, some content => content
    | _, _ => if isTable then .table [] else .list []
  setContent name start
  if isTable then
    if elements.all (·.1.isNone) then
      (pairs (elements.map (·.2))).forM fun (key, value) => assign name (some key) false value
    else
      elements.forM fun (key, value) =>
        match key with
        | some key => assign name (some key) false value
        | none =>
          report (.stated (name ++ ": " ++ value ++ ": must use subscript when assigning associative array"))
  else
    let _ ← elements.foldlM
      (fun n (key, value) => do
        let n ← match key with
          | none => pure n
          | some key =>
            match ← keyOf? evaluate name key with
            | some (.number n) => pure n
            | _ => fail (.stated ("[" ++ key ++ "]=" ++ value ++ ": bad array subscript"))
        assign name (some (Numeral.decimal n)) false value
        return n + 1)
      start.size
where
  /-- Keys and values that follow each other. -/
  pairs : List String → List (String × String)
    | key :: value :: rest => (key, value) :: pairs rest
    | [key] => [(key, "")]
    | [] => []

end Run
end SysReg.Shell
