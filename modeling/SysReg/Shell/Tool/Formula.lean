import SysReg.Shell.Regex.Reading
import SysReg.Shell.Tool.Basic

/-!
# Formulas

The value of a formula on numbers and texts, each part of which is an argument of its own.
-/

namespace SysReg.Shell

/-- The value of a formula. -/
inductive FormulaValue where
  | text (s : String)
  | number (n : Int)
  deriving DecidableEq, Repr

namespace FormulaValue

/-- The spelling of a value. -/
def spelling : FormulaValue → String
  | text s => s
  | number n => Numeral.signedDecimal n

/-- The value as a number, if it is one. -/
def number? : FormulaValue → Option Int
  | number n => some n
  | text s =>
    match s.toList with
    | '-' :: cs => if !cs.isEmpty && cs.all Char.isDigit then some (-(Real.ofDigits cs : Int)) else none
    | cs => if !cs.isEmpty && cs.all Char.isDigit then some (Real.ofDigits cs : Int) else none

/-- The value counts as false. -/
def isNothing : FormulaValue → Bool
  | number n => n == 0
  | text s =>
    let cs := s.toList
    let digits := if cs.head? == some '-' then cs.drop 1 else cs
    cs.isEmpty || (!digits.isEmpty && digits.all (· == '0'))

end FormulaValue

namespace Formula

/-- What is left of a formula, and the part that was read last. -/
structure Place where
  rest : List String
  last : String

/-- A step of reading a formula, or the wording of a fault. -/
abbrev Step : Type → Type := StateT Place (Except String)

/-- Reads a part, which has to be there. -/
def take : Step String := do
  let p ← get
  match p.rest with
  | [] => throw ("syntax error: missing argument after " ++ Tool.quoted p.last)
  | part :: rest =>
    set { p with rest, last := part }
    return part

/-- Reads one of some parts, if it is next. -/
def takeIf? (parts : List String) : Step (Option String) := do
  let p ← get
  match p.rest with
  | part :: rest =>
    if parts.contains part then
      set { p with rest, last := part }
      return some part
    else return none
  | [] => return none

/-- How expressions for texts are spelled. -/
def spelling : RegexSpelling := ⟨false, false, false⟩

/-- The part of a text from its start that an expression matches: the text of the first group if there
is one, or else how long the part is. -/
def matched (text expression : String) : Except String FormulaValue :=
  let cs := expression.toList
  let cs := if cs.head? == some '^' then cs.drop 1 else cs
  match Regex.ofText spelling cs with
  | .error fault =>
    .error (if fault == .bracket && (cs.drop (cs.length - 1) == ['[']) then "Invalid regular expression"
      else fault.text)
  | .ok r =>
    let subject : Subject := ⟨text.toList.toArray, false, true⟩
    let found := r.matchAt? subject 0
    if 0 < r.groupCount then
      .ok (.text (String.ofList ((found.map (Regex.groupText subject 0 · 1)).getD [])))
    else .ok (.number ((found.map (·.place)).getD 0))

/-- The place of the first character of a text that is among others, counted from one. -/
def indexOf (text among : String) : Nat :=
  ((text.toList.findIdx? among.toList.contains).map (· + 1)).getD 0

/-- A part of a text, from a place counted from one, so long at most. -/
def part (text : String) (place size : FormulaValue) : String :=
  match place.number?, size.number? with
  | some place, some size =>
    if place ≤ 0 || size ≤ 0 then ""
    else String.ofList ((text.toList.drop (place.toNat - 1)).take size.toNat)
  | _, _ => ""

/-- Carries an operator on numbers out. -/
def arithmetic (operator : String) (a b : FormulaValue) : Except String FormulaValue :=
  match a.number?, b.number? with
  | some x, some y =>
    match operator with
    | "+" => .ok (.number (x + y))
    | "-" => .ok (.number (x - y))
    | "*" => .ok (.number (x * y))
    | _ =>
      if y == 0 then .error "division by zero"
      else .ok (.number (if operator == "/" then x.tdiv y else x.tmod y))
  | _, _ => .error "non-integer argument"

/-- Compares two values, as numbers if both are. -/
def comparison (operator : String) (a b : FormulaValue) : FormulaValue :=
  let order : Ordering := match a.number?, b.number? with
    | some x, some y => compare x y
    | _, _ => compare a.spelling b.spelling
  let holds : Bool := match operator with
    | "<" => order == .lt
    | "<=" => order != .gt
    | "=" | "==" => order == .eq
    | "!=" => order != .eq
    | ">=" => order != .lt
    | _ => order == .gt
  .number (if holds then 1 else 0)

/-- Reads operands between operators of one rank, from left to right. The number bounds how many there
are. -/
def leftwards (operators : List String) (operand : Step FormulaValue)
    (combine : String → FormulaValue → FormulaValue → Except String FormulaValue) :
    Nat → FormulaValue → Step FormulaValue
  | 0, a => return a
  | n + 1, a => do
    match ← takeIf? operators with
    | none => return a
    | some operator =>
      let b ← operand
      match combine operator a b with
      | .ok found => leftwards operators operand combine n found
      | .error text => throw text

/-- A value, or a part of a text that is asked for by name. The number bounds how deep it is nested. -/
def simple (live : Bool) (whole : Bool → Step FormulaValue) : Nat → Step FormulaValue
  | 0 => throw "syntax error"
  | n + 1 => do
    let next : Step FormulaValue := simple live whole n
    match ← takeIf? ["+", "length", "match", "index", "substr", "("] with
    | some "+" => return .text (← take)
    | some "length" => return .number (← next).spelling.length
    | some "match" => do
      let a ← next
      let b ← next
      if !live then return a
      match matched a.spelling b.spelling with
      | .ok found => return found
      | .error text => throw text
    | some "index" => do
      let a ← next
      return .number (indexOf a.spelling (← next).spelling)
    | some "substr" => do
      let a ← next
      let place ← next
      return .text (part a.spelling place (← next))
    | some _ => do
      let found ← whole live
      let p ← get
      match p.rest with
      | [] => throw ("syntax error: expecting ')' after " ++ Tool.quoted p.last)
      | ")" :: rest =>
        set { p with rest, last := ")" }
        return found
      | other :: _ => throw ("syntax error: expecting ')' instead of " ++ Tool.quoted other)
    | none => do
      let text ← take
      if text == ")" then throw "syntax error: unexpected ')'"
      return .text text

/-- A combination that is only carried out if its value is needed. -/
def ifLive (live : Bool) (combine : String → FormulaValue → FormulaValue → Except String FormulaValue) :
    String → FormulaValue → FormulaValue → Except String FormulaValue :=
  fun operator a b => if live then combine operator a b else .ok a

/-- A formula without the operators that choose between values. The number bounds how deep it is
nested. -/
def related (whole : Bool → Step FormulaValue) (live : Bool) (n : Nat) : Step FormulaValue := do
  let chain (operators : List String) (operand : Step FormulaValue)
      (combine : String → FormulaValue → FormulaValue → Except String FormulaValue) :
      Step FormulaValue := do
    leftwards operators operand (ifLive live combine) n (← operand)
  let matchings := chain [":"] (simple live whole n) fun _ a b => matched a.spelling b.spelling
  let products := chain ["*", "/", "%"] matchings arithmetic
  let sums := chain ["+", "-"] products arithmetic
  chain ["<", "<=", "=", "==", "!=", ">=", ">"] sums fun operator a b => .ok (comparison operator a b)

/-- Reads values between operators that choose one of them. -/
def choosing (operator : String) (operand : Bool → Step FormulaValue)
    (needsMore : FormulaValue → Bool) (choose : FormulaValue → FormulaValue → FormulaValue) (live : Bool) :
    Nat → FormulaValue → Step FormulaValue
  | 0, a => return a
  | n + 1, a => do
    match ← takeIf? [operator] with
    | none => return a
    | some _ =>
      let b ← operand (live && needsMore a)
      choosing operator operand needsMore choose live n (choose a b)

/-- A whole formula. The number bounds how deep it is nested. -/
def whole : Nat → (live : Bool) → Step FormulaValue
  | 0, _ => throw "syntax error"
  | n + 1, live => do
    let both (live : Bool) : Step FormulaValue := do
      choosing "&" (fun live => related (whole n) live n) (fun a => !a.isNothing)
        (fun a b => if a.isNothing || b.isNothing then .number 0 else a) live n
        (← related (whole n) live n)
    choosing "|" both FormulaValue.isNothing
      (fun a b => if !a.isNothing then a else if b.isNothing then .number 0 else b) live n (← both live)

/-- The value of a formula, or the wording of a fault. -/
def value (parts : List String) : Except String FormulaValue := do
  let (found, p) ← (whole (parts.length + 3) true).run ⟨parts, ""⟩
  match p.rest with
  | [] => return found
  | extra :: _ => throw ("syntax error: unexpected argument " ++ Tool.quoted extra)

end Formula

namespace Tool

/-- Prints the value of a formula. -/
def expr : Tool := fun c arguments => do
  match if arguments.head? == some "--" then arguments.drop 1 else arguments with
  | [] => c.misuse 2 "missing operand"
  | parts =>
    match Formula.value parts with
    | .error text => c.fail 2 text
    | .ok found =>
      Run.print (found.spelling ++ "\n")
      return if found.isNothing then 1 else 0

end Tool
end SysReg.Shell
