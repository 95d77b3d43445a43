import SysReg.Shell.Syntax
import SysReg.Text.Numeral

/-!
# Arithmetic of a script

Expressions over integers of 64 bits with the usual operators, in which variables may stand and be
set. A comparison is one if it holds and zero otherwise. Of two sides of which one decides, the other is
read but has no effect.
-/

namespace SysReg.Shell.Arithmetic

/-! ## Numbers -/

/-- The integer of 64 bits that an integer wraps around to. -/
def wrapped (n : Int) : Int :=
  (BitVec.ofInt 64 n).toInt

/-- The greatest integer of 64 bits. -/
def greatest : Int := 0x7fffffffffffffff

/-- The least integer of 64 bits. -/
def least : Int := -0x8000000000000000

/-- A blank character of a text. -/
def isBlank (c : Char) : Bool :=
  c == ' ' || (9 ≤ c.toNat && c.toNat ≤ 13)

/-- The digits in a base at the start of a text. -/
def digitsAt (base : Nat) (cs : List Char) : List Char :=
  cs.takeWhile fun c => (Numeral.digitValue? c).any (· < base)

/-- The number that digits in a base spell. -/
def ofDigits (base : Nat) (digits : List Char) : Nat :=
  digits.foldl (fun n c => n * base + (Numeral.digitValue? c).getD 0) 0

/-- A number without its sign, in hexadecimal after `0x` and in octal after `0`, and what follows it. -/
def magnitudeAt? (cs : List Char) : Option (Nat × List Char) :=
  let inBase (base : Nat) (cs : List Char) : Option (Nat × List Char) :=
    match digitsAt base cs with
    | [] => none
    | digits => some (ofDigits base digits, cs.drop digits.length)
  match cs with
  | '0' :: x :: rest =>
    if x == 'x' || x == 'X' then (inBase 16 rest).or (some (0, x :: rest)) else inBase 8 cs
  | _ => inBase 10 cs

/-- A number at the start of a text, in decimal only if that is asked for, and what follows it. Nothing is
cut off if it is large. -/
def numberAt? (decimalOnly : Bool) (cs : List Char) : Option (Int × List Char) :=
  let magnitude (cs : List Char) : Option (Nat × List Char) :=
    if decimalOnly then
      match digitsAt 10 cs with
      | [] => none
      | digits => some (ofDigits 10 digits, cs.drop digits.length)
    else magnitudeAt? cs
  match cs.dropWhile isBlank with
  | '-' :: rest => (magnitude rest).map fun (n, rest) => (-(n : Int), rest)
  | '+' :: rest => (magnitude rest).map fun (n, rest) => ((n : Int), rest)
  | rest => (magnitude rest).map fun (n, rest) => ((n : Int), rest)

/-- The number that a whole text spells, between blanks. -/
def ofText? (decimalOnly : Bool) (text : String) : Option Int :=
  (numberAt? decimalOnly text.toList).bind fun (n, rest) =>
    if rest.all isBlank && least ≤ n && n ≤ greatest then some n else none

/-- The value of a variable; nothing counts as zero. -/
def ofValue (text : String) : Except String Int :=
  if text.toList.all isBlank then .ok 0
  else
    match ofText? false text with
    | some n => .ok n
    | none => .error ("Illegal number: " ++ text)

/-! ## Terms -/

/-- A part of an expression. -/
inductive Term where
  | number (n : Int)
  | name (name : String)
  | operator (operator : String)
  /-- A character that means nothing. -/
  | stray
  deriving DecidableEq, Repr

/-- The operators, a longer one before one that it begins with. -/
def operators : List String :=
  ["<<=", ">>=", "<<", ">>", "<=", ">=", "==", "!=", "&&", "||", "+=", "-=", "*=", "/=", "%=", "&=",
    "|=", "^=", "+", "-", "*", "/", "%", "<", ">", "=", "&", "|", "^", "!", "~", "?", ":", "(", ")"]

/-- The number at the start of a text that begins with a digit, and what follows it. -/
def literalAt (cs : List Char) : Int × List Char :=
  match magnitudeAt? cs with
  | some (n, rest) => (min n greatest, rest)
  | none => (0, cs.drop 1)

/-- The parts of an expression. The number is at least that of the characters. -/
def terms : Nat → List Char → List Term
  | 0, _ | _, [] => []
  | n + 1, c :: cs =>
    if c == ' ' || c == '\t' || c == '\n' then terms n cs
    else if c.isDigit then
      let (value, rest) := literalAt (c :: cs)
      .number value :: terms n rest
    else if isNameStart c then
      let found := (c :: cs).takeWhile isNameChar
      .name (String.ofList found) :: terms n ((c :: cs).drop found.length)
    else
      match operators.find? fun operator => operator.toList.isPrefixOf (c :: cs) with
      | some operator => .operator operator :: terms n ((c :: cs).drop operator.length)
      | none => [.stray]

/-! ## Values -/

/-- What an expression is worked out with: the terms that are left and the variables that were set. -/
structure Work where
  rest : List Term
  settings : List (String × Int)

/-- A step of working an expression out. -/
abbrev Step : Type → Type := StateT Work (Except String)

/-- Takes the next term. -/
def next : Step (Option Term) := do
  let w ← get
  set { w with rest := w.rest.drop 1 }
  return w.rest.head?

/-- The next term, if it is an operator. -/
def nextOperator : Step (Option String) := do
  return match (← get).rest with
    | .operator operator :: _ => some operator
    | _ => none

/-- How tightly an operator binds its two sides, less being tighter. -/
def looseness? (operator : String) : Option Nat :=
  [("*", 0), ("/", 0), ("%", 0), ("+", 1), ("-", 1), ("<<", 2), (">>", 2), ("<", 3), ("<=", 3),
    (">", 3), (">=", 3), ("==", 4), ("!=", 4), ("&", 5), ("^", 6), ("|", 7)].lookup operator

/-- One for what holds and zero for what does not. -/
def flag (holds : Bool) : Int :=
  if holds then 1 else 0

/-- Applies an operator to its two sides. -/
def combine (operator : String) (a b : Int) : Except String Int :=
  let bits (f : BitVec 64 → BitVec 64 → BitVec 64) : Except String Int :=
    .ok (f (BitVec.ofInt 64 a) (BitVec.ofInt 64 b)).toInt
  match operator with
  | "|" => bits (· ||| ·)
  | "^" => bits (· ^^^ ·)
  | "&" => bits (· &&& ·)
  | "==" => .ok (flag (a == b))
  | "!=" => .ok (flag (a != b))
  | "<" => .ok (flag (a < b))
  | "<=" => .ok (flag (a ≤ b))
  | ">" => .ok (flag (b < a))
  | ">=" => .ok (flag (b ≤ a))
  | "<<" => bits fun x y => x <<< (y.toNat % 64)
  | ">>" => bits fun x y => x.sshiftRight (y.toNat % 64)
  | "+" => .ok (wrapped (a + b))
  | "-" => .ok (wrapped (a - b))
  | "*" => .ok (wrapped (a * b))
  | "/" => if b == 0 then .error "division by zero" else .ok (wrapped (a.tdiv b))
  | _ => if b == 0 then .error "division by zero" else .ok (a.tmod b)

/-- The operator that sets a variable and changes it before, without its equals sign. -/
def settingOperator? (operator : String) : Option String :=
  match operator.toList.reverse with
  | '=' :: front =>
    let text := String.ofList front.reverse
    if text.isEmpty || ((looseness? text).isSome && !(["<", ">"].contains text) && text != "=") then
      some text
    else none
  | _ => none

section

-- The value of a variable when the expression begins.
variable (valueOf : String → Except String Int)

/-- The value of a variable. -/
def look (silent : Bool) (name : String) : Step Int := do
  if silent then return 0
  match (← get).settings.lookup name with
  | some value => return value
  | none => valueOf name

/-- A part in brackets, a number, a variable, or one of these behind signs. -/
def primary (whole : Bool → Step Int) : Nat → (silent : Bool) → Step Int
  | 0, _ => throw "expecting primary"
  | n + 1, silent => do
    match ← next with
    | some (.number value) => return value
    | some (.name name) => look valueOf silent name
    | some (.operator "(") =>
      let value ← whole silent
      match ← next with
      | some (.operator ")") => return value
      | _ => throw "expecting ')'"
    | some (.operator "+") => primary whole n silent
    | some (.operator "-") => return wrapped (-(← primary whole n silent))
    | some (.operator "!") => return flag ((← primary whole n silent) == 0)
    | some (.operator "~") => return -(← primary whole n silent) - 1
    | _ => throw "expecting primary"

/-- What follows a left side whose operators bind more tightly than a bound. -/
def climb (operand : Step Int) (silent : Bool) : Nat → (bound : Nat) → Int → Step Int
  | 0, _, left => return left
  | n + 1, bound, left => do
    match (← nextOperator).bind fun operator => (looseness? operator).map (operator, ·) with
    | none => return left
    | some (operator, looseness) =>
      if bound ≤ looseness then return left
      else
        let _ ← next
        let right ← climb operand silent n looseness (← operand)
        let value ← if silent then pure right else combine operator left right
        climb operand silent n bound value

/-- Two sides or more of `&&`. -/
def conjunction (sides : Bool → Step Int) : Nat → (silent : Bool) → Step Int
  | 0, _ => throw "expecting primary"
  | n + 1, silent => do
    let left ← sides silent
    if (← nextOperator) == some "&&" then
      let _ ← next
      let right ← conjunction sides n (silent || left == 0)
      return flag (left != 0 && right != 0)
    else return left

/-- Two sides or more of `||`. -/
def disjunction (sides : Bool → Step Int) : Nat → (silent : Bool) → Step Int
  | 0, _ => throw "expecting primary"
  | n + 1, silent => do
    let left ← sides silent
    if (← nextOperator) == some "||" then
      let _ ← next
      let right ← disjunction sides n (silent || left != 0)
      return flag (left != 0 || right != 0)
    else return left

/-- A choice between two values. -/
def choice (whole sides : Bool → Step Int) : Nat → (silent : Bool) → Step Int
  | 0, _ => throw "expecting primary"
  | n + 1, silent => do
    let asked ← sides silent
    if (← nextOperator) == some "?" then
      let _ ← next
      let yes ← whole (silent || asked == 0)
      if (← nextOperator) == some ":" then
        let _ ← next
        let no ← choice whole sides n (silent || asked != 0)
        return if asked != 0 then yes else no
      else throw "expecting ':'"
    else return asked

/-- The variable that is set at the start of some terms, and the operator that changes it before. -/
def settingAt? : List Term → Option (String × String)
  | .name name :: .operator operator :: _ => (settingOperator? operator).map (name, ·)
  | _ => none

/-- The value of an expression. The number bounds how deep it is nested. -/
def whole : Nat → (silent : Bool) → Step Int
  | 0, _ => throw "expecting primary"
  | n + 1, silent => do
    match settingAt? (← get).rest with
    | some (name, operator) =>
      let _ ← next
      let _ ← next
      let right ← whole n silent
      if silent then return right
      let value ← if operator.isEmpty then pure right
        else do combine operator (← look valueOf false name) right
      modify fun w => { w with settings := (name, value) :: w.settings }
      return value
    | none =>
      let sides (silent : Bool) : Step Int := do
        let operand := primary valueOf (whole n) (n + 1) silent
        climb operand silent (n + 1) 8 (← operand)
      choice (whole n) (disjunction (conjunction sides (n + 1)) (n + 1)) (n + 1) silent

end

/-- The value of an expression and the variables that it sets, the last first, or what is wrong with
it. -/
def evaluate (valueOf : String → Except String Int) (text : String) :
    Except String (Int × List (String × Int)) := do
  let cs := text.toList
  let found := terms (cs.length + 1) cs
  match (whole (fun name => (valueOf name).mapError ("!" ++ ·)) (found.length + 1) false).run
      ⟨found, []⟩ with
  | .ok (value, w) =>
    if w.rest.isEmpty then return (value, w.settings) else throw (faultText "expecting EOF")
  | .error fault =>
    -- What is wrong with a variable has a text of its own.
    if fault.startsWith "!" then throw (fault.drop 1).toString else throw (faultText fault)
where
  /-- The text of a fault of the expression. -/
  faultText (fault : String) : String :=
    "arithmetic expression: " ++ fault ++ ": \x22" ++ text ++ "\x22"

end SysReg.Shell.Arithmetic
