import SysReg.Shell.Form
import SysReg.Shell.Tool.Basic

/-!
# Tools that count

Numbers in a row, one text again and again, and the prime factors of numbers.
-/

namespace SysReg.Shell.Tool

/-- A number with places behind the point. -/
structure Decimal where
  digits : Int
  places : Nat
  deriving DecidableEq, Repr

namespace Decimal

/-- The number that a text names. -/
def ofText? (text : String) : Option Decimal :=
  let (isNegative, cs) := match text.toList with
    | '-' :: cs => (true, cs)
    | '+' :: cs => (false, cs)
    | cs => (false, cs)
  let whole := Real.digitsAt cs
  let found? := match cs.drop whole.length with
    | [] => if whole.isEmpty then none else some (whole, [])
    | '.' :: places =>
      if places.all Char.isDigit && !(whole.isEmpty && places.isEmpty) then some (whole, places) else none
    | _ => none
  match found? with
  | some (whole, places) =>
    let magnitude : Int := Real.ofDigits (whole ++ places)
    some ⟨if isNegative then -magnitude else magnitude, places.length⟩
  | none =>
    -- A whole number may be spelled in other ways too.
    match Real.ofText? text.toList with
    | some (.fraction isNegative n d, []) =>
      if n % d == 0 then
        let magnitude : Int := (n / d : Nat)
        some ⟨if isNegative then -magnitude else magnitude, 0⟩
      else none
    | _ => none

/-- The digits of a number with so many places. -/
def scaled (d : Decimal) (places : Nat) : Int :=
  d.digits * Nat.pow 10 (places - d.places)

/-- The spelling of digits with so many places behind the point. -/
def spelled (digits : Int) (places : Nat) : List Char :=
  (if digits < 0 then ['-'] else []) ++ Real.withPoint places false (Nat.toDigits 10 digits.natAbs)

end Decimal

/-- How many numbers are printed at most. -/
def sequenceLimit : Nat := 200000

/-- How many numbers there are from one to another. -/
def sequenceLength (first step last : Int) : Nat :=
  if 0 < step then if last < first then 0 else ((last - first) / step).toNat + 1
  else if first < last then 0 else ((first - last) / (-step)).toNat + 1

/-- Marks a negative number as no option. The second of each pair is to be taken as it is. -/
def guarded (valued : List String) : List String → List String
  | [] => []
  | argument :: rest =>
    if valued.contains argument then
      match rest with
      | value :: rest => argument :: value :: guarded valued rest
      | [] => [argument]
    else
      match argument.toList with
      | '-' :: c :: _ =>
        if c.isDigit || c == '.' then "--" :: argument :: rest else argument :: guarded valued rest
      | _ => argument :: rest

/-- The text in front of a directive, and the rest. The number is at least that of the characters. -/
def split : Nat → List Char → List Char × List Char
  | 0, cs => ([], cs)
  | _, [] => ([], [])
  | n + 1, '%' :: '%' :: cs =>
    let (front, rest) := split n cs
    ('%' :: front, rest)
  | n + 1, c :: cs =>
    if c == '%' then ([], c :: cs)
    else
      let (front, rest) := split n cs
      (c :: front, rest)

/-- A form with one directive for a real number: what is in front of it, the directive and what is behind
it, or what is wrong with the form. -/
def realForm (text : String) : Except String (List Char × OpenDirective × List Char) := do
  let (front, rest) := split text.length text.toList
  match rest with
  | [] => throw ("format " ++ quoted text ++ " has no % directive")
  | _ :: cs =>
    let (d, rest) := OpenDirective.ofChars ['l', 'L'] cs
    match d.letter with
    | none => throw ("format " ++ quoted text ++ " ends in %")
    | some letter =>
      if !(['e', 'E', 'f', 'F', 'g', 'G', 'a', 'A'].contains letter) then
        throw ("format " ++ quoted text ++ " has unknown %" ++ letter.toString ++ " directive")
      let (back, rest) := split rest.length rest
      if !rest.isEmpty then throw ("format " ++ quoted text ++ " has too many % directives")
      return (front, d, back)

/-- Prints numbers in a row. -/
def seq : Tool := fun c arguments =>
  withOptions [valued 'f' "format", valued 's' "separator", plain 'w' "equal-width"] 1 (fun c a => do
    let numbers := a.operands.map fun text => (text, Decimal.ofText? text)
    match numbers.find? (·.2.isNone) with
    | some (text, _) => c.misuse 1 ("invalid floating point argument: " ++ quoted text)
    | none =>
      let one : Decimal := ⟨1, 0⟩
      let print (first step last : Decimal) : Run Nat := do
        let places := max first.places step.places
        let scale := max places last.places
        if step.digits == 0 then
          return ← c.misuse 1 ("invalid Zero increment value: " ++ quoted (a.operands.getD 1 "0"))
        let count := min sequenceLimit
          (sequenceLength (first.scaled scale) (step.scaled scale) (last.scaled scale))
        let values := (List.range count).map fun (n : Nat) =>
          first.scaled places + (n : Int) * step.scaled places
        let form? := (a.value? 'f').map realForm
        match form? with
        | some (.error text) => c.fail 1 text
        | some (.ok (front, d, back)) =>
          let texts := values.map fun n =>
            let directive := Directive.ofOpen d (d.letter.getD 'g') 0 0
            front ++ directive.real (.fraction (n < 0) n.natAbs (Nat.pow 10 places)) ++ back
          put a texts
        | none =>
          let texts := values.map (Decimal.spelled · places)
          let last := Decimal.spelled (last.scaled scale / Nat.pow 10 (scale - places)) places
          let width := ([Decimal.spelled (first.scaled places) places, last].map List.length).foldl max 0
          put a (if a.has 'w' then texts.map fun text =>
              match text with
              | '-' :: digits => '-' :: digits.leftpad (width - 1) '0'
              | digits => digits.leftpad width '0'
            else texts)
      match numbers.filterMap (·.2) with
      | [] => c.misuse 1 "missing operand"
      | [last] => print one one last
      | [first, last] => print first one last
      | [first, step, last] => print first step last
      | _ => c.misuse 1 ("extra operand " ++ quoted (a.operands.getD 3 ""))) true c
    (guarded ["-s", "-f"] arguments)
where
  /-- Prints texts with what separates them. -/
  put (a : Arguments) (texts : List (List Char)) : Run Nat := do
    if !texts.isEmpty then
      Run.print (String.ofList ((((a.value? 's').getD "\n").toList).intercalate texts) ++ "\n")
    return 0

/-- How often a text is printed that is printed without an end. -/
def yesCount : Nat := 20000

/-- Prints a text again and again. What reads it goes on when it has enough. -/
def yes : Tool := withOptions [] 1 (fun _ a => do
  let line := (if a.operands.isEmpty then "y" else " ".intercalate a.operands) ++ "\n"
  Run.print (String.join (List.replicate yesCount line))
  return 0) false

/-- The prime factors of a number from a divisor on. The first number bounds the steps. -/
def factors : Nat → (divisor n : Nat) → List Nat
  | 0, _, n => [n]
  | k + 1, divisor, n =>
    if n < 2 then []
    else if n < divisor * divisor then [n]
    else if n % divisor == 0 then divisor :: factors k divisor (n / divisor)
    else factors k (divisor + 1) n

/-- Prints the prime factors of numbers. -/
def factor : Tool := withOptions [plain 'h' "exponents"] 1 (fun c a => do
  let words ← if a.operands.isEmpty then do
      let text := (← readFile "-").toOption.getD []
      pure ((text.splitBy fun a b => (a ≤ ' ') == (b ≤ ' ')).filter (!·.all (· ≤ ' ')) |>.map String.ofList)
    else pure a.operands
  let found ← words.mapM fun word => do
    match word.toNat? with
    | some n =>
      Run.print (Numeral.decimal n ++ ":" ++
        String.join ((factors 2000000 2 n).map fun k => " " ++ Numeral.decimal k) ++ "\n")
      return true
    | none =>
      c.report (quoted word ++ " is not a valid positive integer")
      return false
  return statusIf (found.all id)) false

end SysReg.Shell.Tool
