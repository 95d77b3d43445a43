import SysReg.Shell.Real
import SysReg.Shell.Regex.Reading

/-!
# Patterns of programs

Regular expressions as programs spell them: nothing may be missing beside a bar or in front of what repeats
it, and a closing sign that closes nothing is a character.
-/

namespace SysReg.Shell.Records

/-- Why a text is no pattern. -/
inductive PatternFault where
  | closing
  | operand
  | bracket
  | interval
  | repeatedStart
  | size
  deriving DecidableEq, Repr

namespace PatternFault

/-- The wording of a fault. -/
def text : PatternFault → String
  | closing => "missing ')'"
  | operand => "missing operand"
  | bracket => "bad class -- [], [^] or ["
  | interval => "bad interval expression"
  | repeatedStart => "syntax error ^* or ^+"
  | size => "resource exhaustion -- regular expression too large"

end PatternFault

namespace Pattern

open Regex (Sign)

/-- What letters behind a backslash stand for. -/
def letters : List (Char × Char) :=
  [('\x22', '\x22'), ('\\', '\\'), ('a', '\x07'), ('b', '\x08'), ('f', '\x0c'), ('n', '\n'),
    ('r', '\x0d'), ('t', '\t'), ('v', '\x0b')]

/-- The character that is spelled behind a backslash at the start of a text, and what follows it. -/
def escapeAt? (cs : List Char) : Option (Char × List Char) :=
  match cs with
  | [] => none
  | c :: rest =>
    match letters.lookup c with
    | some d => some (d, rest)
    | none =>
      let octal := (cs.take 3).takeWhile fun c => '0' ≤ c && c ≤ '7'
      if !octal.isEmpty then
        some (Char.ofNat ((octal.foldl (fun n c => 8 * n + (c.toNat - 48)) 0) % 256), cs.drop octal.length)
      else if c == 'x' then
        let digits := (rest.take 2).takeWhile Numeral.isHexDigit
        if digits.isEmpty then none
        else
          some (Char.ofNat (digits.foldl (fun n c => 16 * n + (Numeral.digitValue? c).getD 0) 0),
            rest.drop digits.length)
      else none

/-- A text with what is spelled behind backslashes. What stands for nothing else stays as it is. The number
is at least that of the characters. -/
def unescaped : Nat → List Char → List Char
  | 0, cs => cs
  | _, [] => []
  | n + 1, '\\' :: cs =>
    match escapeAt? cs with
    | some (c, rest) => c :: unescaped n rest
    | none => '\\' :: cs.take 1 ++ unescaped n (cs.drop 1)
  | n + 1, c :: cs => c :: unescaped n cs

/-- A character of a set, and what follows it. -/
def memberAt? : List Char → Option (Char × List Char)
  | [] => none
  | ['\\'] => some ('\\', [])
  | '\\' :: cs => (escapeAt? cs).or (cs.head?.map (·, cs.drop 1))
  | c :: cs => some (c, cs)

/-- The ranges of a set up to its closing bracket, and what follows it. The number is at least that of the
characters. -/
def rangesAt : Nat → (isFirst : Bool) → List Char → Except PatternFault (List (Char × Char) × List Char)
  | 0, _, _ | _, _, [] => .error .bracket
  | n + 1, isFirst, cs => do
    let before (ranges : List (Char × Char)) (rest : List Char) :
        Except PatternFault (List (Char × Char) × List Char) := do
      let (others, rest) ← rangesAt n false rest
      return (ranges ++ others, rest)
    if !isFirst && cs.head? == some ']' then return ([], cs.drop 1)
    match cs with
    | '[' :: ':' :: rest =>
      let name := rest.takeWhile fun c => c.isAlpha
      match rest.drop name.length, Wildcard.namedRanges.lookup (String.ofList name) with
      | ':' :: ']' :: rest, some ranges => before ranges rest
      | ':' :: ']' :: _, none => throw .bracket
      | _, _ => before [('[', '[')] (':' :: rest)
    | _ =>
      match memberAt? cs with
      | none => throw .bracket
      | some (c, '-' :: rest) =>
        match rest, memberAt? rest with
        | ']' :: _, _ | _, none => before [(c, c)] ('-' :: rest)
        | _, some (d, rest) => before (if d < c then [(c, c), ('-', '-'), (d, d)] else [(c, d)]) rest
      | some (c, rest) => before [(c, c)] rest

/-- So many times at least and at most. From two times on only the least counts. -/
def counted (least : Nat) (most : Option Nat) : Sign :=
  .repeated least (if 2 ≤ least then some least else most)

/-- What a brace means: how often something is repeated, and what follows that. A brace that no number
follows is a character. -/
def countsAt? (cs : List Char) : Except PatternFault (Option (Sign × List Char)) :=
  let body := cs.takeWhile fun c => c.isDigit || c == ','
  match cs.drop body.length with
  | '\x7d' :: rest =>
    let least := body.takeWhile Char.isDigit
    match least, body.drop least.length with
    | [], [] => .error .interval
    | _, [] => .ok (some (counted (Real.ofDigits least) (some (Real.ofDigits least)), rest))
    | _, [','] => .ok (some (counted (Real.ofDigits least) none, rest))
    | _, ',' :: most =>
      if most.contains ',' || Real.ofDigits most < Real.ofDigits least then .error .interval
      else .ok (some (counted (Real.ofDigits least) (some (Real.ofDigits most)), rest))
    | _, _ => .ok none
  | _ => .ok none

/-- A pattern may begin behind the sign. -/
def isBeginning : Option Sign → Bool
  | none | some .opening | some .bar => true
  | _ => false

/-- Where the signs of a text stop that something is missing in front of. -/
def needsOperand (before : Option Sign) : Except PatternFault Unit :=
  if isBeginning before then .error .operand else .ok ()

/-- The signs of a text, inside of so many openings. The number is at least that of the characters. -/
def signs : Nat → (openings : Nat) → (before : Option Sign) → List Char → Except PatternFault (List Sign)
  | 0, _, _, _ => .ok []
  | _, openings, before, [] =>
    if before == some .bar then .error .operand
    else if openings != 0 then .error .closing
    else .ok []
  | n + 1, openings, before, c :: cs => do
    let add (sign : Sign) (rest : List Char) : Except PatternFault (List Sign) := do
      return sign :: (← signs n openings (some sign) rest)
    let character (c : Char) (rest : List Char) : Except PatternFault (List Sign) :=
      add (.atom (.one (.one c))) rest
    let repetition (sign : Sign) (rest : List Char) : Except PatternFault (List Sign) := do
      needsOperand before
      if before == some (.atom (.edge .start)) then throw .repeatedStart
      add sign rest
    match c with
    | '\\' =>
      match memberAt? (c :: cs) with
      | some (d, rest) => character d rest
      | none => return []
    | '[' =>
      let isNegated := cs.head? == some '^'
      let cs := if isNegated then cs.drop 1 else cs
      let (ranges, rest) ← rangesAt (cs.length + 1) true cs
      add (.atom (.one ⟨isNegated, ranges⟩)) rest
    | '.' => add (.atom (.one .all)) cs
    | '^' => add (.atom (.edge .start)) cs
    | '$' => add (.atom (.edge .finish)) cs
    | '*' => repetition (.repeated 0 none) cs
    | '+' => repetition (.repeated 1 none) cs
    | '?' => repetition (.repeated 0 (some 1)) cs
    | '\x7b' =>
      match ← countsAt? cs with
      | none => character c cs
      | some (sign, rest) =>
        if isBeginning before then throw .size
        add sign rest
    | '|' =>
      needsOperand before
      add .bar cs
    | '(' => return .opening :: (← signs n (openings + 1) (some .opening) cs)
    | ')' =>
      if openings == 0 then character c cs
      else
        needsOperand before
        return .closing :: (← signs n (openings - 1) (some .closing) cs)
    | _ => character c cs

/-- The pattern of a text, or what is wrong with it. -/
def ofText (cs : List Char) : Except PatternFault Regex := do
  match Regex.ofSigns true [⟨[], [], 0⟩] 0 (← signs (cs.length + 1) 0 none cs) with
  | .ok r => return r
  | .error _ => throw .operand

end Pattern
end SysReg.Shell.Records
