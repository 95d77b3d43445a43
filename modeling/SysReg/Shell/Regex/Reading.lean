import SysReg.Shell.Regex.Basic
import SysReg.Text.Numeral

/-!
# Reading regular expressions

There are two spellings. In the basic one, a sign has its meaning behind a backslash, and in the extended
one it has it by itself.
-/

namespace SysReg.Shell

/-- How an expression is spelled. -/
structure RegexSpelling where
  isExtended : Bool
  /-- A letter behind a backslash may stand for a character that is not printed. -/
  hasLetters : Bool
  /-- A sign that repeats nothing is refused. -/
  isStrict : Bool
  deriving DecidableEq, Repr

/-- Why a text is no regular expression. -/
inductive RegexFault where
  | opening
  | closing
  | bracket
  | range
  | className
  | reference
  | backslash
  | brace
  | braceContent
  /-- Something is to be repeated more often at least than at most. -/
  | braceOrder
  | nothingToRepeat
  deriving DecidableEq, Repr

namespace RegexFault

/-- The wording of a fault. -/
def text : RegexFault → String
  | opening => "Unmatched ( or \\("
  | closing => "Unmatched ) or \\)"
  | bracket => "Unmatched [, [^, [:, [., or [="
  | range => "Invalid range end"
  | className => "Invalid character class name"
  | reference => "Invalid back reference"
  | backslash => "Trailing backslash"
  | brace => "Unmatched \\\x7b"
  | braceContent | braceOrder => "Invalid content of \\\x7b\\\x7d"
  | nothingToRepeat => "Invalid preceding regular expression"

end RegexFault

namespace Regex

/-- A sign of an expression. -/
inductive Sign where
  | atom (r : Regex)
  | opening
  | closing
  | bar
  /-- So many times or more, or so many times at most. -/
  | repeated (least : Nat) (most : Option Nat)
  deriving DecidableEq, Repr

/-- The sign repeats what is in front of it. -/
def Sign.isRepeated : Sign → Bool
  | repeated _ _ => true
  | _ => false

/-! ## Sets in brackets -/

/-- The characters that letters behind a backslash stand for. -/
def letters : List (Char × Char) :=
  [('n', '\n'), ('t', '\t'), ('f', '\x0c'), ('r', '\x0d'), ('v', '\x0b'), ('a', '\x07')]

/-- An element at the start of a text in brackets, and what follows it: a character or ranges. -/
def elementAt (hasLetters : Bool) (cs : List Char) :
    Except RegexFault ((Char ⊕ List (Char × Char)) × List Char) :=
  match cs with
  | [] => .error .bracket
  | '[' :: ':' :: rest =>
    let name := rest.takeWhile (· != ':')
    match rest.drop name.length with
    | ':' :: ']' :: rest =>
      match Wildcard.namedRanges.lookup (String.ofList name) with
      | some ranges => .ok (.inr ranges, rest)
      | none => .error .className
    | _ => .error .bracket
  | '[' :: '.' :: c :: '.' :: ']' :: rest => .ok (.inl c, rest)
  | '[' :: '=' :: c :: '=' :: ']' :: rest => .ok (.inr [(c, c)], rest)
  | '\\' :: c :: rest =>
    match if hasLetters then letters.lookup c else none with
    | some d => .ok (.inl d, rest)
    | none => .ok (.inl '\\', c :: rest)
  | c :: rest => .ok (.inl c, rest)

/-- The ranges of a set up to its closing bracket, and what follows it. The number is at least that of
the characters. -/
def rangesAt (hasLetters : Bool) :
    Nat → (isFirst : Bool) → List Char → Except RegexFault (List (Char × Char) × List Char)
  | 0, _, _ => .error .bracket
  | n + 1, isFirst, cs => do
    if !isFirst && cs.head? == some ']' then return ([], cs.drop 1)
    match ← elementAt hasLetters cs with
    | (.inr ranges, rest) =>
      let (others, rest) ← rangesAt hasLetters n false rest
      return (ranges ++ others, rest)
    | (.inl c, '-' :: after) =>
      if after.head? == some ']' then
        let (others, rest) ← rangesAt hasLetters n false ('-' :: after)
        return ((c, c) :: others, rest)
      else
        match ← elementAt hasLetters after with
        | (.inl d, rest) =>
          if d < c then throw .range
          let (others, rest) ← rangesAt hasLetters n false rest
          return ((c, d) :: others, rest)
        | (.inr _, _) => throw .range
    | (.inl c, rest) =>
      let (others, rest) ← rangesAt hasLetters n false rest
      return ((c, c) :: others, rest)

/-- The set behind an opening bracket, and what follows it. -/
def setAt (hasLetters : Bool) (cs : List Char) : Except RegexFault (OctetSet × List Char) := do
  let isNegated := cs.head? == some '^'
  let cs := if isNegated then cs.drop 1 else cs
  let (ranges, rest) ← rangesAt hasLetters (cs.length + 1) true cs
  return (⟨isNegated, ranges⟩, rest)

/-! ## Signs -/

/-- A number at the start of a text, and what follows it. -/
def numberAt (cs : List Char) : Option Nat × List Char :=
  let digits := cs.takeWhile Char.isDigit
  (if digits.isEmpty then none else some (digits.foldl (fun n c => 10 * n + (c.toNat - 48)) 0),
    cs.drop digits.length)

/-- How often something is repeated, behind an opening brace, and what follows the closing one. -/
def countsAt (isExtended : Bool) (cs : List Char) : Except RegexFault (Sign × List Char) := do
  let close (sign : Sign) (rest : List Char) : Except RegexFault (Sign × List Char) :=
    match isExtended, rest with
    | true, '\x7d' :: rest => .ok (sign, rest)
    | false, '\\' :: '\x7d' :: rest => .ok (sign, rest)
    | _, [] => .error .brace
    | _, _ => .error .braceContent
  match numberAt cs with
  | (least, ',' :: rest) =>
    let (most, rest) := numberAt rest
    let isBad := most.any (· < least.getD 0)
    let found ← close (.repeated (least.getD 0) most) rest
    if isBad then throw .braceOrder else return found
  | (some count, rest) => close (.repeated count (some count)) rest
  | (none, rest) => throw (if rest.isEmpty then .brace else .braceContent)

/-- The signs behind a backslash that are the same in both spellings. -/
def escapedEdge? (c : Char) : Option Regex :=
  [('w', one OctetSet.words), ('W', one { OctetSet.words with isNegated := true }),
    ('s', one OctetSet.blanks), ('S', one { OctetSet.blanks with isNegated := true }),
    ('b', edge .wordEdge), ('B', edge .noWordEdge), ('<', edge .wordStart), ('>', edge .wordFinish),
    ('\x60', edge .textStart), ('\x27', edge .textFinish)].lookup c

/-- An expression may begin behind the sign. -/
def isBeginning : Option Sign → Bool
  | none | some .opening | some .bar => true
  | _ => false

/-- An expression ends in front of the text. -/
def isEnding (isExtended : Bool) (cs : List Char) : Bool :=
  cs.isEmpty || (!isExtended && (cs.take 2 == ['\\', ')'] || cs.take 2 == ['\\', '|']))

/-- What a repetition is that has nothing in front of it: refused, passed over or a character. -/
def repeatAtStart (r : RegexSpelling) (c : Char) : Except RegexFault (Option Sign) :=
  if r.isStrict && r.isExtended then .error .nothingToRepeat
  else if r.isExtended then .ok none
  else .ok (some (.atom (one (.one c))))

/-- The signs of a text. The number is at least that of the characters. -/
def signs (r : RegexSpelling) : Nat → (before : Option Sign) → List Char →
    Except RegexFault (List Sign)
  | 0, _, _ | _, _, [] => .ok []
  | n + 1, before, c :: cs =>
    let add (sign : Sign) (rest : List Char) : Except RegexFault (List Sign) := do
      return sign :: (← signs r n (some sign) rest)
    let character (c : Char) (rest : List Char) : Except RegexFault (List Sign) :=
      add (.atom (one (.one c))) rest
    let isRefusedAgain := r.isStrict && !r.isExtended && (before.map Sign.isRepeated).getD false
    let repetition (c : Char) (sign : Sign) (rest : List Char) : Except RegexFault (List Sign) := do
      if isBeginning before || (!r.isExtended && before == some (.atom (edge .start))) then
        match ← repeatAtStart r c with
        | some found => add found rest
        | none => signs r n before rest
      else if c == '*' && isRefusedAgain then throw .nothingToRepeat
      else add sign rest
    let counts (rest : List Char) : Except RegexFault (List Sign) :=
      match countsAt r.isExtended rest with
      | .ok (sign, rest) =>
        if isBeginning before then
          if r.isStrict then .error .nothingToRepeat
          else if r.isExtended then signs r n before rest
          else character '\x7b' cs
        else if isRefusedAgain then .error .nothingToRepeat
        else add sign rest
      | .error fault => if r.isExtended && !r.isStrict && fault != .braceOrder then character '\x7b' cs else .error fault
    match c, cs with
    | '\\', [] => .error .backslash
    | '\\', d :: rest =>
      match escapedEdge? d with
      | some found => add (.atom found) rest
      | none =>
        if '1' ≤ d && d ≤ '9' then add (.atom (again (d.toNat - 48))) rest
        else if r.isExtended then
          match if r.hasLetters then letters.lookup d else none with
          | some e => character e rest
          | none => character d rest
        else
          match d with
          | '(' => add .opening rest
          | ')' => add .closing rest
          | '|' => add .bar rest
          | '\x7b' => counts rest
          | '+' => repetition '+' (.repeated 1 none) rest
          | '?' => repetition '?' (.repeated 0 (some 1)) rest
          | _ =>
            match if r.hasLetters then letters.lookup d else none with
            | some e => character e rest
            | none => character d rest
    | '[', rest => do
      let (set, rest) ← setAt r.hasLetters rest
      add (.atom (one set)) rest
    | '.', rest => add (.atom (one .all)) rest
    | '*', rest => repetition '*' (.repeated 0 none) rest
    | '^', rest =>
      if r.isExtended || isBeginning before then add (.atom (edge .start)) rest else character '^' rest
    | '$', rest =>
      if r.isExtended || isEnding r.isExtended rest then add (.atom (edge .finish)) rest
      else character '$' rest
    | _, rest =>
      if !r.isExtended then character c rest
      else
        match c with
        | '(' => add .opening rest
        | ')' => add .closing rest
        | '|' => add .bar rest
        | '+' => repetition '+' (.repeated 1 none) rest
        | '?' => repetition '?' (.repeated 0 (some 1)) rest
        | '\x7b' => counts rest
        | _ => character c rest

/-! ## Expressions -/

/-- The expression so many times. -/
def times (least : Nat) (most : Option Nat) (r : Regex) : Regex :=
  match most with
  | none => many least r
  | some most =>
    let front := (List.replicate least r).foldr seq empty
    if most ≤ least then front else seq front (upTo (most - least) r)

/-- Expressions that follow each other, the last one first. -/
def joined (parts : List Regex) : Regex :=
  match parts with
  | [] => empty
  | last :: front => front.foldl (fun r part => seq part r) last

/-- What is read so far inside of one opening: the alternatives that are over, and the parts of the one
that is read, the last one first. -/
structure Level where
  alternatives : List Regex
  parts : List Regex
  /-- The number of the group. -/
  number : Nat

namespace Level

/-- The expression of a level. -/
def close (l : Level) : Regex :=
  match l.alternatives with
  | [] => joined l.parts
  | first :: others => (others.foldl (fun r a => either a r) first) |> fun r => either r (joined l.parts)

/-- Adds a part. -/
def add (l : Level) (r : Regex) : Level :=
  { l with parts := r :: l.parts }

end Level

/-- The expression of signs, given the levels that are open, the innermost first, and the number of
groups so far. If `isLenient`, a closing sign that closes nothing is a character. -/
def ofSigns (isLenient : Bool) (levels : List Level) (count : Nat) : List Sign → Except RegexFault Regex
  | [] =>
    match levels with
    | [l] => .ok l.close
    | _ => .error .opening
  | sign :: rest =>
    match levels with
    | [] => .error .closing
    | l :: outer =>
      match sign with
      | .atom (again n) =>
        -- Only what is closed can be asked for again.
        if count < n || levels.any (·.number == n) then .error .reference
        else ofSigns isLenient (l.add (again n) :: outer) count rest
      | .atom r => ofSigns isLenient (l.add r :: outer) count rest
      | .opening => ofSigns isLenient (⟨[], [], count + 1⟩ :: l :: outer) (count + 1) rest
      | .closing =>
        match outer with
        | [] =>
          if isLenient then ofSigns isLenient [l.add (one (.one ')'))] count rest else .error .closing
        | o :: others => ofSigns isLenient (o.add (group l.number l.close) :: others) count rest
      | .bar =>
        ofSigns isLenient ({ l with alternatives := joined l.parts :: l.alternatives, parts := [] } :: outer) count
          rest
      | .repeated least most =>
        match l.parts with
        | [] => .error .nothingToRepeat
        | r :: parts => ofSigns isLenient ({ l with parts := times least most r :: parts } :: outer) count rest

/-- The expression of a text, or what is wrong with it. -/
def ofText (r : RegexSpelling) (cs : List Char) : Except RegexFault Regex := do
  ofSigns (r.isExtended && !r.isStrict) [⟨[], [], 0⟩] 0 (← signs r (cs.length + 1) none cs)

/-- The expression for a text that stands for itself. -/
def literal (cs : List Char) : Regex :=
  cs.foldr (fun c r => seq (one (.one c)) r) empty

end Regex
end SysReg.Shell
