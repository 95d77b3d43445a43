import SysReg.Shell.Escape
import SysReg.Shell.Tool.Basic
import SysReg.Shell.Wildcard

/-!
# Exchanging letters

Characters of one set are exchanged for those of another, taken out, or left only once in a row.
-/

namespace SysReg.Shell.Tool

/-- A part of a set. -/
inductive SetPart where
  | these (cs : List Char)
  /-- The characters of a name, which may stand for a change of case. -/
  | named (name : String) (cs : List Char)
  /-- A character so many times, or as often as is needed. -/
  | many (c : Char) (count : Option Nat)
  deriving DecidableEq, Repr

namespace SetPart

/-- All octets. -/
def octets : List Char :=
  (List.range 256).map Char.ofNat

/-- The octets between two. -/
def between (first last : Char) : List Char :=
  (List.range' first.toNat (last.toNat + 1 - first.toNat)).map Char.ofNat

/-- The characters of a part. -/
def chars : SetPart → List Char
  | these cs => cs
  | named _ cs => cs
  | many c count => List.replicate (count.getD 0) c

/-- A character at the start of a set, and what follows it. -/
def charAt (cs : List Char) : Char × List Char :=
  match cs with
  | '\\' :: rest => (Escape.simpleAt? rest).getD (match rest with
      | c :: rest => (c, rest)
      | [] => ('\\', []))
  | c :: rest => (c, rest)
  | [] => ('\x00', [])

/-- How a character is shown in a fault. -/
def shown (c : Char) : String :=
  if ' ' ≤ c && c ≤ '~' then c.toString
  else "\\" ++ String.ofList ((Nat.toDigits 8 c.toNat).leftpad 3 '0')

/-- The parts of a set, or what is wrong with it. The number is at least that of the characters. -/
def ofChars : Nat → List Char → Except String (List SetPart)
  | 0, _ | _, [] => .ok []
  | n + 1, '[' :: ':' :: rest =>
    let name := String.ofList (rest.takeWhile (· != ':'))
    match rest.drop name.length with
    | ':' :: ']' :: after =>
      match Wildcard.namedRanges.lookup name with
      | some ranges => do
        let found := octets.filter fun c => ranges.any fun (low, high) => low ≤ c && c ≤ high
        return named name found :: (← ofChars n after)
      | none => .error ("invalid character class " ++ quoted name)
    | _ => do return these ['['] :: (← ofChars n (':' :: rest))
  | n + 1, '[' :: '=' :: c :: '=' :: ']' :: rest => do return these [c] :: (← ofChars n rest)
  | n + 1, cs => do
    let repeated? : Option (SetPart × List Char) := match cs with
      | '[' :: rest =>
        let (c, after) := charAt rest
        match after with
        | '*' :: after =>
          let digits := after.takeWhile Char.isDigit
          match after.drop digits.length with
          | ']' :: left =>
            let base := if digits.head? == some '0' then 8 else 10
            let count := digits.foldl (fun k d => base * k + (d.toNat - 48)) 0
            some (many c (if count == 0 then none else some count), left)
          | _ => none
        | _ => none
      | _ => none
    match repeated? with
    | some (part, rest) => return part :: (← ofChars n rest)
    | none =>
      let (c, rest) := charAt cs
      match rest with
      | '-' :: after =>
        if after.isEmpty then return these [c] :: (← ofChars n rest)
        else
          let (d, left) := charAt after
          if d < c then
            throw ("range-endpoints of " ++ quoted (shown c ++ "-" ++ shown d) ++
              " are in reverse collating sequence order")
          return these (between c d) :: (← ofChars n left)
      | _ => return these [c] :: (← ofChars n rest)

/-- The characters of parts that are to be so many. -/
def filled (size : Nat) (parts : List SetPart) : List Char :=
  let fixed := (parts.map fun part => part.chars.length).foldl (· + ·) 0
  parts.flatMap fun part =>
    match part with
    | many c none => List.replicate (size - fixed) c
    | part => part.chars

/-- What letters are exchanged for. -/
def exchanges (cuts : Bool) (old new : List Char) : List (Char × Char) :=
  let new := if cuts then new else new ++ List.replicate (old.length - new.length) (new.getLast?.getD '\x00')
  -- Of letters that stand in the set twice the last one counts.
  (old.zip new).reverse

end SetPart

/-- Leaves one of the characters of a set that follow each other and are alike. -/
def squeezed (isIn : Char → Bool) (cs : List Char) : List Char :=
  (cs.splitBy fun a b => a == b).flatMap fun part =>
    if part.head?.any isIn then part.take 1 else part

/-- A table for all octets. -/
def octetTable (f : Char → Char) : Array Char :=
  (SetPart.octets.map f).toArray

/-- Exchanges letters. -/
def tr : Tool := withOptions
  [plain 'c' "complement", plain 'C' "", plain 'd' "delete", plain 's' "squeeze-repeats",
    plain 't' "truncate-set1"] 1 (fun c a => do
  let deletes := a.has 'd'
  let squeezes := a.has 's'
  match a.operands with
  | [] => c.misuse 1 "missing operand"
  | [x] =>
    if !deletes && !squeezes then
      c.report ("missing operand after " ++ quoted x)
      Run.complain "Two strings must be given when translating.\n"
      c.hint
      return 1
    if deletes && squeezes then
      c.report ("missing operand after " ++ quoted x)
      Run.complain "Two strings must be given when both deleting and squeezing repeats.\n"
      c.hint
      return 1
    work c a x none
  | [x, y] =>
    if deletes && !squeezes then
      c.report ("extra operand " ++ quoted y)
      Run.complain "Only one string may be given when deleting without squeezing repeats.\n"
      c.hint
      return 1
    work c a x (some y)
  | _ :: _ :: extra :: _ => c.misuse 1 ("extra operand " ++ quoted extra)) true
where
  /-- Works with one or two sets. -/
  work (c : ToolCall) (a : Arguments) (x : String) (y : Option String) : Run Nat := do
    let isNegated := a.has 'c' || a.has 'C'
    match SetPart.ofChars x.length x.toList, (y.map fun y => SetPart.ofChars y.length y.toList).getD (.ok []) with
    | .error text, _ | _, .error text => c.fail 1 text
    | .ok first, .ok second =>
      let given := first.flatMap SetPart.chars
      let old := if isNegated then SetPart.octets.filter (!given.contains ·) else given
      let new := SetPart.filled old.length second
      let translates := y.isSome && !a.has 'd'
      if translates && new.isEmpty && !a.has 't' && !old.isEmpty then
        return ← c.fail 1 "when not truncating set1, string2 must be non-empty"
      let cases := second.filterMap fun part => match part with
        | .named name _ => some name
        | _ => none
      if translates && cases.any fun name => name != "upper" && name != "lower" then
        return ← c.fail 1
          ("when translating, the only character classes that may appear in\n" ++
            "string2 are 'upper' and 'lower'")
      let pairs := SetPart.exchanges (a.has 't') old new
      let isOld := octetTable fun c => if old.contains c then '1' else '0'
      let exchange := octetTable fun c => if translates then (pairs.lookup c).getD c else c
      let isLast := octetTable fun c =>
        if (if y.isSome then new else old).contains c then '1' else '0'
      let holds (table : Array Char) (c : Char) : Bool := table.getD c.toNat '0' == '1'
      match ← readFile "-" with
      | .error fault => c.fail 1 ("read error: " ++ fault.reason)
      | .ok text =>
        let found := if a.has 'd' then text.filter (!holds isOld ·)
          else text.map fun c => exchange.getD c.toNat c
        Run.print (String.ofList (if a.has 's' then squeezed (holds isLast) found else found))
        return 0

end SysReg.Shell.Tool
