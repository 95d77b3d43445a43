import SysReg.FileTree
import SysReg.Shell.Arithmetic
import SysReg.Shell.Fault

/-!
# Conditions

The words behind `test` are a condition on texts, numbers and files. What a word is depends on those
around it: an operator may also be a text.
-/

namespace SysReg.Shell

/-- What a word of a condition may be, if it is no mere text. -/
inductive ConditionWord where
  | unary
  | binary
  | negation
  | both
  | either
  | opening
  | closing
  deriving DecidableEq, Repr

namespace Condition

/-- The operators of one operand. -/
def unaryOperators : List String :=
  ["-r", "-w", "-x", "-e", "-f", "-d", "-c", "-b", "-p", "-u", "-g", "-k", "-s", "-t", "-z", "-n",
    "-h", "-O", "-G", "-L", "-S"]

/-- The operators of two operands. -/
def binaryOperators : List String :=
  ["=", "!=", "<", ">", "-eq", "-ne", "-ge", "-gt", "-le", "-lt", "-nt", "-ot", "-ef"]

/-- What a word may be. -/
def wordOf? (d : Dialect) (text : String) : Option ConditionWord :=
  if unaryOperators.contains text then some .unary
  else if binaryOperators.contains text || (d == .extended && text == "==") then some .binary
  else [("!", .negation), ("-a", .both), ("-o", .either), ("(", .opening), (")", .closing)].lookup text

/-! ## Operators -/

/-- The path leads to something of a kind. -/
def isKind (t : FileTree) (path : String) (kind : FileNode → Bool) : Bool :=
  ((t.find path).toOption).any kind

/-- The file of a path has something in it. -/
def hasContent (node : FileNode) : Bool :=
  match node with
  | .file octets _ => !octets.isEmpty
  | .directory => true
  | _ => false

/-- An operand as a number. -/
def number (d : Dialect) (text : String) : Except String Int :=
  match Arithmetic.ofText? true text, d with
  | some n, _ => .ok n
  | none, .plain => .error ("Illegal number: " ++ text)
  | none, .extended => .error (text ++ ": integer expression expected")

/-- A condition with one operand. -/
def unary (d : Dialect) (t : FileTree) (operator a : String) : Except String Bool :=
  match operator with
  | "-n" => .ok !a.isEmpty
  | "-z" => .ok a.isEmpty
  | "-t" => (number d a).map fun _ => false
  | "-e" | "-r" | "-w" | "-O" | "-G" => .ok (isKind t a fun _ => true)
  | "-f" => .ok (isKind t a fun node => match node with
    | .file _ _ => true
    | _ => false)
  | "-d" => .ok (isKind t a FileNode.isDirectory)
  | "-c" => .ok (isKind t a fun node => match node with
    | .device _ => true
    | _ => false)
  | "-s" => .ok (isKind t a hasContent)
  | "-x" => .ok (isKind t a fun node => match node with
    | .file _ runnable => runnable
    | .device _ => false
    | _ => true)
  | "-h" | "-L" => .ok (((t.locate false a).toOption).any fun found => match found.2 with
    | .link _ => true
    | _ => false)
  | _ => .ok false

/-- A condition with two operands. -/
def binary (d : Dialect) (t : FileTree) (a operator b : String) : Except String Bool :=
  let numbers (f : Int → Int → Bool) : Except String Bool := do
    let x ← number d a
    let y ← number d b
    return f x y
  let place (path : String) : Option (List String) := ((t.locate true path).toOption).map (·.1)
  match operator with
  | "!=" => .ok (a != b)
  | "<" => .ok (a < b)
  | ">" => .ok (b < a)
  | "-eq" => numbers (· == ·)
  | "-ne" => numbers (· != ·)
  | "-lt" => numbers (· < ·)
  | "-le" => numbers (· ≤ ·)
  | "-gt" => numbers fun x y => y < x
  | "-ge" => numbers fun x y => y ≤ x
  -- All that is there is of one time. For one kind of shell it is newer than what is not.
  | "-nt" => .ok (d == .extended && (place a).isSome && (place b).isNone)
  | "-ot" => .ok (d == .extended && (place a).isNone && (place b).isSome)
  | "-ef" => .ok ((place a).isSome && place a == place b)
  | _ => .ok (a == b)

/-! ## Reading from left to right -/

/-- The first of some words, as it stands in front of the others. An operator of one operand is a text if
it has none, or if it is the first operand of another operator. -/
def lead? (words : List String) : Option ConditionWord :=
  match words with
  | [] => none
  | [word] =>
    match wordOf? .plain word with
    | some .unary | some .opening => none
    | found => found
  | word :: next :: rest =>
    match wordOf? .plain word with
    | some .unary =>
      if !rest.isEmpty && wordOf? .plain next == some .binary then none else some .unary
    | found => found

section

variable (t : FileTree)

/-- What a condition says, given how its first word is to be taken, and the words from its last on. The
choices in brackets are read by a reader, and the number is greater than that of the words. -/
def simple (choices : List String → Except String (Bool × List String)) :
    Nat → Option ConditionWord → List String → Except String (Bool × List String)
  | 0, _, words => .ok (false, words)
  | n + 1, kind, words =>
    match kind, words with
    | _, [] => .ok (false, [])
    | some .negation, _ :: rest =>
      if rest.isEmpty then .ok (true, words)
      else do
        let (holds, left) ← simple choices n (lead? rest) rest
        return (!holds, left)
    | some .opening, _ :: rest =>
      if lead? rest == some .closing then .ok (false, rest)
      else do
        let (holds, left) ← choices rest
        if lead? (left.drop 1) == some .closing then return (holds, left.drop 1)
        else throw "closing paren expected"
    | some .unary, operator :: rest =>
      match rest with
      | [] => .error (operator ++ ": argument expected")
      | a :: _ => (unary .plain t operator a).map (·, rest)
    | _, a :: rest =>
      if lead? rest == some .binary then
        match rest with
        | operator :: b :: after => (binary .plain t a operator b).map (·, b :: after)
        | operator :: [] => .error (operator ++ ": argument expected")
        | [] => .ok (false, [])
      else .ok (!a.isEmpty, words)

/-- Conditions of which one or all have to hold. Behind each the word that joins it to the next is the
first but one of what is left. -/
def joined (joint : ConditionWord) (part : Option ConditionWord → List String →
    Except String (Bool × List String)) (combine : Bool → Bool → Bool) :
    Nat → Option ConditionWord → List String → Except String (Bool × List String)
  | 0, _, words => .ok (false, words)
  | n + 1, kind, words => do
    let (holds, left) ← part kind words
    if lead? (left.drop 1) == some joint then
      let rest := left.drop 2
      let (others, left) ← joined joint part combine n (lead? rest) rest
      return (combine holds others, left)
    else return (holds, left)

/-- A condition whose first word is to be taken in a way. The number bounds how deep brackets are
nested. -/
def choices : Nat → Option ConditionWord → List String → Except String (Bool × List String)
  | 0, _, words => .ok (false, words)
  | n + 1, kind, words =>
    let inside (words : List String) := choices n (lead? words) words
    joined .either
      (joined .both (simple t inside (words.length + 1)) (· && ·) (words.length + 1))
      (· || ·) (words.length + 1) kind words

/-- The words hold, the first of which is to be taken in a way. -/
def whole (kind : Option ConditionWord) (words : List String) : Except String Bool := do
  let (holds, left) ← choices t (words.length + 1) kind words
  match left with
  | word :: _ :: _ => throw (if word.isEmpty then "unexpected operator" else word ++ ": unexpected operator")
  | _ => return holds

/-- The words hold. Three of them are taken as one operator with its operands if they can be. The number
is greater than that of the words. -/
def plain : Nat → List String → Except String Bool
  | 0, _ => .ok false
  | n + 1, words =>
    let others (words : List String) : Except String Bool :=
      if words.head? == some "(" && words.getLast? == some ")" then
        let inside := (words.drop 1).dropLast
        whole t (lead? inside) inside
      else if words.head? == some "!" then (plain n (words.drop 1)).map (!·)
      else whole t (lead? words) words
    match words with
    | [] => .ok false
    | [_, operator, _] =>
      if wordOf? .plain operator == some .binary then whole t none words else others words
    | [_, _, _, _] => others words
    | _ => whole t (lead? words) words

/-! ## Reading by the number of words -/

/-- The words hold, by how many they are. The number is greater than that of the words. -/
def counted : Nat → List String → Except String Bool
  | 0, _ | _, [] => .ok false
  | _, [a] => .ok !a.isEmpty
  | n + 1, [a, b] =>
    if a == "!" then (counted n [b]).map (!·)
    else if wordOf? .extended a == some .unary || a == "-a" then
      unary .extended t (if a == "-a" then "-e" else a) b
    else .error (a ++ ": unary operator expected")
  | n + 1, [a, b, c] =>
    if wordOf? .extended b == some .binary then binary .extended t a b c
    else if b == "-a" then .ok (!a.isEmpty && !c.isEmpty)
    else if b == "-o" then .ok (!a.isEmpty || !c.isEmpty)
    else if a == "!" then (counted n [b, c]).map (!·)
    else if a == "(" && c == ")" then .ok !b.isEmpty
    else .error (b ++ ": binary operator expected")
  | n + 1, a :: rest =>
    if rest.length == 3 && a == "!" then (counted n rest).map (!·)
    else
      match plain t (rest.length + 2) ((a :: rest).map fun word => if word == "==" then "=" else word) with
      | .ok holds => .ok holds
      | .error _ => .error "too many arguments"

end

/-- The words of a condition hold, or what is wrong with them. -/
def holds (d : Dialect) (t : FileTree) (words : List String) : Except String Bool :=
  match d with
  | .plain => plain t (words.length + 1) words
  | .extended => counted t (words.length + 1) words

end Condition
end SysReg.Shell
