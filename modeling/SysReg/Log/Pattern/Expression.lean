import SysReg.Log.Pattern.Class
import SysReg.Log.Pattern.Node
import SysReg.Text.Alphanumeric

/-!
# Regular expressions

Reading a text as a regular expression. `Node.ofText?` goes through it from left to right and keeps what
is known of each group that is open: the mode, its parts and its branches, each with its height. No
expression is nested deeper than `nestLimit`.

A counted repetition is never complete, since what is read here holds no closing brace.
-/

namespace SysReg.Log.Pattern

/-- The greatest height of an expression. -/
def nestLimit : Nat := 250

/-! ## Heads of groups -/

/-- The flags in the head of a group, each given once, of which a dash is not the last. -/
def areFlags (flags : List Char) : Bool :=
  flags.all (['i', 'm', 's', 'U', 'u', 'x', 'R', '-'].contains ·) && flags.eraseDups == flags &&
    flags.getLast? != some '-'

/-- The name of a group. -/
def isGroupName : List Char → Bool
  | [] => false
  | c :: cs =>
    (c == '_' || Text.isAlphabetic c) &&
      cs.all fun c => c == '_' || c == '.' || c == '[' || c == ']' || Text.isAlphanumeric c

/-- The head of a group. -/
inductive Head where
  /-- A group begins, in which the flags hold; the name may be empty. A group may be counted. -/
  | group (counted : Bool) (name : List Char) (flags : List Char)
  /-- Flags that hold from here on. There is nothing more to the group. -/
  | flags (flags : List Char)
  deriving DecidableEq, Repr

/-- The head of a group with a name, of which all before the name is gone. -/
def namedHead? (cs : List Char) : Option (Head × List Char) :=
  let name := cs.takeWhile (· != '>')
  match cs.dropWhile (· != '>') with
  | _ :: rest => if isGroupName name then some (.group true name [], rest) else none
  | [] => none

/-- The head of a group after its parenthesis, and the text after it. -/
def groupHead? (m : Mode) (cs : List Char) : Option (Head × List Char) :=
  match m.skip cs with
  | '?' :: 'P' :: '<' :: rest | '?' :: '<' :: rest => namedHead? rest
  | '?' :: rest =>
    let flags := rest.takeWhile fun c => c != ':' && c != ')'
    match rest.dropWhile fun c => c != ':' && c != ')' with
    | ':' :: rest => if areFlags flags then some (.group false [] flags, rest) else none
    | ')' :: rest => if !flags.isEmpty && areFlags flags then some (.flags flags, rest) else none
    | _ => none
  | rest => some (.group true [] [], rest)

/-! ## Open groups -/

/-- A part of an expression and its height. Flags are a part without a height, which cannot be repeated. -/
structure Part where
  height : Option Nat
  node : Node
  deriving DecidableEq, Repr

/-- A group that has not ended yet, or the whole expression. -/
structure OpenGroup where
  mode : Mode
  /-- The number of the group, if it is counted. -/
  number : Option Nat
  /-- The parts of the last branch, latest first. -/
  parts : List Part
  /-- The heights of the branches before it, and what they ask for, latest first. -/
  branches : List (Nat × Node)
  deriving DecidableEq, Repr

namespace OpenGroup

/-- A group in which nothing has come yet. -/
def start (mode : Mode) (number : Option Nat) : OpenGroup :=
  ⟨mode, number, [], []⟩

/-- One part more. -/
def push (g : OpenGroup) (height : Nat) (node : Node) : OpenGroup :=
  { g with parts := ⟨some height, node⟩ :: g.parts }

/-- Flags that hold from here to the end of the group. -/
def flag (g : OpenGroup) (flags : List Char) : OpenGroup :=
  { g with mode := g.mode.change true flags, parts := ⟨none, .empty⟩ :: g.parts }

/-- The last part is repeated. -/
def repeat? (g : OpenGroup) (times : Times) (fewFirst : Bool) : Option OpenGroup :=
  match g.parts with
  | ⟨some height, node⟩ :: parts =>
    some { g with parts := ⟨some (height + 1), node.times times fewFirst⟩ :: parts }
  | _ => none

/-- The height of the last branch, and what it asks for. -/
def branch (g : OpenGroup) : Nat × Node :=
  (jointHeight (g.parts.map fun part => part.height.getD 0),
    .ofParts (g.parts.reverse.map Part.node))

/-- The last branch ends and another begins. -/
def alternate (g : OpenGroup) : OpenGroup :=
  { g with parts := [], branches := g.branch :: g.branches }

/-- The height of all branches. -/
def height (g : OpenGroup) : Nat :=
  jointHeight ((g.branch :: g.branches).map (·.1))

/-- What the group asks for. -/
def node (g : OpenGroup) : Node :=
  let inside := Node.ofBranches ((g.branch :: g.branches).reverse.map (·.2))
  match g.number with
  | some number => .group number inside
  | none => inside

end OpenGroup

/-! ## Single characters -/

namespace Mode

/-- What a character stands for. -/
def literal (m : Mode) (c : Char) : Node :=
  if m.caseless then .ofSet (CharSet.single c).caseless true else .text [c]

/-- What the dot stands for. -/
def dot (m : Mode) : Node :=
  let ends : CharSet :=
    if m.dotEndsLine then .none
    else if m.returnEndsLine then .ofRanges [(10, 10), (13, 13)]
    else .single '\n'
  .ofSet ends.complement false

/-- What a circumflex stands for. -/
def circumflex (m : Mode) : Edge :=
  if m.byLine then .lineStart m.returnEndsLine else .textStart

/-- What a dollar sign stands for. -/
def dollar (m : Mode) : Edge :=
  if m.byLine then .lineEnd m.returnEndsLine else .textEnd

/-- What an escape stands for. -/
def escaped (m : Mode) : Escape → Node
  | .literal c _ => m.literal c
  | .edge e => .edge e
  | e => .ofSet e.members true

end Mode

/-! ## Expressions -/

/-- Whether a sign of repetition asks for few, and the text after it. A question mark turns round what
holds without it. -/
def afterRepetition (m : Mode) : List Char → Bool × List Char
  | '?' :: rest => (!m.fewFirst, rest)
  | rest => (m.fewFirst, rest)

/-- The repetition that a sign asks for. -/
def Times.ofSign : Char → Times
  | '*' => any
  | '+' => atLeastOnce
  | _ => atMostOnce

/-- What an expression asks for whose rest is still to be read: an open group, the groups around it,
and the names of all groups so far. Each step takes a character at least. -/
def readOn : Nat → OpenGroup → List OpenGroup → List (List Char) → List Char → Option Node
  | 0, _, _, _, _ => none
  | fuel + 1, g, around, names, cs =>
    match g.mode.skip cs with
    | [] => if around.isEmpty && g.height ≤ nestLimit then some g.node else none
    | c :: rest =>
      match c with
      | '(' =>
        match groupHead? g.mode rest with
        | none => none
        | some (.flags flags, rest) => readOn fuel (g.flag flags) around names rest
        | some (.group counted name flags, rest) =>
          if name.isEmpty || !names.contains name then
            let number := if counted then some names.length else none
            readOn fuel (.start (g.mode.change true flags) number) (g :: around) (name :: names) rest
          else none
      | ')' =>
        match around with
        | [] => none
        | outer :: around => readOn fuel (outer.push (g.height + 1) g.node) around names rest
      | '|' => readOn fuel g.alternate around names rest
      | '*' | '+' | '?' =>
        let (fewFirst, rest) := afterRepetition g.mode rest
        match g.repeat? (.ofSign c) fewFirst with
        | none => none
        | some g => readOn fuel g around names rest
      | '\x7b' => none
      | '[' =>
        match class? g.mode rest with
        | none => none
        | some (height, set, rest) =>
          readOn fuel (g.push height (.ofSet set (!g.mode.allScripts))) around names rest
      | '\\' =>
        match escape? g.mode rest with
        | none => none
        | some (e, rest) =>
          if g.mode.admitsEscape e then readOn fuel (g.push 0 (g.mode.escaped e)) around names rest
          else none
      | '^' => readOn fuel (g.push 0 (.edge g.mode.circumflex)) around names rest
      | '$' => readOn fuel (g.push 0 (.edge g.mode.dollar)) around names rest
      | '.' =>
        if g.mode.admitsDot then readOn fuel (g.push 0 g.mode.dot) around names rest else none
      | c =>
        if g.mode.admitsLiteral c false then
          readOn fuel (g.push 0 (g.mode.literal c)) around names rest
        else none

/-- What a text asks for as a regular expression, if it is one that can be used. -/
def Node.ofText? (cs : List Char) : Option Node :=
  readOn (cs.length + 1) (.start .initial none) [] [] cs

end SysReg.Log.Pattern
