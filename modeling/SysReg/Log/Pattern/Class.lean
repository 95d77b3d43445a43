import SysReg.Log.Pattern.Escape

/-!
# Classes in brackets

A class lists characters, ranges, named classes and further classes, and may join lists by the
operators `&&`, `--` and `~~`. Dashes at its start, or else one closing bracket, stand for themselves.

A class is scanned from left to right; `afterClass?` finds its end, how deep it is nested and what is
in it. Of the nesting only the height is kept: that of a list with more than one entry is one above its
highest entry, and brackets, operators and repetitions add one each.
-/

namespace SysReg.Log.Pattern

/-- The height of a list of parts with the given heights. -/
def jointHeight : List Nat → Nat
  | [] => 0
  | [h] => h
  | hs => hs.foldl max 0 + 1

/-! ## The parts of a class -/

/-- A named class, whether it is negated, and the text after it; its opening bracket is gone already. -/
def namedClass? : List Char → Option (CharSet × Bool × List Char)
  | ':' :: cs =>
    let (negated, cs) := match cs with
      | '^' :: rest => (true, rest)
      | rest => (false, rest)
    let name := cs.takeWhile fun c => c != ':'
    match cs.dropWhile fun c => c != ':' with
    | ':' :: ']' :: rest =>
      (CharSet.named? (String.ofList name)).map fun set =>
        (if negated then set.complement else set, negated, rest)
    | _ => none
  | _ => none

/-- One character or escape, and the text after it. -/
def member? (m : Mode) : List Char → Option (Escape × List Char)
  | '\\' :: cs => escape? m cs
  | c :: cs => some (.literal c false, cs)
  | [] => none

/-- A member or a range of members, and the text after it. A dash makes a range unless a closing
bracket or another dash follows it. -/
def item? (m : Mode) (cs : List Char) : Option (CharSet × List Char) := do
  let (low, rest) ← member? m cs
  let rest := m.skip rest
  let alone := if m.admitsItem low then some (low.members, rest) else none
  match rest with
  | '-' :: after =>
    if m.peek after = some ']' ∨ m.peek after = some '-' then alone
    else do
      let (high, rest) ← member? m (m.skip after)
      match low, high with
      | .literal first _, .literal last _ =>
        if first ≤ last && m.admitsMember first && m.admitsMember last then
          some (.ofRange first last, rest)
        else none
      | _, _ => none
  | _ => alone

/-- How two lists in a class are joined. -/
inductive Operator where
  | both
  | firstOnly
  | oneOnly
  deriving DecidableEq, Repr

namespace Operator

/-- The operator that a character is, if it stands twice. -/
def ofSign? : Char → Option Operator
  | '&' => some both
  | '-' => some firstOnly
  | '~' => some oneOnly
  | _ => none

/-- The operator that a character and the text after it begin with. -/
def ofText? (c : Char) (rest : List Char) : Option Operator :=
  if rest.head? = some c then ofSign? c else none

/-- The characters in two lists that are joined. -/
def apply : Operator → CharSet → CharSet → CharSet
  | both => CharSet.inter
  | firstOnly => CharSet.diff
  | oneOnly => CharSet.either

end Operator

/-! ## Open classes -/

/-- What stands before an operator of a class. -/
structure Operand where
  height : Nat
  set : CharSet
  operator : Operator
  deriving DecidableEq, Repr

/-- A class that has not ended yet. -/
structure OpenClass where
  negated : Bool
  left : Option Operand
  /-- The heights of the items after the last operator. -/
  items : List Nat
  /-- The characters of the items after the last operator. -/
  set : CharSet
  /-- Nothing but dashes has come. -/
  atStart : Bool
  deriving DecidableEq, Repr

namespace OpenClass

/-- One item more. -/
def push (f : OpenClass) (height : Nat) (set : CharSet) : OpenClass :=
  { f with items := height :: f.items, set := f.set.union set, atStart := false }

/-- The height of what is inside. -/
def inner (f : OpenClass) : Nat :=
  match f.left with
  | none => jointHeight f.items
  | some left => max left.height (jointHeight f.items) + 1

/-- The characters of what is inside. -/
def members (m : Mode) (f : OpenClass) : CharSet :=
  let fold (set : CharSet) : CharSet := if m.caseless then set.caseless else set
  match f.left with
  | none => fold f.set
  | some left => fold (left.operator.apply (fold left.set) (fold f.set))

/-- The characters of the class. -/
def result (m : Mode) (f : OpenClass) : CharSet :=
  if f.negated then (f.members m).complement else f.members m

/-- An operator; it joins all that came before it in the class. -/
def operate (m : Mode) (f : OpenClass) (operator : Operator) : OpenClass :=
  { f with left := some ⟨f.inner, f.members m, operator⟩, items := [], set := .none, atStart := false }

/-- The class that begins a text, whose bracket is gone already, and the text after its start. -/
def start (m : Mode) (cs : List Char) : OpenClass × List Char :=
  match m.skip cs with
  | '^' :: rest => (⟨true, none, [], .none, true⟩, rest)
  | rest => (⟨false, none, [], .none, true⟩, rest)

/-- A character stands for itself because of where it is. -/
def takes (f : OpenClass) (c : Char) : Bool :=
  f.atStart && (c == '-' || (c == ']' && f.items.isEmpty))

end OpenClass

/-- The height of an open class, its characters, and the text after its end. Each step takes a character
at least. -/
def afterClass? (m : Mode) :
    Nat → OpenClass → List OpenClass → List Char → Option (Nat × CharSet × List Char)
  | 0, _, _, _ => none
  | fuel + 1, f, around, cs =>
    match m.skip cs with
    | [] => none
    | c :: rest =>
      if f.takes c then
        if m.admitsMember c then
          afterClass? m fuel { f.push 0 (.single c) with atStart := c == '-' } around rest
        else none
      else if c = ']' then
        match m.admitsBrackets f.negated, around with
        | false, _ => none
        | true, [] => some (f.inner + 1, f.result m, rest)
        | true, outer :: around =>
          afterClass? m fuel (outer.push (f.inner + 1) (f.result m)) around rest
      else if c = '[' then
        match namedClass? rest with
        | some (set, negated, rest) =>
          if m.admitsNamedClass negated then afterClass? m fuel (f.push 0 set) around rest else none
        | none =>
          let (nested, rest) := OpenClass.start m rest
          afterClass? m fuel nested (f :: around) rest
      else
        match Operator.ofText? c rest with
        | some operator => afterClass? m fuel (f.operate m operator) around (rest.drop 1)
        | none =>
          (item? m (c :: rest)).bind fun (set, rest) =>
            afterClass? m fuel (f.push 0 set) around rest

/-- The height of the class at the front of a text, without its opening bracket, its characters, and
the text after it. -/
def class? (m : Mode) (cs : List Char) : Option (Nat × CharSet × List Char) :=
  let (f, rest) := OpenClass.start m cs
  afterClass? m (cs.length + 1) f [] rest

end SysReg.Log.Pattern
