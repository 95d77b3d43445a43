import SysReg.Log.Pattern.Edge

/-!
# The shape of expressions

What a regular expression asks for, as a tree. Nodes are put together by `Node.ofParts`,
`Node.ofBranches` and `Node.times`, which bring them into a plain shape: texts in a row are one text,
branches of one character each are one class, and parts that all branches begin with stand in front of
the branches once.
-/

namespace SysReg.Log.Pattern

/-- How often a part is repeated. -/
inductive Times where
  | any
  | atLeastOnce
  | atMostOnce
  deriving DecidableEq, Repr

/-- A regular expression, or a part of one. -/
inductive Node where
  | empty
  | text (cs : List Char)
  /-- One of some characters; it makes a difference whether the class was meant for octets. -/
  | oneOf (set : CharSet) (forOctets : Bool)
  | edge (e : Edge)
  /-- Repetitions; those that prefer to be few try to stop first. -/
  | repeated (times : Times) (fewFirst : Bool) (body : Node)
  /-- A group that is counted, with its number. -/
  | group (number : Nat) (body : Node)
  | both (first rest : Node)
  | either (first rest : Node)
  deriving DecidableEq, Repr

namespace Node

/-- A class of characters. -/
def ofSet (set : CharSet) (forOctets : Bool) : Node :=
  match set.only? with
  | some c => text [c]
  | none => oneOf set (forOctets || set.ranges.isEmpty)

/-! ## Parts in a row -/

/-- The parts that follow each other. -/
def parts : Node → List Node
  | empty => []
  | both first rest => first :: rest.parts
  | node => [node]

/-- Parts with neighbouring texts made one. -/
def joinTexts : List Node → List Node
  | [] => []
  | node :: nodes =>
    match node, joinTexts nodes with
    | text cs, text ds :: rest => text (cs ++ ds) :: rest
    | _, rest => node :: rest

/-- Parts as they are, in a row. -/
def row : List Node → Node
  | [] => empty
  | [node] => node
  | node :: nodes => both node (row nodes)

/-- Parts in a row. -/
def ofParts (nodes : List Node) : Node :=
  row (joinTexts (nodes.flatMap parts))

/-! ## Branches -/

/-- The branches of a choice. -/
def branches : Node → List Node
  | either first rest => first :: rest.branches
  | node => [node]

/-- Branches as they are, of which there is one at least. -/
def choice : List Node → Node
  | [] => oneOf .none true
  | [node] => node
  | node :: nodes => either node (choice nodes)

/-- The characters that a node of one character stands for, and whether it is a text. -/
def characters? : Node → Option CharSet
  | text [c] => some (.single c)
  | oneOf set _ => some set
  | _ => none

/-- The parts that two rows begin with alike. -/
def sharedParts : List Node → List Node → List Node
  | a :: as, b :: bs => if a = b then a :: sharedParts as bs else []
  | _, _ => []

/-- The branches, if each is a row. -/
def rows? (nodes : List Node) : Option (List (List Node)) :=
  nodes.mapM fun node => if 2 ≤ node.parts.length then some node.parts else none

/-- A choice between branches that are in their plain shape. What is left of the branches behind shared
parts is a choice again, hence the fuel. -/
def chooseFrom : Nat → List Node → Node
  | 0, nodes => choice nodes
  | fuel + 1, nodes =>
    let nodes := nodes.flatMap branches
    match nodes with
    | [] => oneOf .none true
    | [node] => node
    | _ =>
      match nodes.mapM characters? with
      | some sets => ofSet (sets.foldl CharSet.union .none) false
      | none =>
        match rows? nodes with
        | some (first :: others) =>
          match others.foldl sharedParts first with
          | [] => choice nodes
          | shared =>
            let rest := (first :: others).map fun row => ofParts (row.drop shared.length)
            ofParts (shared ++ [chooseFrom fuel rest])
        | _ => choice nodes

/-- How many nodes a node has. -/
def size : Node → Nat
  | empty | oneOf _ _ | edge _ => 1
  | text cs => cs.length + 1
  | repeated _ _ body | group _ body => body.size + 1
  | both first rest | either first rest => first.size + rest.size + 1

/-- A choice between branches. -/
def ofBranches (nodes : List Node) : Node :=
  chooseFrom ((nodes.map size).foldl (· + ·) 0 + 1) nodes

/-! ## Repetitions -/

/-- The node takes no character, whatever it matches. -/
def isBlank : Node → Bool
  | empty | edge _ => true
  | text _ | oneOf _ _ => false
  | repeated times _ body => times == .atMostOnce && body.isBlank
  | group _ body => body.isBlank
  | both first rest | either first rest => first.isBlank && rest.isBlank

/-- The least number of characters that a node takes, up to one, or `none` if that is not known
because it holds a class of no characters. -/
def least? : Node → Option Nat
  | empty | edge _ => some 0
  | text _ => some 1
  | oneOf set _ => if set.ranges.isEmpty then none else some 1
  | repeated .atLeastOnce _ body => body.least?
  | repeated _ _ body => body.least?.map fun _ => 0
  | group _ body => body.least?
  | both first rest => do return max (← first.least?) (← rest.least?)
  | either first rest => do return min (← first.least?) (← rest.least?)

/-- A node that is repeated. What takes no character is not tried twice. -/
def times (t : Times) (fewFirst : Bool) (body : Node) : Node :=
  if body.isBlank then
    match t with
    | .atLeastOnce => body
    | _ => repeated .atMostOnce fewFirst body
  else repeated t fewFirst body

end Node
end SysReg.Log.Pattern
