import SysReg.Register.Definition

/-!
# Violations

The invariants of a register table and every way in which a list of definitions breaks them:

* names are not blank and differ pairwise, ASCII case aside;
* encodings address the system register space and differ pairwise;
* field ranges are valid; fields of one register do not overlap and have different labels;
* a flag is one bit wide, and the values of an enumeration fit into their field.

`Violation.ofList` lists all violations at once, in the order of the definitions. A field with an
invalid range is reported for that alone.
-/

namespace SysReg

/-- One broken invariant, with the definitions that take part in it. -/
inductive Violation where
  | blankName (position : Nat) (definition : Definition)
  | instructionSpace (definition : Definition)
  | duplicateName (first definition : Definition)
  | duplicateEncoding (first definition : Definition)
  | invalidRange (definition : Definition) (field : Field)
  | wideFlag (definition : Definition) (field : Field)
  | largeValue (definition : Definition) (field : Field) (value : Word) (meaning : String)
  | duplicateLabel (definition : Definition) (field : Field)
  | overlap (definition : Definition) (earlier field : Field)
  deriving DecidableEq

namespace Violation

/-- The names of the definitions that take part, the earlier one first. -/
def registers : Violation → List String
  | duplicateName first d | duplicateEncoding first d => [first.name, d.name]
  | blankName _ d | instructionSpace d | invalidRange d _ | wideFlag d _ | largeValue d _ _ _
  | duplicateLabel d _ | overlap d _ _ => [d.name]

/-- The wording of a violation. -/
def message : Violation → String
  | blankName position _ =>
    "register at position " ++ Numeral.decimal position ++ " has an empty name"
  | instructionSpace d =>
    d.name ++ ": op0 of " ++ d.encoding.canonical ++ " is " ++ Numeral.decimal d.encoding.op0 ++
      ", expected 2 or 3"
  | duplicateName first d =>
    "duplicate name: " ++ first.name ++ " and " ++ d.name
  | duplicateEncoding first d =>
    "duplicate encoding " ++ d.encoding.canonical ++ ": " ++ first.name ++ " and " ++ d.name
  | invalidRange d f =>
    d.name ++ ": field `" ++ f.label ++ "` has invalid range " ++ f.bits.bounds
  | wideFlag d f =>
    d.name ++ ": flag `" ++ f.label ++ "` spans " ++ Numeral.decimal f.bits.width ++ " bits " ++
      f.bits.text
  | largeValue d f value meaning =>
    d.name ++ ": enum `" ++ f.label ++ "` maps " ++ Numeral.decimal value.toNat ++ " (" ++ meaning ++
      ") which does not fit in " ++ f.bits.text
  | duplicateLabel d f =>
    d.name ++ ": duplicate field label `" ++ f.label ++ "`"
  | overlap d earlier f =>
    d.name ++ ": fields `" ++ earlier.label ++ "` " ++ earlier.bits.text ++ " and `" ++ f.label ++
      "` " ++ f.bits.text ++ " overlap"

/-- What a check says of each element of a list, given the elements before it. -/
def eachWithEarlier {α β : Type} (check : List α → α → List β) (earlier : List α) :
    List α → List β
  | [] => []
  | x :: rest => check earlier x ++ eachWithEarlier check (earlier ++ [x]) rest

/-! ## Within a register -/

/-- A kind that does not fit the width of its field. -/
def ofKind (d : Definition) (f : Field) : List Violation :=
  match f.kind with
  | .flag => if f.bits.width = 1 then [] else [wideFlag d f]
  | .enumerated values =>
    (values.entries.filter fun entry => Nat.pow 2 f.bits.width ≤ entry.1.toNat).map
      fun entry => largeValue d f entry.1 entry.2
  | .counter | .signed | .raw => []

/-- What a field has in common with an earlier one. -/
def ofPair (d : Definition) (f earlier : Field) : List Violation :=
  (if earlier.label = f.label then [duplicateLabel d f] else []) ++
    (if earlier.bits.IsValid ∧ earlier.bits.Overlaps f.bits then [overlap d earlier f] else [])

/-- The violations of a field, given the fields declared before it. -/
def ofField (d : Definition) (earlier : List Field) (f : Field) : List Violation :=
  if f.bits.IsValid then ofKind d f ++ earlier.flatMap (ofPair d f)
  else [invalidRange d f]

/-- The violations of the fields of a register. -/
def ofFields (d : Definition) : List Violation :=
  eachWithEarlier (ofField d) [] d.fields

/-! ## Within a table -/

/-- The name with the distinctions of ASCII case removed. -/
def foldedName (d : Definition) : List Char :=
  Text.asciiLower d.name.toList

/-- The violations of a definition, given those before it. -/
def ofDefinition (earlier : List Definition) (d : Definition) : List Violation :=
  (if (Text.trim d.name.toList).isEmpty then [blankName earlier.length d] else []) ++
  (if d.encoding.isSystemRegister then [] else [instructionSpace d]) ++
  ((earlier.find? fun first => foldedName first = foldedName d).map (duplicateName · d)).toList ++
  ((earlier.find? fun first => first.encoding = d.encoding).map (duplicateEncoding · d)).toList ++
  ofFields d

/-- Every violation of a list of definitions. -/
def ofList (definitions : List Definition) : List Violation :=
  eachWithEarlier ofDefinition [] definitions

/-- The names of all definitions that take part in a violation, each once, in order of discovery. -/
def offenders (violations : List Violation) : List String :=
  (violations.flatMap registers).eraseDups

end Violation
end SysReg
