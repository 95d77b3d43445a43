import SysReg.Catalog.Validation
import SysReg.Failure

/-!
# Catalogs

A catalog is a well-formed list of register definitions together with the indexes that validating it
has filled. It is built by `Catalog.ofList`, which refuses any other list with all its violations, and
it never changes afterwards. What is looked up is looked up in the indexes, which lead to positions in
the list.
-/

namespace SysReg

/-- Register definitions that keep every invariant of a table, and the indexes of these. -/
structure Catalog where
  registers : List Definition
  wellFormed : WellFormed registers
  indexes : Indexes := (Validation.ofList registers).indexes
  /-- The indexes are the ones with which the registers were validated. -/
  filled : indexes = (Validation.ofList registers).indexes := by rfl

namespace Catalog

/-- The catalog of a list of definitions, or all the invariants that the list breaks. -/
def ofList (definitions : List Definition) : Except Failure Catalog :=
  let found := Validation.ofList definitions
  if h : found.violations = [] then
    .ok {
      registers := definitions
      wellFormed := Validation.wellFormed_of_violations_eq_nil h
      indexes := found.indexes }
  else .error (.integrity found.violations)

/-- A well-formed list is accepted as it stands. -/
theorem ofList_of_wellFormed {definitions : List Definition} (h : WellFormed definitions) :
    ofList definitions = .ok { registers := definitions, wellFormed := h } :=
  dif_pos ((Validation.violations_ofList _).trans ((Violation.ofList_eq_nil_iff _).2 h))

/-- A list with violations is refused with all of them. -/
theorem ofList_eq_error {definitions : List Definition} (h : Violation.ofList definitions ≠ []) :
    ofList definitions = .error (.integrity (Violation.ofList definitions)) := by
  rw [← Validation.violations_ofList] at h ⊢
  exact dif_neg h

/-- The registers of a catalog are a list that is accepted. -/
theorem ofList_registers (c : Catalog) : ofList c.registers = .ok c := by
  obtain ⟨registers, wellFormed, indexes, rfl⟩ := c
  exact ofList_of_wellFormed wellFormed

/-- A catalog is the list that it was made of. -/
theorem registers_of_ofList {definitions : List Definition} {c : Catalog}
    (h : ofList definitions = .ok c) : c.registers = definitions := by
  simp only [ofList] at h
  split at h
  · cases h
    rfl
  · cases h

/-- The number of registers. -/
def size (c : Catalog) : Nat :=
  c.registers.length

/-- The register with the name: spelled exactly so, or else up to ASCII case. -/
def find? (c : Catalog) (name : String) : Option Definition :=
  ((c.indexes.byName.get? name).or (c.indexes.byFoldedName.get? (Text.fold name))).bind
    fun i => c.registers[i]?

/-- The register with the encoding. -/
def atEncoding? (c : Catalog) (e : Encoding) : Option Definition :=
  (c.indexes.byEncoding.get? e).bind fun i => c.registers[i]?

/-- Whether a register has the encoding. -/
def knows (c : Catalog) (e : Encoding) : Bool :=
  c.indexes.byEncoding.contains e

theorem hold_indexes (c : Catalog) : c.indexes.Hold c.registers :=
  c.filled ▸ Validation.hold_ofList c.registers

/-- A name leads to the first register that has it in any case. -/
theorem find?_eq (c : Catalog) (name : String) :
    c.find? name = c.registers.find? fun d => Text.fold d.name = Text.fold name := by
  have hfolded : (c.indexes.byName.get? name).or (c.indexes.byFoldedName.get? (Text.fold name)) =
      c.indexes.byFoldedName.get? (Text.fold name) := by
    cases hexact : c.indexes.byName.get? name with
    | none => rfl
    | some i => exact ((c.hold_indexes.exact name i).1 hexact).1.symm
  rw [find?, hfolded, c.hold_indexes.folded, ← List.find?_eq_bind_findIdx?_getElem?]

/-- An encoding leads to the first register that has it. -/
theorem atEncoding?_eq (c : Catalog) (e : Encoding) :
    c.atEncoding? e = c.registers.find? fun d => d.encoding = e := by
  rw [atEncoding?, c.hold_indexes.encoding, ← List.find?_eq_bind_findIdx?_getElem?]

/-- An encoding is known if it leads to a register. -/
theorem knows_eq (c : Catalog) (e : Encoding) : c.knows e = (c.atEncoding? e).isSome := by
  rw [knows, Table.contains_eq_isSome_get?, atEncoding?_eq, c.hold_indexes.encoding,
    List.findIdx?_isSome, Bool.eq_iff_iff, List.find?_isSome, List.any_eq_true]

/-- The registers of a category, or all of them, in the order of the table. -/
def select (c : Catalog) (filter : Option Category) : List Definition :=
  c.registers.filter fun d => filter.all (d.category = ·)

/-- Counts one more occurrence of a category. -/
def count (category : Category) : List (Category × Nat) → List (Category × Nat)
  | [] => [(category, 1)]
  | entry :: rest =>
    if entry.1 = category then (entry.1, entry.2 + 1) :: rest else entry :: count category rest

/-- The categories that occur, in the order of their first register, with the number of registers
of each. -/
def categories (c : Catalog) : List (Category × Nat) :=
  c.registers.foldl (fun counts d => count d.category counts) []

/-- The register that a text names. A text is taken as a name first, blanks around it and ASCII
case aside, then as an encoding in either notation. A text that looks like an encoding and is none
is refused for that; any other text that names nothing here is unresolved. -/
def resolve (c : Catalog) (text : String) : Except Failure Definition :=
  match c.find? (Text.trimmed text) with
  | some d => .ok d
  | none =>
    match Encoding.ofNotation text with
    | .ok e =>
      match c.atEncoding? e with
      | some d => .ok d
      | none => .error (.unresolved text)
    | .error fault =>
      if Encoding.looksLikeNotation text then .error (.encoding fault)
      else .error (.unresolved text)

end Catalog

/-- A register to act on: one of the catalog, or a bare encoding outside it. -/
inductive Target where
  | known (definition : Definition)
  | bare (encoding : Encoding)
  deriving DecidableEq

namespace Target

/-- The encoding to act on. -/
def encoding : Target → Encoding
  | known d => d.encoding
  | bare e => e

/-- The name under which the register is reported. -/
def name : Target → String
  | known d => d.name
  | bare e => e.canonical

end Target

/-- The register that a text names, a well-formed encoding outside the catalog included. -/
def Catalog.target (c : Catalog) (text : String) : Except Failure Target :=
  match c.resolve text with
  | .ok d => .ok (.known d)
  | .error (.unresolved name) =>
    match Encoding.ofNotation text with
    | .ok e => .ok (.bare e)
    | .error _ => .error (.unresolved name)
  | .error failure => .error failure

end SysReg
