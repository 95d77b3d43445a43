import SysReg.Catalog.WellFormed
import SysReg.Table
import SysReg.Text.Ascii

/-!
# Validation in one pass

A list of definitions is gone over once. On the way three indexes are filled with positions: by name
as it is spelled, by name without the distinctions of ASCII case, and by encoding. They tell where a
duplicate was met first, and in a catalog they answer whatever is looked up.

Only the first definition of a name or of an encoding is entered. `Indexes.Hold` says what the indexes
hold after some of the definitions: the positions that searching these definitions would find. One
definition more keeps that, and is reported as `Violation.ofDefinition` reports it
(`check_of_hold`), so the violations of a whole list are those of `Violation.ofList`
(`violations_ofList`).
-/

namespace SysReg

/-- Positions of definitions, by what they are looked up with. -/
structure Indexes where
  byName : Table String Nat
  byFoldedName : Table String Nat
  byEncoding : Table Encoding Nat

/-- The violations found among the definitions passed so far, and the indexes of these. -/
structure Validation where
  violations : List Violation
  indexes : Indexes

namespace Validation

/-! ## The pass -/

/-- No definition has been passed. -/
def start : Validation :=
  ⟨[], ⟨.empty, .empty, .empty⟩⟩

/-- Reports violations. -/
def report (v : Validation) (violations : List Violation) : Validation :=
  { v with violations := v.violations ++ violations }

/-- Enters the name of a definition in both forms, or reports the first definition that has it. -/
def enterName (definitions : List Definition) (position : Nat) (d : Definition) (v : Validation) :
    Validation :=
  match v.indexes.byFoldedName.get? (Text.fold d.name) with
  | some first => v.report (definitions[first]?.map (Violation.duplicateName · d)).toList
  | none =>
    { v with indexes := { v.indexes with
        byFoldedName := v.indexes.byFoldedName.insert (Text.fold d.name) position
        byName := v.indexes.byName.insert d.name position } }

/-- Enters the encoding of a definition, or reports the first definition that has it. -/
def enterEncoding (definitions : List Definition) (position : Nat) (d : Definition)
    (v : Validation) : Validation :=
  match v.indexes.byEncoding.get? d.encoding with
  | some first => v.report (definitions[first]?.map (Violation.duplicateEncoding · d)).toList
  | none =>
    { v with indexes := { v.indexes with
        byEncoding := v.indexes.byEncoding.insert d.encoding position } }

/-- Checks the definition at a position. -/
def check (definitions : List Definition) (v : Validation) (entry : Definition × Nat) : Validation :=
  let d := entry.1
  let position := entry.2
  let v := v.report (if (Text.trim d.name.toList).isEmpty then [.blankName position d] else [])
  let v := v.report (if d.encoding.isSystemRegister then [] else [.instructionSpace d])
  let v := v.enterName definitions position d
  let v := v.enterEncoding definitions position d
  v.report (Violation.ofFields d)

/-- Checks the definitions of a list one after the other. -/
def ofList (definitions : List Definition) : Validation :=
  definitions.zipIdx.foldl (check definitions) start

end Validation

/-! ## What the indexes hold -/

namespace Indexes

/-- What the indexes hold of the names of the definitions that have been passed. -/
structure HoldNames (ix : Indexes) (passed : List Definition) : Prop where
  folded : ∀ key, ix.byFoldedName.get? key = passed.findIdx? fun d => Text.fold d.name = key
  /-- A spelling leads to the first definition of its name, if that one is spelled so. -/
  exact : ∀ name i, ix.byName.get? name = some i ↔
    ix.byFoldedName.get? (Text.fold name) = some i ∧ ∃ d, passed[i]? = some d ∧ d.name = name

/-- What the indexes hold of the definitions that have been passed. -/
structure Hold (ix : Indexes) (passed : List Definition) : Prop extends ix.HoldNames passed where
  encoding : ∀ e, ix.byEncoding.get? e = passed.findIdx? fun d => d.encoding = e

end Indexes

theorem Violation.foldedName_eq_iff {a b : Definition} :
    foldedName a = foldedName b ↔ Text.fold a.name = Text.fold b.name := by
  rw [Text.fold, Text.fold, String.ofList_inj]
  rfl

section

variable {κ : Type} [DecidableEq κ] (key : Definition → κ) {passed : List Definition}
  {d : Definition}

/-- The position of a definition whose key is new is found under its key, and only there. -/
theorem findIdx?_append_of_new (hnew : passed.findIdx? (fun d' => key d' = key d) = none) (k : κ) :
    (passed ++ [d]).findIdx? (fun d' => key d' = k) =
      if key d = k then some passed.length else passed.findIdx? fun d' => key d' = k := by
  rw [List.findIdx?_append]
  by_cases h : key d = k
  · subst h
    simp [hnew, List.findIdx?_cons]
  · simp [h, List.findIdx?_cons]

/-- A definition whose key has been met changes no position. -/
theorem findIdx?_append_of_met {i : Nat}
    (hmet : passed.findIdx? (fun d' => key d' = key d) = some i) (k : κ) :
    (passed ++ [d]).findIdx? (fun d' => key d' = k) = passed.findIdx? fun d' => key d' = k := by
  rw [List.findIdx?_append]
  by_cases h : key d = k
  · subst h
    rw [hmet]
    rfl
  · simp [h, List.findIdx?_cons]

/-- A position that was found stands for the same definition when more of them follow. -/
theorem getElem?_append_of_findIdx? {p : Definition → Bool} {i : Nat}
    (h : passed.findIdx? p = some i) (rest : List Definition) :
    (passed ++ rest)[i]? = passed[i]? := by
  obtain ⟨hi, -⟩ := List.findIdx?_eq_some_iff_getElem.1 h
  exact List.getElem?_append_left hi

/-- The first definition stands at the first position, also when more of them follow. -/
theorem find?_eq_bind_getElem?_append (p : Definition → Bool) (rest : List Definition) :
    passed.find? p = (passed.findIdx? p).bind fun i => (passed ++ rest)[i]? := by
  rw [List.find?_eq_bind_findIdx?_getElem?]
  cases h : passed.findIdx? p with
  | none => rfl
  | some i => exact (getElem?_append_of_findIdx? h rest).symm

end

namespace Indexes.HoldNames

variable {ix : Indexes} {passed : List Definition} {d : Definition}

/-- A name that has been met is not entered again. -/
theorem append_of_met (h : ix.HoldNames passed) {first : Nat}
    (hmet : ix.byFoldedName.get? (Text.fold d.name) = some first) :
    ix.HoldNames (passed ++ [d]) where
  folded key := by
    rw [h.folded] at hmet
    rw [findIdx?_append_of_met (fun d => Text.fold d.name) hmet, h.folded]
  exact name i := by
    rw [h.exact]
    refine and_congr_right fun hi => ?_
    rw [h.folded] at hi
    rw [getElem?_append_of_findIdx? hi]

/-- A new name is entered in both forms. -/
theorem append_of_new (h : ix.HoldNames passed)
    (hnew : ix.byFoldedName.get? (Text.fold d.name) = none) :
    HoldNames { ix with
        byFoldedName := ix.byFoldedName.insert (Text.fold d.name) passed.length
        byName := ix.byName.insert d.name passed.length } (passed ++ [d]) where
  folded key := by
    have hfirst := hnew
    rw [h.folded] at hfirst
    rw [Table.get?_insert, findIdx?_append_of_new (fun d => Text.fold d.name) hfirst,
      h.folded]
  exact name i := by
    rw [Table.get?_insert, Table.get?_insert]
    by_cases hname : d.name = name
    · subst hname
      simp only [if_pos]
      constructor
      · intro hi
        cases hi
        exact ⟨rfl, d, List.getElem?_concat_length, rfl⟩
      · exact And.left
    · rw [if_neg hname, h.exact]
      by_cases hfold : Text.fold d.name = Text.fold name
      · -- The name in another case is the one just entered, and is not spelled so.
        rw [if_pos hfold, ← hfold, hnew]
        constructor
        · rintro ⟨hi, -⟩
          exact nomatch hi
        · rintro ⟨hi, d', hd', hspelled⟩
          cases hi
          rw [List.getElem?_concat_length] at hd'
          cases hd'
          exact absurd hspelled hname
      · rw [if_neg hfold]
        refine and_congr_right fun hi => ?_
        rw [h.folded] at hi
        rw [getElem?_append_of_findIdx? hi]

end Indexes.HoldNames

/-! ## One definition more -/

namespace Validation

variable {definitions passed rest : List Definition} {d : Definition} {v : Validation}

/-- The name of one definition more is entered, or reported with the first that has it. -/
theorem enterName_of_hold (hlist : definitions = passed ++ rest)
    (h : v.indexes.HoldNames passed) :
    (v.enterName definitions passed.length d).indexes.HoldNames (passed ++ [d]) ∧
    (v.enterName definitions passed.length d).indexes.byEncoding = v.indexes.byEncoding ∧
    (v.enterName definitions passed.length d).violations = v.violations ++
      ((passed.find? fun first => Violation.foldedName first = Violation.foldedName d).map
        (Violation.duplicateName · d)).toList := by
  simp only [Violation.foldedName_eq_iff, find?_eq_bind_getElem?_append _ rest, ← hlist, ← h.folded]
  cases hfirst : v.indexes.byFoldedName.get? (Text.fold d.name) with
  | some first =>
    simp only [enterName, hfirst]
    exact ⟨h.append_of_met hfirst, rfl, rfl⟩
  | none =>
    simp only [enterName, hfirst]
    exact ⟨h.append_of_new hfirst, trivial, (List.append_nil _).symm⟩

/-- The encoding of one definition more is entered, or reported with the first that has it. -/
theorem enterEncoding_of_hold (hlist : definitions = passed ++ rest)
    (hnames : v.indexes.HoldNames (passed ++ [d]))
    (h : ∀ e, v.indexes.byEncoding.get? e = passed.findIdx? fun d => d.encoding = e) :
    (v.enterEncoding definitions passed.length d).indexes.Hold (passed ++ [d]) ∧
    (v.enterEncoding definitions passed.length d).violations = v.violations ++
      ((passed.find? fun first => first.encoding = d.encoding).map
        (Violation.duplicateEncoding · d)).toList := by
  simp only [find?_eq_bind_getElem?_append _ rest, ← hlist, ← h]
  cases hfirst : v.indexes.byEncoding.get? d.encoding with
  | some first =>
    simp only [enterEncoding, hfirst]
    refine ⟨⟨hnames, fun e => ?_⟩, rfl⟩
    rw [h] at hfirst
    rw [findIdx?_append_of_met Definition.encoding hfirst, ← h]
    rfl
  | none =>
    simp only [enterEncoding, hfirst]
    refine ⟨⟨⟨hnames.folded, hnames.exact⟩, fun e => ?_⟩, (List.append_nil _).symm⟩
    rw [h] at hfirst
    rw [Table.get?_insert, findIdx?_append_of_new Definition.encoding hfirst, ← h]

/-- One definition more is entered behind those that have been passed, and reported with what it has
in common with them. -/
theorem check_of_hold (hlist : definitions = passed ++ rest) (h : v.indexes.Hold passed) :
    (check definitions v (d, passed.length)).indexes.Hold (passed ++ [d]) ∧
    (check definitions v (d, passed.length)).violations =
      v.violations ++ Violation.ofDefinition passed d := by
  -- What is wrong with the definition alone is reported before and after, and enters nothing.
  obtain ⟨hnames, hencodings, hname⟩ := enterName_of_hold hlist (d := d)
    (v := (v.report (if (Text.trim d.name.toList).isEmpty then [.blankName passed.length d] else
      [])).report (if d.encoding.isSystemRegister then [] else [.instructionSpace d]))
    h.toHoldNames
  obtain ⟨hhold, hencoding⟩ := enterEncoding_of_hold hlist hnames (hencodings ▸ h.encoding)
  refine ⟨hhold, ?_⟩
  change _ ++ Violation.ofFields d = _
  rw [hencoding, hname, Violation.ofDefinition]
  simp only [report, List.append_assoc]

/-! ## The whole list -/

/-- Some definitions more, after others have been passed and before the rest of the list. -/
theorem foldl_check_of_hold (passed : List Definition) {more : List Definition}
    (hlist : definitions = passed ++ (more ++ rest)) (h : v.indexes.Hold passed) :
    ((more.zipIdx passed.length).foldl (check definitions) v).indexes.Hold (passed ++ more) ∧
    ((more.zipIdx passed.length).foldl (check definitions) v).violations =
      v.violations ++ Violation.eachWithEarlier Violation.ofDefinition passed more := by
  induction more generalizing passed v with
  | nil =>
    rw [List.append_nil]
    exact ⟨h, (List.append_nil _).symm⟩
  | cons d more ih =>
    obtain ⟨hhold, hviolations⟩ := check_of_hold (d := d) hlist h
    have hmore := ih (passed ++ [d]) (by rw [hlist, List.append_assoc]; rfl) hhold
    rw [List.length_append, hviolations, List.append_assoc, List.append_assoc] at hmore
    exact hmore

theorem hold_start : start.indexes.Hold [] where
  folded _ := rfl
  exact _ _ := ⟨(fun h => nomatch h), fun h => nomatch h.1⟩
  encoding _ := rfl

/-- At every point of the pass the indexes hold the definitions before it, and the violations among
these have been reported. -/
theorem hold_of_passed (passed rest : List Definition) :
    (passed.zipIdx.foldl (check (passed ++ rest)) start).indexes.Hold passed ∧
    (passed.zipIdx.foldl (check (passed ++ rest)) start).violations = Violation.ofList passed :=
  foldl_check_of_hold [] rfl hold_start

/-- After the pass the indexes hold the whole list. -/
theorem hold_ofList (definitions : List Definition) :
    (ofList definitions).indexes.Hold definitions := by
  have h := (hold_of_passed definitions []).1
  rwa [List.append_nil] at h

/-- The pass finds the violations that the search for them lists. -/
theorem violations_ofList (definitions : List Definition) :
    (ofList definitions).violations = Violation.ofList definitions := by
  have h := (hold_of_passed definitions []).2
  rwa [List.append_nil] at h

/-- A list in which the pass finds nothing is well-formed. -/
theorem wellFormed_of_violations_eq_nil {definitions : List Definition}
    (h : (ofList definitions).violations = []) : WellFormed definitions :=
  (Violation.ofList_eq_nil_iff definitions).1 (violations_ofList definitions ▸ h)

end Validation
end SysReg
