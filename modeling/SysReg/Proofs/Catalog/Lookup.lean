import SysReg.Proofs.Catalog.Resolution

/-!
# Lookups reflect the list

A catalog is accepted as the list of definitions that it was made of, and every lookup then tells what
this list holds, no more and no less (`reflects_of_ofList`): the register of a name, in any ASCII
case, and the register of an encoding.

Nothing is searched for when looking up: the three indexes that validation has filled are asked for a
position.  They are filled before it is known whether the list will be accepted, and of several
definitions with one name or encoding only the first is entered.  What they hold at every point of the
pass is therefore said of the definitions before it, as the positions that a search finds there
(`Indexes.Hold`).  That no other definition fits as well is what the rest of validation has made sure
of: keys that differ pairwise leave one element of a key at most (`filter_key_eq_toList`).  For a name
this also settles the order of the two attempts.  A register found by its exact spelling has the name
in any case too, so the second attempt could not have found another one (`find?_fold_of_exact`).
-/

namespace SysReg

/-- In a list without repeated keys, the elements of a key are what searching for it finds. -/
lemma filter_key_eq_toList {α κ : Type} [DecidableEq κ] {key : α → κ} {xs : List α}
    (h : xs.Pairwise fun a b => key a ≠ key b) (k : κ) :
    (xs.filter fun x => key x = k) = (xs.find? fun x => key x = k).toList := by
  induction xs with
  | nil => rfl
  | cons first rest ih =>
    rw [List.pairwise_cons] at h
    by_cases hfirst : key first = k
    · have hrest : (rest.filter fun x => key x = k) = [] := by
        rw [List.filter_eq_nil_iff]
        intro x hx
        simpa [← hfirst] using (h.1 x hx).symm
      rw [List.filter_cons_of_pos (by simpa using hfirst), hrest,
        List.find?_cons_of_pos (by simpa using hfirst), Option.toList_some]
    · rw [List.filter_cons_of_neg (by simpa using hfirst),
        List.find?_cons_of_neg (by simpa using hfirst), ih h.2]

/-- In a list without repeated keys, at most one element is of a key. -/
lemma countP_key_le_one {α κ : Type} [DecidableEq κ] {key : α → κ} {xs : List α}
    (h : xs.Pairwise fun a b => key a ≠ key b) (k : κ) :
    (xs.countP fun x => key x = k) ≤ 1 := by
  rw [List.countP_eq_length_filter, filter_key_eq_toList h]
  cases xs.find? fun x => key x = k with
  | none => exact Nat.zero_le 1
  | some x => exact Nat.le_refl 1

namespace Catalog

variable {c : Catalog} {d : Definition} {definitions : List Definition}

/-- Every lookup tells what the list of definitions holds. -/
structure Reflects (c : Catalog) (definitions : List Definition) : Prop where
  all : c.select none = definitions
  /-- At every point of the validation, the indexes hold the definitions before it. -/
  passed : ∀ before after, definitions = before ++ after →
    (before.zipIdx.foldl (Validation.check definitions) .start).indexes.Hold before
  /-- The indexes of the catalog hold the whole list. -/
  hold : c.indexes.Hold definitions
  spelled : ∀ name, c.indexes.byName.get? name = definitions.findIdx? fun d => d.name = name
  name : ∀ name d, c.find? name = some d ↔ d ∈ definitions ∧ Text.fold d.name = Text.fold name
  name_once : ∀ name, (definitions.countP fun d => Text.fold d.name = Text.fold name) ≤ 1
  exact_first : ∀ name d, definitions.find? (·.name = name) = some d →
    definitions.find? (fun d => Text.fold d.name = Text.fold name) = some d
  encoding : ∀ e d, c.atEncoding? e = some d ↔ d ∈ definitions ∧ d.encoding = e
  encoding_once : ∀ e, (definitions.countP fun d => d.encoding = e) ≤ 1
  knows : ∀ e, c.knows e = true ↔ ∃ d ∈ definitions, d.encoding = e

lemma select_none (c : Catalog) : c.select none = c.registers :=
  List.filter_eq_self.2 fun _ _ => rfl

/-! ## Lookups -/

/-- The register with an encoding is what looking it up gives. -/
lemma atEncoding?_eq_some_iff {e : Encoding} :
    c.atEncoding? e = some d ↔ d ∈ c.registers ∧ d.encoding = e := by
  rw [atEncoding?_eq]
  exact find?_key_eq_some_iff c.wellFormed.encodings

lemma knows_iff {e : Encoding} : c.knows e = true ↔ ∃ d ∈ c.registers, d.encoding = e := by
  rw [knows_eq, Option.isSome_iff_exists]
  simp only [atEncoding?_eq_some_iff]

/-- A register found by the exact spelling of its name is the one found when case is ignored. -/
lemma find?_fold_of_exact {name : String} (h : c.registers.find? (·.name = name) = some d) :
    c.registers.find? (fun d => Text.fold d.name = Text.fold name) = some d := by
  have hname : d.name = name := by simpa using List.find?_some h
  rw [← find?_eq, find?_eq_some_iff]
  exact ⟨List.mem_of_find?_eq_some h, congrArg Text.fold hname⟩

/-- The first register of a name, ASCII case aside, is the first that is spelled so. -/
lemma byName_get? (c : Catalog) (name : String) :
    c.indexes.byName.get? name = c.registers.findIdx? fun d => d.name = name := by
  have hnames := List.pairwise_iff_getElem.1 (wellFormed_iff_kept.1 c.wellFormed).names
  ext i
  rw [c.hold_indexes.exact, c.hold_indexes.folded, List.findIdx?_eq_some_iff_getElem,
    List.findIdx?_eq_some_iff_getElem]
  simp only [decide_eq_true_eq]
  constructor
  · rintro ⟨⟨hi, -, hbefore⟩, d, hd, hname⟩
    obtain ⟨_, rfl⟩ := List.getElem?_eq_some_iff.1 hd
    exact ⟨hi, hname, fun j hj hspelled => hbefore j hj (congrArg Text.fold hspelled)⟩
  · rintro ⟨hi, hname, -⟩
    refine ⟨⟨hi, congrArg Text.fold hname, fun j hj hfold => ?_⟩, _, List.getElem?_eq_getElem hi,
      hname⟩
    exact hnames j i (Nat.lt_trans hj hi) hi hj (hfold.trans (congrArg Text.fold hname.symm))

/-- **Lookups agree with the list of registers.**  A catalog lists the definitions that it was made
of, unchanged and in order.  While they are validated, each of the three indexes holds the first
position of every key among the definitions that have been passed, so that in the end it holds those
of the whole list.  A name thus gives the one definition that has it, ASCII case aside, and the exact
spelling leads to no other; an encoding gives the one definition that has it, and is known exactly if
there is one. -/
theorem reflects_of_ofList {definitions : List Definition} {c : Catalog}
    (h : ofList definitions = .ok c) : c.Reflects definitions := by
  obtain rfl := registers_of_ofList h
  exact {
    all := c.select_none
    passed := fun before after hlist => hlist ▸ (Validation.hold_of_passed before after).1
    hold := c.hold_indexes
    spelled := c.byName_get?
    name := fun _ _ => find?_eq_some_iff
    name_once := fun name =>
      countP_key_le_one (wellFormed_iff_kept.1 c.wellFormed).names (Text.fold name)
    exact_first := fun _ _ => find?_fold_of_exact
    encoding := fun _ _ => atEncoding?_eq_some_iff
    encoding_once := countP_key_le_one c.wellFormed.encodings
    knows := fun _ => knows_iff }

/-- The fourth register is found by its name in lower case, and by its encoding although the name of
another register spells it; the first one is not found without the blank of its name. -/
theorem reflects_contested : ofList contested.registers = .ok contested ∧
    ∃ d ∈ contested.registers, d.name = "HID0" ∧ contested.find? "hid0" = some d ∧
      contested.atEncoding? d.encoding = some d ∧ contested.find? "HID1" = none := by
  have h := reflects_of_ofList (ofList_registers contested)
  have hd : (⟨"HID0", .truncating 3 0 15 0 0, .hid, none, []⟩ : Definition) ∈
      contested.registers := by decide
  refine ⟨ofList_registers contested, _, hd, rfl, (h.name _ _).2 ⟨hd, by decide⟩,
    (h.encoding _ _).2 ⟨hd, rfl⟩, ?_⟩
  rw [Option.eq_none_iff_forall_ne_some]
  intro d hfound
  obtain ⟨hmem, hname⟩ := (h.name _ _).1 hfound
  have hother : ∀ d ∈ contested.registers, Text.fold d.name ≠ Text.fold "HID1" := by decide
  exact hother d hmem hname

end Catalog
end SysReg
