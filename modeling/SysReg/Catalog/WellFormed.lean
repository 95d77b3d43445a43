import SysReg.Catalog.Violation

/-!
# Well-formed tables

The invariants of a register table, stated without the search for violations. `ofList_eq_nil_iff`
says that the search finds nothing exactly in a well-formed table.
-/

namespace SysReg

/-- The values of a field fit into its bits. -/
def Field.KindFits (f : Field) : Prop :=
  match f.kind with
  | .flag => f.bits.width = 1
  | .enumerated values => ∀ entry ∈ values.entries, entry.1.toNat < Nat.pow 2 f.bits.width
  | .counter | .signed | .raw => True

/-- Fields lie within the register, fit their kind, and are pairwise apart in label and bits. -/
structure Definition.WellLaidOut (d : Definition) : Prop where
  valid : ∀ f ∈ d.fields, f.bits.IsValid
  fits : ∀ f ∈ d.fields, f.KindFits
  labels : d.fields.Pairwise fun a b => a.label ≠ b.label
  apart : d.fields.Pairwise fun a b => ¬a.bits.Overlaps b.bits

/-- The definitions of a table keep every invariant. -/
structure WellFormed (definitions : List Definition) : Prop where
  named : ∀ d ∈ definitions, Text.trim d.name.toList ≠ []
  system : ∀ d ∈ definitions, d.encoding.isSystemRegister = true
  names : definitions.Pairwise fun a b => Violation.foldedName a ≠ Violation.foldedName b
  encodings : definitions.Pairwise fun a b => a.encoding ≠ b.encoding
  layouts : ∀ d ∈ definitions, d.WellLaidOut

namespace Violation

/-- A check that looks at an element and, one by one, at those before it finds nothing in a list
exactly if every element passes and every pair does. -/
theorem eachWithEarlier_eq_nil_iff {α β : Type} {check : List α → α → List β} {P : α → Prop}
    {R : α → α → Prop} (h : ∀ earlier x, check earlier x = [] ↔ P x ∧ ∀ y ∈ earlier, R y x)
    (earlier xs : List α) :
    eachWithEarlier check earlier xs = [] ↔
      (∀ x ∈ xs, P x) ∧ xs.Pairwise R ∧ ∀ y ∈ earlier, ∀ x ∈ xs, R y x := by
  induction xs generalizing earlier with
  | nil => simp [eachWithEarlier]
  | cons x xs ih =>
    simp only [eachWithEarlier, List.append_eq_nil_iff, h, ih, List.pairwise_cons,
      List.mem_append, List.mem_cons, List.not_mem_nil, or_false]
    constructor
    · rintro ⟨⟨hx, hex⟩, hxs, hp, he⟩
      refine ⟨?_, ⟨fun z hz => he x (.inr rfl) z hz, hp⟩, ?_⟩
      · rintro z (rfl | hz)
        · exact hx
        · exact hxs z hz
      · rintro y hy z (rfl | hz)
        · exact hex y hy
        · exact he y (.inl hy) z hz
    · rintro ⟨hall, ⟨hxp, hp⟩, he⟩
      refine ⟨⟨hall x (.inl rfl), fun y hy => he y hy x (.inl rfl)⟩,
        fun z hz => hall z (.inr hz), hp, ?_⟩
      rintro y (hy | rfl) z hz
      · exact he y hy z (.inr hz)
      · exact hxp z hz

theorem ofKind_eq_nil_iff (d : Definition) (f : Field) : ofKind d f = [] ↔ f.KindFits := by
  cases hk : f.kind <;> simp [ofKind, Field.KindFits, hk]

theorem ofField_eq_nil_iff (d : Definition) (earlier : List Field) (f : Field) :
    ofField d earlier f = [] ↔ (f.bits.IsValid ∧ f.KindFits) ∧
      ∀ y ∈ earlier, y.label ≠ f.label ∧ ¬(y.bits.IsValid ∧ y.bits.Overlaps f.bits) := by
  by_cases hv : f.bits.IsValid
  · simp [ofField, hv, ofKind_eq_nil_iff, ofPair]
  · simp [ofField, hv]

theorem ofFields_eq_nil_iff (d : Definition) : ofFields d = [] ↔ d.WellLaidOut := by
  unfold ofFields
  rw [eachWithEarlier_eq_nil_iff (ofField_eq_nil_iff d)]
  constructor
  · rintro ⟨hall, hp, -⟩
    have hvalid : ∀ f ∈ d.fields, f.bits.IsValid := fun f hf => (hall f hf).1
    refine ⟨hvalid, fun f hf => (hall f hf).2, hp.imp fun h => h.1, ?_⟩
    refine hp.imp_of_mem fun ha _ h => ?_
    exact fun ho => h.2 ⟨hvalid _ ha, ho⟩
  · rintro ⟨hvalid, hfits, hlabels, hapart⟩
    refine ⟨fun f hf => ⟨hvalid f hf, hfits f hf⟩, ?_, by simp⟩
    exact (hlabels.and hapart).imp fun h => ⟨h.1, fun ho => h.2 ho.2⟩

theorem ofDefinition_eq_nil_iff (earlier : List Definition) (d : Definition) :
    ofDefinition earlier d = [] ↔
      (Text.trim d.name.toList ≠ [] ∧ d.encoding.isSystemRegister = true ∧ d.WellLaidOut) ∧
      ∀ y ∈ earlier, foldedName y ≠ foldedName d ∧ y.encoding ≠ d.encoding := by
  simp only [ofDefinition, List.append_eq_nil_iff, ofFields_eq_nil_iff, Option.toList_eq_nil_iff,
    Option.map_eq_none_iff, List.find?_eq_none, ite_eq_right_iff, ite_eq_left_iff, List.isEmpty_iff,
    decide_eq_true_eq]
  constructor
  · rintro ⟨⟨⟨⟨h1, h2⟩, h3⟩, h4⟩, h5⟩
    refine ⟨⟨fun h => by simpa using h1 h, ?_, h5⟩, fun y hy => ⟨h3 y hy, h4 y hy⟩⟩
    by_cases hs : d.encoding.isSystemRegister = true
    · exact hs
    · simpa using h2 hs
  · rintro ⟨⟨h1, h2, h5⟩, h⟩
    exact ⟨⟨⟨⟨fun h' => absurd h' h1, fun h' => absurd h2 h'⟩, fun y hy => (h y hy).1⟩,
      fun y hy => (h y hy).2⟩, h5⟩

/-- A table without violations is well-formed, and conversely. -/
theorem ofList_eq_nil_iff (definitions : List Definition) :
    ofList definitions = [] ↔ WellFormed definitions := by
  unfold ofList
  rw [eachWithEarlier_eq_nil_iff ofDefinition_eq_nil_iff]
  constructor
  · rintro ⟨hall, hp, -⟩
    exact ⟨fun d hd => (hall d hd).1, fun d hd => (hall d hd).2.1, hp.imp fun h => h.1,
      hp.imp fun h => h.2, fun d hd => (hall d hd).2.2⟩
  · rintro ⟨h1, h2, h3, h4, h5⟩
    exact ⟨fun d hd => ⟨h1 d hd, h2 d hd, h5 d hd⟩, h3.and h4, by simp⟩

end Violation
end SysReg
