import SysReg.Proofs.Catalog.Reference
import SysReg.Proofs.Decoding.Change

/-!
# Layouts of a comparison

A comparison names the fields of a change by a layout, and a layout belongs to the register at its
encoding.  Decoding a reading keeps to this and refuses the reading of another encoding.  Comparing
does not.  Where no register is at the encoding, it goes on to look for one by name, and reads the
values with the layout that it finds (`not_ownLabels_of_compare`).

`Catalog.Labels` has a case for each layout that can be taken, and the labels of a change are shown
to be these (`labels_of_compare`).  They are not those of the encoding in one case only, where the
layout of a namesake is borrowed and one of its fields changes.
-/

namespace SysReg

/-- No label is named exactly if no field changes. -/
lemma Definition.changedFields_eq_nil_iff {d : Definition} (h : d.WellLaidOut) {x y : Word} :
    d.changedFields x y = .ok [] ↔ ∀ f ∈ d.fields, ¬f.Changes x y := by
  rw [changedFields_eq_map_label h, Except.ok.injEq, List.map_eq_nil_iff, List.filter_eq_nil_iff]
  simp only [decide_eq_true_eq]

namespace Catalog

variable {c : Catalog} {a b : Snapshot} {r r' : Reading} {d : Definition} {name : String}
  {e : Encoding} {x y : Word} {fields : List String}

/-! ## Labels of a change -/

/-- The labels of two values of a register that goes by the name and encoding. -/
inductive Labels (c : Catalog) (name : String) (e : Encoding) (x y : Word) :
    List String → Prop where
  /-- They are read with the layout of the register at the encoding. -/
  | own {d : Definition} {fields : List String} (hd : d ∈ c.registers) (hencoding : d.encoding = e)
      (hfields : d.changedFields x y = .ok fields) : Labels c name e x y fields
  /-- No register is at the encoding, and they are read with the layout of its namesake. -/
  | borrowed {d : Definition} {fields : List String} (hnone : ∀ d ∈ c.registers, d.encoding ≠ e)
      (hd : d ∈ c.registers) (hname : Text.fold d.name = Text.fold name)
      (hfields : d.changedFields x y = .ok fields) : Labels c name e x y fields
  /-- No register is at the encoding or has the name, and there are no labels. -/
  | unknown (hnone : ∀ d ∈ c.registers, d.encoding ≠ e)
      (hnames : ∀ d ∈ c.registers, Text.fold d.name ≠ Text.fold name) : Labels c name e x y []

/-- The labels are those of the register at the encoding, and there are none without it. -/
structure OwnLabels (c : Catalog) (e : Encoding) (x y : Word) (fields : List String) : Prop where
  known : ∀ d ∈ c.registers, d.encoding = e → d.changedFields x y = .ok fields
  unknown : (∀ d ∈ c.registers, d.encoding ≠ e) → fields = []

/-- No register is at the encoding, and one of the same name elsewhere has a field that changes. -/
structure Misleads (c : Catalog) (name : String) (e : Encoding) (x y : Word) : Prop where
  uncatalogued : ∀ d ∈ c.registers, d.encoding ≠ e
  namesake : ∃ d ∈ c.registers, Text.fold d.name = Text.fold name ∧ ∃ f ∈ d.fields, f.Changes x y

/-- Registers at one encoding are one register. -/
lemma eq_of_encoding_eq {d' : Definition} (hd : d ∈ c.registers) (hd' : d' ∈ c.registers)
    (h : d.encoding = d'.encoding) : d = d' := by
  have hat := atEncoding?_encoding hd
  rw [h, atEncoding?_encoding hd'] at hat
  exact (Option.some.inj hat).symm

/-- Labels that are not those of the encoding come from a field of a namesake. -/
lemma Labels.ownLabels_iff (h : c.Labels name e x y fields) :
    c.OwnLabels e x y fields ↔ ¬c.Misleads name e x y := by
  cases h with
  | own hd hencoding hfields =>
    refine iff_of_true ⟨fun d' hd' hencoding' => ?_, fun hnone => ?_⟩ fun hmisleads => ?_
    · rwa [eq_of_encoding_eq hd' hd (hencoding'.trans hencoding.symm)]
    · exact absurd hencoding (hnone _ hd)
    · exact hmisleads.uncatalogued _ hd hencoding
  | @borrowed d fields hnone hd hname hfields =>
    have hnil := Definition.changedFields_eq_nil_iff (c.wellFormed.layouts d hd) (x := x) (y := y)
    constructor
    · rintro ⟨-, hunknown⟩ ⟨-, d', hd', hname', f, hf, hchanges⟩
      obtain rfl := eq_of_fold_eq hd' hd (hname'.trans hname.symm)
      obtain rfl := hunknown hnone
      exact hnil.1 hfields f hf hchanges
    · intro hnot
      refine ⟨fun d' hd' hencoding => absurd hencoding (hnone d' hd'), fun _ => ?_⟩
      have hsame := hnil.2 fun f hf hchanges => hnot ⟨hnone, d, hd, hname, f, hf, hchanges⟩
      exact Except.ok.inj (hfields.symm.trans hsame)
  | unknown hnone hnames =>
    refine iff_of_true ⟨fun d hd hencoding => absurd hencoding (hnone d hd), fun _ => rfl⟩ ?_
    rintro ⟨-, d, hd, hname, -⟩
    exact hnames d hd hname

/-! ## Changes -/

/-- The layout is looked for at the encoding first, and then by name. -/
lemma labels_iff_of_layoutOf? : c.Labels r.name r.encoding x y fields ↔
    (∃ d, c.layoutOf? r = some d ∧ d.changedFields x y = .ok fields) ∨
      (c.layoutOf? r = none ∧ fields = []) := by
  simp only [layoutOf?, Option.or_eq_some_iff, Option.or_eq_none_iff, atEncoding?_eq_some_iff,
    atEncoding?_eq_none_iff, find?_eq_some_iff, find?_eq_none_iff]
  constructor
  · rintro (⟨hd, hencoding, hfields⟩ | ⟨hnone, hd, hname, hfields⟩ | ⟨hnone, hnames⟩)
    · exact .inl ⟨_, .inl ⟨hd, hencoding⟩, hfields⟩
    · exact .inl ⟨_, .inr ⟨hnone, hd, hname⟩, hfields⟩
    · exact .inr ⟨⟨hnone, hnames⟩, rfl⟩
  · rintro (⟨d, ⟨hd, hencoding⟩ | ⟨hnone, hd, hname⟩, hfields⟩ | ⟨⟨hnone, hnames⟩, rfl⟩)
    · exact .own hd hencoding hfields
    · exact .borrowed hnone hd hname hfields
    · exact .unknown hnone hnames

/-- A register changes exactly if both readings have a value and these differ. -/
lemma changeBetween_eq_changed_iff : c.changeBetween r r' = .ok (.changed fields) ↔
    ∃ x y, r.value? = some x ∧ r'.value? = some y ∧ x ≠ y ∧
      c.Labels r.name r.encoding x y fields := by
  simp only [labels_iff_of_layoutOf?]
  unfold changeBetween
  cases r.value? with
  | none => simp
  | some x =>
    cases r'.value? with
    | none => simp
    | some y =>
      by_cases hxy : x = y
      · simp [hxy]
      · cases c.layoutOf? r with
        | none => simp [hxy, eq_comm]
        | some d =>
          cases hd : d.changedFields x y <;> simp [hxy, hd, Except.map]

/-- **A change is labelled by the register at its encoding, or else by its namesake.**  A comparison
always succeeds, and marks a register as changed exactly if it has two different values, with the
labels of these.  They are the labels of the register at the encoding unless there is none and one
of the same name, elsewhere, has a field that changes. -/
theorem labels_of_compare (c : Catalog) (a b : Snapshot) :
    ∃ d, c.compare a b = .ok d ∧ ∀ entry ∈ d.entries,
      (∀ fields, entry.change = .changed fields ↔ ∃ x y, entry.before = some x ∧
        entry.after = some y ∧ x ≠ y ∧ c.Labels entry.name entry.encoding x y fields) ∧
      ∀ x y fields, entry.before = some x → entry.after = some y →
        entry.change = .changed fields →
          (c.OwnLabels entry.encoding x y fields ↔
            ¬c.Misleads entry.name entry.encoding x y) := by
  obtain ⟨d, hd⟩ := c.exists_compare a b
  refine ⟨d, hd, fun entry hentry => ?_⟩
  have hlabels (fields : List String) : entry.change = .changed fields ↔
      ∃ x y, entry.before = some x ∧ entry.after = some y ∧ x ≠ y ∧
        c.Labels entry.name entry.encoding x y fields := by
    cases (mem_entries_iff hd).1 hentry with
    | removed r ha hb => simp
    | added r ha hb => simp
    | kept r r' change ha hb hregister hchange =>
      rw [← changeBetween_eq_changed_iff, hchange, Except.ok.injEq]
  refine ⟨hlabels, fun x y fields hx hy hchange => ?_⟩
  obtain ⟨x', y', hx', hy', -, hfields⟩ := (hlabels fields).1 hchange
  obtain rfl := Option.some.inj (hx.symm.trans hx')
  obtain rfl := Option.some.inj (hy.symm.trans hy')
  exact hfields.ownLabels_iff

/-- A reading that bears the name of the counter but was taken from the register next to it. -/
def stray (w : Word) : Snapshot where
  label := "stray"
  filter := none
  createdAt := .epoch
  readings := [⟨"UPMC0", .truncating 3 7 15 7 5, .epoch, .value w⟩]
  distinct := List.pairwise_singleton _ _

lemma compare_stray : overflowing.compare (stray 0) (stray 1) =
    .ok ⟨[⟨"UPMC0", .truncating 3 7 15 7 5, some 0, some 1, .changed ["Count"]⟩]⟩ := by
  decide +kernel

/-- No register is at the encoding of the reading, and the field of the counter is named. -/
theorem labels_of_compare_stray : ∃ d, overflowing.compare (stray 0) (stray 1) = .ok d ∧
    ∃ entry ∈ d.entries, entry.change = .changed ["Count"] ∧
      overflowing.Labels entry.name entry.encoding 0 1 ["Count"] ∧
      overflowing.Misleads entry.name entry.encoding 0 1 ∧
      ¬overflowing.OwnLabels entry.encoding 0 1 ["Count"] := by
  obtain ⟨d, hd, hentries⟩ := labels_of_compare overflowing (stray 0) (stray 1)
  obtain rfl := Except.ok.inj (compare_stray.symm.trans hd)
  obtain ⟨hlabels, hown⟩ := hentries _ List.mem_cons_self
  obtain ⟨x, y, hx, hy, -, hcount⟩ := (hlabels ["Count"]).1 rfl
  cases hx
  cases hy
  have hchanges : (Field.counter 61 0 "Count").Changes 0 1 :=
    ⟨⟨0, by decide, by decide, by decide⟩, nofun⟩
  have hmisleads : overflowing.Misleads "UPMC0" (.truncating 3 7 15 7 5) 0 1 :=
    ⟨by decide, _, List.mem_cons_self, rfl, _, List.mem_cons_self, hchanges⟩
  exact ⟨_, hd, _, List.mem_cons_self, rfl, hcount, hmisleads,
    fun h => (hown 0 1 ["Count"] rfl rfl rfl).1 h hmisleads⟩

/-- So the labels of a change are not always those of the register at its encoding. -/
theorem not_ownLabels_of_compare : ¬∀ (c : Catalog) (a b : Snapshot) (d : Comparison),
    c.compare a b = .ok d → ∀ entry ∈ d.entries, ∀ x y fields, entry.before = some x →
      entry.after = some y → entry.change = .changed fields →
        c.OwnLabels entry.encoding x y fields := by
  intro h
  have hown := h _ _ _ _ compare_stray _ List.mem_cons_self 0 1 ["Count"] rfl rfl rfl
  exact nomatch hown.unknown (by decide)

end Catalog
end SysReg
