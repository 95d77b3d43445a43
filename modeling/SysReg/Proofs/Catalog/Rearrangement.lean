import Mathlib.Algebra.BigOperators.Group.List.Basic
import Mathlib.Algebra.GroupWithZero.Nat
import SysReg.Proofs.Catalog.Breach

/-!
# What a refusal tells

A refused table is told what it breaks, place by place, with one exception: of a field with an
invalid range only the range is told, and not that an earlier field has the same label
(`Catalog.tells_of_ofList`).  The exception depends on the order in which the fields are declared,
and `Catalog.label_untold` is a table of two fields where the repeated label is told in one order
and left out in the other.

For the rest the order does not matter.  A register is told the same number of messages about ranges
however its fields are rearranged, and the same number about labels if no label is repeated on an
invalid range.  Both numbers are sums over the fields and over pairs of fields, and a sum over pairs
does not depend on the order as far as the weight of a pair does not.
-/

namespace SysReg

/-! ## Sums over pairs -/

/-- The sum of the weights of all pairs of members, the earlier member first. -/
def sumPairs {α : Type} (weight : α → α → Nat) : List α → Nat
  | [] => 0
  | x :: xs => (xs.map (weight x)).sum + sumPairs weight xs

section

variable {α β : Type}

lemma sumPairs_zero (xs : List α) : sumPairs (fun _ _ => 0) xs = 0 := by
  induction xs with
  | nil => rfl
  | cons x xs ih => simp [sumPairs, ih]

/-- The order of a list does not matter if the order of each pair does not. -/
lemma sumPairs_perm {weight : α → α → Nat} {xs ys : List α} (h : xs.Perm ys)
    (hsymm : xs.Pairwise fun x y => weight x y = weight y x) :
    sumPairs weight xs = sumPairs weight ys := by
  induction h with
  | nil => rfl
  | cons x h ih =>
    rw [sumPairs, sumPairs, ih (List.pairwise_cons.1 hsymm).2, (h.map (weight x)).sum_eq]
  | swap x y xs =>
    have hxy : weight y x = weight x y := (List.pairwise_cons.1 hsymm).1 x List.mem_cons_self
    simp only [sumPairs, List.map_cons, List.sum_cons, hxy]
    omega
  | trans h _ ih ih' =>
    refine (ih hsymm).trans (ih' ?_)
    exact (h.pairwise_iff Eq.symm).1 hsymm

/-- A search that counts something at each element, and something for each element before it,
counts the one over all elements and the other over all pairs. -/
lemma Violation.countP_eachWithEarlier {check : List α → α → List β} {p : β → Bool} {own : α → Nat}
    (weight : α → α → Nat) (h : ∀ earlier x,
      (check earlier x).countP p = own x + (earlier.map fun y => weight y x).sum)
    (earlier xs : List α) :
    (eachWithEarlier check earlier xs).countP p =
      (xs.map own).sum + (earlier.map fun y => (xs.map (weight y)).sum).sum +
        sumPairs weight xs := by
  induction xs generalizing earlier with
  | nil => simp [eachWithEarlier, sumPairs]
  | cons x xs ih =>
    rw [eachWithEarlier, List.countP_append, h, ih, sumPairs]
    simp only [List.map_cons, List.sum_cons, List.map_append, List.sum_append, List.map_nil,
      List.sum_nil, List.sum_map_add]
    omega

/-- What pairs of members agree on is the same of both lists. -/
lemma map_eq_map_of_forall₂ {R : α → α → Prop} {f : α → β} {xs ys : List α}
    (h : List.Forall₂ R xs ys) (hR : ∀ x y, R x y → f x = f y) : xs.map f = ys.map f := by
  rw [← List.forall₂_eq_eq_eq, List.forall₂_map_left_iff, List.forall₂_map_right_iff]
  exact h.imp fun x y hxy => hR x y hxy

end

/-! ## The number of messages -/

namespace Violation

/-- The message is about ranges: an invalid one, one that the kind does not fit, or two that share a
bit. -/
def isRange : Violation → Bool
  | invalidRange _ _ | wideFlag _ _ | largeValue _ _ _ _ | overlap _ _ _ => true
  | blankName _ _ | instructionSpace _ | duplicateName _ _ | duplicateEncoding _ _
  | duplicateLabel _ _ => false

/-- The message is about a repeated label. -/
def isLabel : Violation → Bool
  | duplicateLabel _ _ => true
  | _ => false

/-- The number of messages about the range of a field alone. -/
def rangeFaults (f : Field) : Nat :=
  if f.bits.IsValid then
    match f.kind with
    | .flag => if f.bits.width = 1 then 0 else 1
    | .enumerated values =>
      (values.entries.filter fun entry => Nat.pow 2 f.bits.width ≤ entry.1.toNat).length
    | .counter | .signed | .raw => 0
  else 1

/-- The number of messages about the ranges of two fields. -/
def rangeClashes (f g : Field) : Nat :=
  if f.bits.IsValid ∧ g.bits.IsValid ∧ f.bits.Overlaps g.bits then 1 else 0

/-- The number of messages about the labels of two fields, the earlier one first. -/
def labelClashes (f g : Field) : Nat :=
  if g.bits.IsValid ∧ f.label = g.label then 1 else 0

lemma rangeClashes_comm (f g : Field) : rangeClashes f g = rangeClashes g f := by
  have hcomm : (f.bits.IsValid ∧ g.bits.IsValid ∧ f.bits.Overlaps g.bits) ↔
      g.bits.IsValid ∧ f.bits.IsValid ∧ g.bits.Overlaps f.bits := by
    rw [and_left_comm, BitRange.Overlaps, BitRange.Overlaps,
      and_comm (a := f.bits.low ≤ g.bits.high)]
  rw [rangeClashes, rangeClashes]
  exact if_congr hcomm rfl rfl

lemma labelClashes_comm {f g : Field}
    (h : f.label = g.label → f.bits.IsValid ∧ g.bits.IsValid) :
    labelClashes f g = labelClashes g f := by
  have hcomm : (g.bits.IsValid ∧ f.label = g.label) ↔ f.bits.IsValid ∧ g.label = f.label := by
    constructor
    · rintro ⟨-, hlabel⟩
      exact ⟨(h hlabel).1, hlabel.symm⟩
    · rintro ⟨-, hlabel⟩
      exact ⟨(h hlabel.symm).2, hlabel.symm⟩
  rw [labelClashes, labelClashes]
  exact if_congr hcomm rfl rfl

/-- A search through the fields counts what it says of each field alone and of each two. -/
lemma countP_ofFields (p : Violation → Bool) (d : Definition) :
    (ofFields d).countP p = (d.fields.map fun g => (ofField d [] g).countP p).sum +
      sumPairs (fun f g => if g.bits.IsValid then (ofPair d g f).countP p else 0) d.fields := by
  have hfield (earlier : List Field) (g : Field) : (ofField d earlier g).countP p =
      (ofField d [] g).countP p +
        (earlier.map fun f => if g.bits.IsValid then (ofPair d g f).countP p else 0).sum := by
    rw [ofField, ofField]
    by_cases hvalid : g.bits.IsValid
    · simp only [if_pos hvalid, List.countP_append, List.countP_flatMap, List.map_nil, List.sum_nil,
        Nat.add_zero]
      rfl
    · simp [if_neg hvalid]
  rw [ofFields, countP_eachWithEarlier _ hfield]
  rfl

/-- What is said of a field alone is about its range. -/
lemma countP_ofField_nil (d : Definition) (g : Field) :
    (ofField d [] g).countP isRange = rangeFaults g ∧ (ofField d [] g).countP isLabel = 0 := by
  rw [ofField, rangeFaults, List.flatMap_nil, List.append_nil]
  by_cases hvalid : g.bits.IsValid
  · rw [if_pos hvalid, if_pos hvalid, ofKind]
    cases g.kind with
    | flag =>
      by_cases hwidth : g.bits.width = 1
      · simp [hwidth]
      · simp [hwidth, isRange, isLabel]
    | enumerated values =>
      dsimp only
      rw [List.countP_map, List.countP_map]
      exact ⟨List.countP_eq_length.2 fun _ _ => rfl,
        List.countP_eq_zero.2 fun _ _ => Bool.false_ne_true⟩
    | counter => exact ⟨rfl, rfl⟩
    | signed => exact ⟨rfl, rfl⟩
    | raw => exact ⟨rfl, rfl⟩
  · rw [if_neg hvalid, if_neg hvalid]
    exact ⟨rfl, rfl⟩

/-- What is said of two fields is that they clash. -/
lemma countP_ofPair (d : Definition) (f g : Field) :
    (if g.bits.IsValid then (ofPair d g f).countP isRange else 0) = rangeClashes f g ∧
      (if g.bits.IsValid then (ofPair d g f).countP isLabel else 0) = labelClashes f g := by
  rw [rangeClashes, labelClashes, ofPair, List.countP_append, List.countP_append]
  by_cases hvalid : g.bits.IsValid <;> by_cases hlabel : f.label = g.label <;>
    by_cases hbits : f.bits.IsValid ∧ f.bits.Overlaps g.bits <;>
      simp [hvalid, hlabel, hbits, isRange, isLabel]

/-- The messages about ranges are those about single fields and those about two. -/
lemma countP_isRange_ofFields (d : Definition) :
    (ofFields d).countP isRange =
      (d.fields.map rangeFaults).sum + sumPairs rangeClashes d.fields := by
  rw [countP_ofFields]
  simp only [countP_ofField_nil, countP_ofPair]

/-- The messages about labels are those about two fields, the later one with a valid range. -/
lemma countP_isLabel_ofFields (d : Definition) :
    (ofFields d).countP isLabel = sumPairs labelClashes d.fields := by
  rw [countP_ofFields]
  simp [countP_ofField_nil, countP_ofPair]

/-- Messages about fields are counted register by register. -/
lemma countP_ofList {p : Violation → Bool}
    (hp : ∀ v, p v = true → v.isRange = true ∨ v.isLabel = true)
    (definitions : List Definition) :
    (ofList definitions).countP p = (definitions.map fun d => (ofFields d).countP p).sum := by
  have hnot {v : Violation} (hrange : v.isRange = false) (hlabel : v.isLabel = false) :
      p v = false := by
    refine Bool.eq_false_iff.2 fun h => ?_
    rcases hp v h with h | h
    · exact Bool.false_ne_true (hrange.symm.trans h)
    · exact Bool.false_ne_true (hlabel.symm.trans h)
  have hdefinition (earlier : List Definition) (d : Definition) :
      (ofDefinition earlier d).countP p =
        (ofFields d).countP p + (earlier.map fun _ => 0).sum := by
    have hblank : (if (Text.trim d.name.toList).isEmpty then [blankName earlier.length d]
        else []).countP p = 0 := by
      split
      · rw [List.countP_singleton, hnot rfl rfl]
        rfl
      · rfl
    have hspace : (if d.encoding.isSystemRegister then [] else [instructionSpace d]).countP p =
        0 := by
      split
      · rfl
      · rw [List.countP_singleton, hnot rfl rfl]
        rfl
    have hrepeated (found : Option Definition) (report : Definition → Violation)
        (hreport : ∀ first, p (report first) = false) :
        (found.map report).toList.countP p = 0 := by
      cases found with
      | none => rfl
      | some first =>
        rw [Option.map_some, Option.toList_some, List.countP_singleton, hreport]
        rfl
    have hnames := fun found => hrepeated found (duplicateName · d) fun _ => hnot rfl rfl
    have hencodings := fun found => hrepeated found (duplicateEncoding · d) fun _ => hnot rfl rfl
    rw [ofDefinition]
    simp only [List.countP_append, hblank, hspace, hnames, hencodings, Nat.zero_add]
    simp
  rw [ofList, countP_eachWithEarlier (fun _ _ => 0) hdefinition, sumPairs_zero]
  rfl

end Violation

/-! ## Rearranged fields -/

/-- The same register with its fields declared in another order. -/
structure Definition.Rearranges (d d' : Definition) : Prop where
  fields : d.fields.Perm d'.fields
  rest : d' = { d with fields := d'.fields }

namespace Definition.Rearranges

variable {d d' : Definition} {definitions definitions' : List Definition}

/-- Registers laid out well in another order are laid out well. -/
lemma wellLaidOut (h : d.Rearranges d') (hlayout : d'.WellLaidOut) : d.WellLaidOut := by
  obtain ⟨hvalid, hfits, hlabels, hapart⟩ := hlayout
  refine ⟨fun f hf => hvalid f (h.fields.mem_iff.1 hf), fun f hf => hfits f (h.fields.mem_iff.1 hf),
    (h.fields.pairwise_iff Ne.symm).2 hlabels, (h.fields.pairwise_iff fun hab hba => ?_).2 hapart⟩
  exact hab ⟨hba.2, hba.1⟩

/-- Fields put in another order do not mend a table. -/
lemma wellFormed (h : List.Forall₂ Rearranges definitions definitions')
    (hwell : WellFormed definitions') : WellFormed definitions := by
  obtain ⟨hnamed, hsystem, hnames, hencodings, hlayouts⟩ := hwell
  have hmember {d : Definition} (hd : d ∈ definitions) : ∃ d' ∈ definitions', d.Rearranges d' :=
    exists_mem_of_forall₂ h hd
  have hkey {β : Type} (key : Definition → β)
      (hrest : ∀ d fields, key { d with fields := fields } = key d) :
      definitions.map key = definitions'.map key := by
    refine map_eq_map_of_forall₂ h fun d d' hd => ?_
    rw [hd.rest]
    exact (hrest d d'.fields).symm
  refine ⟨fun d hd => ?_, fun d hd => ?_, ?_, ?_, fun d hd => ?_⟩
  · obtain ⟨d', hd', hdd'⟩ := hmember hd
    have hd'named := hnamed d' hd'
    rwa [hdd'.rest] at hd'named
  · obtain ⟨d', hd', hdd'⟩ := hmember hd
    have hd'system := hsystem d' hd'
    rwa [hdd'.rest] at hd'system
  · rw [← List.pairwise_map (R := (· ≠ ·)), hkey Violation.foldedName fun _ _ => rfl]
    exact List.pairwise_map.2 hnames
  · rw [← List.pairwise_map (R := (· ≠ ·)), hkey Definition.encoding fun _ _ => rfl]
    exact List.pairwise_map.2 hencodings
  · obtain ⟨d', hd', hdd'⟩ := hmember hd
    exact hdd'.wellLaidOut (hlayouts d' hd')

/-- The order of fields does not change how many messages there are about their ranges. -/
lemma countP_isRange (h : List.Forall₂ Rearranges definitions definitions') :
    (Violation.ofList definitions').countP Violation.isRange =
      (Violation.ofList definitions).countP Violation.isRange := by
  rw [Violation.countP_ofList fun _ => .inl, Violation.countP_ofList fun _ => .inl]
  refine (congrArg List.sum (map_eq_map_of_forall₂ h fun d d' hd => ?_)).symm
  have hpairs : sumPairs Violation.rangeClashes d.fields =
      sumPairs Violation.rangeClashes d'.fields :=
    sumPairs_perm hd.fields (List.pairwise_of_forall Violation.rangeClashes_comm)
  rw [Violation.countP_isRange_ofFields, Violation.countP_isRange_ofFields, hpairs,
    (hd.fields.map Violation.rangeFaults).sum_eq]

/-- Nor about their labels, if no label is repeated on an invalid range. -/
lemma countP_isLabel (h : List.Forall₂ Rearranges definitions definitions')
    (hvalid : ∀ d ∈ definitions, d.fields.Pairwise fun f g =>
      f.label = g.label → f.bits.IsValid ∧ g.bits.IsValid) :
    (Violation.ofList definitions').countP Violation.isLabel =
      (Violation.ofList definitions).countP Violation.isLabel := by
  rw [Violation.countP_ofList fun _ => .inr, Violation.countP_ofList fun _ => .inr]
  refine (congrArg List.sum (map_eq_map_of_forall₂ ((List.forall₂_and_left _ _).2 ⟨hvalid, h⟩)
    fun d d' hd => ?_)).symm
  rw [Violation.countP_isLabel_ofFields, Violation.countP_isLabel_ofFields]
  exact sumPairs_perm hd.2.fields (hd.1.imp Violation.labelClashes_comm)

end Definition.Rearranges

/-! ## Refusals -/

/-- What the violations that a table is refused with tell of it. -/
structure Violation.Tells (definitions : List Definition) (violations : List Violation) : Prop where
  /-- What is broken is told, place by place and once for each, but for what is masked. -/
  told : Told (fun p v => Breaks definitions p v ∧ ¬v.IsMasked) violations
  /-- There is a message for it. -/
  worded : ∀ p v, Breaks definitions p v → ¬v.IsMasked → v.message ∈ violations.map message
  /-- What is masked is masked by the range of the same field, and this is told. -/
  masked : ∀ p d g, Breaks definitions p (.duplicateLabel d g) → ¬g.bits.IsValid →
    .invalidRange d g ∈ violations
  /-- With its fields in another order the table is refused as well, with as many messages about
  ranges, and with as many about labels if no label is repeated on an invalid range. -/
  rearranged : ∀ definitions', List.Forall₂ Definition.Rearranges definitions definitions' →
    ∃ violations', Catalog.ofList definitions' = .error (.integrity violations') ∧
      violations'.countP isRange = violations.countP isRange ∧
      ((∀ d ∈ definitions, d.fields.Pairwise fun f g =>
        f.label = g.label → f.bits.IsValid ∧ g.bits.IsValid) →
        violations'.countP isLabel = violations.countP isLabel)

namespace Catalog

/-- **A refusal tells every breach that is not masked.**  A refused table is told what it breaks,
and the order of the fields decides about no more than the labels on invalid ranges. -/
theorem tells_of_ofList {definitions : List Definition} {failure : Failure}
    (h : ofList definitions = .error failure) :
    ∃ violations, failure = .integrity violations ∧ Violation.Tells definitions violations := by
  have hill : ¬WellFormed definitions := by
    intro hwell
    rw [ofList_of_wellFormed hwell] at h
    cases h
  have hrefused {definitions : List Definition} (hill : ¬WellFormed definitions) :
      ofList definitions = .error (.integrity (Violation.ofList definitions)) :=
    ofList_eq_error fun hnil => hill ((Violation.ofList_eq_nil_iff definitions).1 hnil)
  refine ⟨Violation.ofList definitions, Except.error.inj (h.symm.trans (hrefused hill)),
    Violation.told_ofList definitions, fun p v hbreaks hmasked => ?_,
    fun p d g hbreaks hinvalid => ?_, fun definitions' hrearranged => ?_⟩
  · exact List.mem_map_of_mem (Violation.mem_ofList_of_breaks hbreaks hmasked)
  · -- Only two fields of one register break a label, and the later one breaks its range as well.
    cases hbreaks with
    | within hd hbreaks =>
      cases hbreaks with
      | labels _ hg _ _ =>
        exact Violation.mem_ofList_of_breaks (.within hd (.range hg hinvalid)) id
  · have hill' : ¬WellFormed definitions' := fun hwell =>
      hill (Definition.Rearranges.wellFormed hrearranged hwell)
    exact ⟨_, hrefused hill', Definition.Rearranges.countP_isRange hrearranged,
      Definition.Rearranges.countP_isLabel hrearranged⟩

/-- A register with these fields. -/
def laidOut (fields : List Field) : Definition :=
  ⟨"UPMC0", .truncating 3 7 15 7 4, .uncorePerf, none, fields⟩

/-- Two counters of one name that share bits, and a field outside the register. -/
def crowded : List Field :=
  [.counter 31 0 "Count", .counter 61 31 "Count", .raw 64 62 "Rest"]

/-- In either order the register is told of two ranges and one label. -/
theorem tells_of_ofList_crowded :
    ∃ violations violations', ofList [laidOut crowded] = .error (.integrity violations) ∧
      ofList [laidOut crowded.reverse] = .error (.integrity violations') ∧
      violations.countP Violation.isRange = 2 ∧ violations'.countP Violation.isRange = 2 ∧
      violations.countP Violation.isLabel = 1 ∧ violations'.countP Violation.isLabel = 1 := by
  have hrefused : ofList [laidOut crowded] =
      .error (.integrity (Violation.ofList [laidOut crowded])) := ofList_eq_error (by decide)
  obtain ⟨violations, hviolations, htells⟩ := tells_of_ofList hrefused
  cases hviolations
  have hrearranges : (laidOut crowded).Rearranges (laidOut crowded.reverse) :=
    ⟨(List.reverse_perm crowded).symm, rfl⟩
  obtain ⟨violations', hrefused', hranges, hlabels⟩ := htells.rearranged _ (.cons hrearranges .nil)
  have htwo : (Violation.ofList [laidOut crowded]).countP Violation.isRange = 2 := by decide
  have hone : (Violation.ofList [laidOut crowded]).countP Violation.isLabel = 1 := by decide
  exact ⟨_, violations', hrefused, hrefused', htwo, hranges.trans htwo, hone,
    (hlabels (by decide)).trans hone⟩

/-- A counter and a field of the same name outside the register. -/
def homonyms : List Field :=
  [.counter 61 0 "Count", .raw 64 62 "Count"]

/-- The repeated label is not told if the field outside the register comes second, and is told if it
comes first. -/
theorem label_untold :
    (∃ v, Violation.Breaks [laidOut homonyms] (.within 0 (.labels 0 1)) v ∧
      ∃ violations, ofList [laidOut homonyms] = .error (.integrity violations) ∧
        v.message ∉ violations.map Violation.message ∧
        violations.countP Violation.isLabel = 0) ∧
    ∃ violations, ofList [laidOut homonyms.reverse] = .error (.integrity violations) ∧
      violations.countP Violation.isLabel = 1 := by
  have hrepeated := Definition.Breaks.labels (d := laidOut homonyms) (j := 0) (k := 1) rfl rfl
    Nat.zero_lt_one rfl
  refine ⟨⟨_, .within rfl hrepeated, _, ofList_eq_error (by decide), ?_, ?_⟩,
    _, ofList_eq_error (by decide), ?_⟩
  · decide
  · decide
  · decide

end Catalog
end SysReg
