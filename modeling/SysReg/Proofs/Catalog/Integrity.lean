import Mathlib.Algebra.Group.Nat.Defs
import Mathlib.Order.Fin.Basic
import SysReg.Catalog.Basic
import SysReg.Proofs.Text.Blank

/-!
# Validation of register tables

`Catalog.ofList` accepts a table exactly if it keeps the nine invariants of `Kept`, and a refusal
names exactly the registers that take part in breaking one (`ofList_exact`).  Both sides are said
without the search for violations: `Kept` is a condition on the list, and `TakesPart` says of one
position of the list how its register breaks an invariant, alone or together with another one.

The search reports a duplicate once, at its later position, with the first register that holds the
key.  `exists_first_iff` is why nobody is missed all the same, three registers with one key
included: a register that shares its key either has a holder before it and is reported with that
one, or is itself the first holder and is reported with the next.
-/

namespace SysReg

/-! ## The invariants -/

/-- The bit lies in the field. -/
def Field.Covers (f : Field) (k : Nat) : Prop :=
  f.bits.low ≤ k ∧ k ≤ f.bits.high

/-- The values of an enumeration all fit into the bits of the field. -/
def Field.ValuesFit (f : Field) : Prop :=
  ∀ values, f.kind = .enumerated values → ∀ entry ∈ values.entries, entry.1.toNat < 2 ^ f.bits.width

/-- The invariants of a register table. -/
structure Kept (definitions : List Definition) : Prop where
  named : ∀ d ∈ definitions, ∃ c ∈ d.name.toList, Text.isBlank c = false
  names : definitions.Pairwise fun a b => Text.fold a.name ≠ Text.fold b.name
  encodings : definitions.Pairwise fun a b => a.encoding ≠ b.encoding
  system : ∀ d ∈ definitions, d.encoding.op0 = 2 ∨ d.encoding.op0 = 3
  ranges : ∀ d ∈ definitions, ∀ f ∈ d.fields, f.bits.low ≤ f.bits.high ∧ f.bits.high ≤ 63
  flags : ∀ d ∈ definitions, ∀ f ∈ d.fields, f.kind = .flag → f.bits.width = 1
  values : ∀ d ∈ definitions, ∀ f ∈ d.fields, f.ValuesFit
  labels : ∀ d ∈ definitions, d.fields.Pairwise fun a b => a.label ≠ b.label
  apart : ∀ d ∈ definitions, d.fields.Pairwise fun a b => ∀ k, ¬(a.Covers k ∧ b.Covers k)

/-- The register at a position of a table takes part in breaking an invariant. -/
inductive TakesPart (definitions : List Definition) (i : Fin definitions.length) : Prop where
  | blank (h : ∀ c ∈ definitions[i].name.toList, Text.isBlank c = true)
  | name (j : Fin definitions.length) (hne : j ≠ i)
      (h : Text.fold definitions[j].name = Text.fold definitions[i].name)
  | encoding (j : Fin definitions.length) (hne : j ≠ i)
      (h : definitions[j].encoding = definitions[i].encoding)
  | space (h : definitions[i].encoding.op0 ≠ 2 ∧ definitions[i].encoding.op0 ≠ 3)
  | range (f : Field) (hf : f ∈ definitions[i].fields)
      (h : ¬(f.bits.low ≤ f.bits.high ∧ f.bits.high ≤ 63))
  | flag (f : Field) (hf : f ∈ definitions[i].fields) (hk : f.kind = .flag) (h : f.bits.width ≠ 1)
  | value (f : Field) (hf : f ∈ definitions[i].fields) (h : ¬f.ValuesFit)
  | label (h : ¬definitions[i].fields.Pairwise fun a b => a.label ≠ b.label)
  | overlap (h : ¬definitions[i].fields.Pairwise fun a b => ∀ k, ¬(a.Covers k ∧ b.Covers k))

/-! ## Within a register -/

lemma Field.kindFits_iff {f : Field} :
    f.KindFits ↔ (f.kind = .flag → f.bits.width = 1) ∧ f.ValuesFit := by
  unfold KindFits ValuesFit
  cases f.kind <;> simp

/-- Two ranges that are not inverted overlap exactly if they share a bit. -/
lemma Field.overlaps_iff {a b : Field} (ha : a.bits.IsValid) (hb : b.bits.IsValid) :
    a.bits.Overlaps b.bits ↔ ∃ k, a.Covers k ∧ b.Covers k := by
  obtain ⟨ha, -⟩ := ha
  obtain ⟨hb, -⟩ := hb
  constructor
  · rintro ⟨hab, hba⟩
    by_cases hlow : a.bits.low ≤ b.bits.low
    · exact ⟨b.bits.low, ⟨hlow, hba⟩, Nat.le_refl _, hb⟩
    · exact ⟨a.bits.low, ⟨Nat.le_refl _, ha⟩, Nat.le_of_not_le hlow, hab⟩
  · rintro ⟨k, ⟨hak, hka⟩, hbk, hkb⟩
    exact ⟨Nat.le_trans hak hkb, Nat.le_trans hbk hka⟩

lemma pairwise_not_overlaps_iff {fields : List Field} (hv : ∀ f ∈ fields, f.bits.IsValid) :
    (fields.Pairwise fun a b => ¬a.bits.Overlaps b.bits) ↔
      fields.Pairwise fun a b => ∀ k, ¬(a.Covers k ∧ b.Covers k) := by
  refine List.Pairwise.iff_of_mem fun ha hb => ?_
  rw [Field.overlaps_iff (hv _ ha) (hv _ hb), not_exists]

lemma Definition.wellLaidOut_iff {d : Definition} :
    d.WellLaidOut ↔
      (∀ f ∈ d.fields, f.bits.low ≤ f.bits.high ∧ f.bits.high ≤ 63) ∧
      (∀ f ∈ d.fields, f.kind = .flag → f.bits.width = 1) ∧
      (∀ f ∈ d.fields, f.ValuesFit) ∧
      (d.fields.Pairwise fun a b => a.label ≠ b.label) ∧
      d.fields.Pairwise fun a b => ∀ k, ¬(a.Covers k ∧ b.Covers k) := by
  constructor
  · rintro ⟨hvalid, hfits, hlabels, hapart⟩
    exact ⟨hvalid, fun f hf => (Field.kindFits_iff.1 (hfits f hf)).1,
      fun f hf => (Field.kindFits_iff.1 (hfits f hf)).2, hlabels,
      (pairwise_not_overlaps_iff hvalid).1 hapart⟩
  · rintro ⟨hvalid, hflags, hvalues, hlabels, hapart⟩
    exact ⟨hvalid, fun f hf => Field.kindFits_iff.2 ⟨hflags f hf, hvalues f hf⟩, hlabels,
      (pairwise_not_overlaps_iff hvalid).2 hapart⟩

/-- The search finds nothing exactly in the tables that keep the invariants. -/
lemma wellFormed_iff_kept {definitions : List Definition} :
    WellFormed definitions ↔ Kept definitions := by
  have hnamed (d : Definition) :
      Text.trim d.name.toList ≠ [] ↔ ∃ c ∈ d.name.toList, Text.isBlank c = false := by
    rw [Ne, Text.trim_eq_nil_iff]
    simp
  have hnames (a b : Definition) : Violation.foldedName a ≠ Violation.foldedName b ↔
      Text.fold a.name ≠ Text.fold b.name := not_congr Violation.foldedName_eq_iff
  constructor
  · rintro ⟨named, system, names, encodings, layouts⟩
    have hlayouts := fun d hd => Definition.wellLaidOut_iff.1 (layouts d hd)
    exact ⟨fun d hd => (hnamed d).1 (named d hd), names.imp (hnames _ _).1, encodings,
      fun d hd => Encoding.isSystemRegister_iff.1 (system d hd), fun d hd => (hlayouts d hd).1,
      fun d hd => (hlayouts d hd).2.1, fun d hd => (hlayouts d hd).2.2.1,
      fun d hd => (hlayouts d hd).2.2.2.1, fun d hd => (hlayouts d hd).2.2.2.2⟩
  · rintro ⟨named, names, encodings, system, ranges, flags, values, labels, apart⟩
    exact ⟨fun d hd => (hnamed d).2 (named d hd),
      fun d hd => Encoding.isSystemRegister_iff.2 (system d hd), names.imp (hnames _ _).2,
      encodings, fun d hd => Definition.wellLaidOut_iff.2
        ⟨ranges d hd, flags d hd, values d hd, labels d hd, apart d hd⟩⟩

/-! ## The names of a refusal -/

namespace Violation

/-- What the search says of a list, position by position. -/
lemma mem_eachWithEarlier_iff {α β : Type} {check : List α → α → List β} {earlier xs : List α}
    {v : β} : v ∈ eachWithEarlier check earlier xs ↔
      ∃ i : Fin xs.length, v ∈ check (earlier ++ xs.take i) xs[i] := by
  induction xs generalizing earlier with
  | nil => simp [eachWithEarlier]
  | cons x xs ih => simp [eachWithEarlier, ih, Fin.exists_fin_succ]

/-- Everything that is wrong within a register names this register alone. -/
lemma registers_of_mem_ofFields {d : Definition} {v : Violation} (h : v ∈ ofFields d) :
    v.registers = [d.name] := by
  obtain ⟨i, hi⟩ := mem_eachWithEarlier_iff.1 h
  rw [ofField] at hi
  split at hi
  · rcases List.mem_append.1 hi with hkind | hpair
    · rw [ofKind] at hkind
      split at hkind
      · split at hkind
        · exact absurd hkind List.not_mem_nil
        · rw [List.mem_singleton.1 hkind, registers]
      · obtain ⟨entry, -, rfl⟩ := List.mem_map.1 hkind
        rw [registers]
      all_goals exact absurd hkind List.not_mem_nil
    · obtain ⟨earlier, -, hv⟩ := List.mem_flatMap.1 hpair
      rw [ofPair] at hv
      rcases List.mem_append.1 hv with hlabel | hoverlap
      · split at hlabel
        · rw [List.mem_singleton.1 hlabel, registers]
        · exact absurd hlabel List.not_mem_nil
      · split at hoverlap
        · rw [List.mem_singleton.1 hoverlap, registers]
        · exact absurd hoverlap List.not_mem_nil
  · rw [List.mem_singleton.1 hi, registers]

lemma exists_mem_ofFields_iff {d : Definition} {name : String} :
    (∃ v ∈ ofFields d, name ∈ v.registers) ↔ name = d.name ∧ ¬d.WellLaidOut := by
  rw [← ofFields_eq_nil_iff]
  constructor
  · rintro ⟨v, hv, hname⟩
    rw [registers_of_mem_ofFields hv, List.mem_singleton] at hname
    exact ⟨hname, List.ne_nil_of_mem hv⟩
  · rintro ⟨rfl, hne⟩
    obtain ⟨v, hv⟩ := List.exists_mem_of_ne_nil _ hne
    refine ⟨v, hv, ?_⟩
    rw [registers_of_mem_ofFields hv]
    exact List.mem_singleton_self _

/-- The names that the search reports at one position. -/
lemma exists_mem_ofDefinition_iff {earlier : List Definition} {d : Definition} {name : String} :
    (∃ v ∈ ofDefinition earlier d, name ∈ v.registers) ↔
      (name = d.name ∧ (Text.trim d.name.toList = [] ∨ ¬d.encoding.isSystemRegister = true ∨
        ¬d.WellLaidOut)) ∨
      (∃ first, (earlier.find? fun first => foldedName first = foldedName d) = some first ∧
        (name = first.name ∨ name = d.name)) ∨
      ∃ first, (earlier.find? fun first => first.encoding = d.encoding) = some first ∧
        (name = first.name ∨ name = d.name) := by
  have hblank : (∃ v ∈ if (Text.trim d.name.toList).isEmpty then [blankName earlier.length d]
      else [], name ∈ v.registers) ↔ name = d.name ∧ Text.trim d.name.toList = [] := by
    by_cases h : Text.trim d.name.toList = [] <;> simp [h, registers]
  have hspace : (∃ v ∈ if d.encoding.isSystemRegister then [] else [instructionSpace d],
      name ∈ v.registers) ↔ name = d.name ∧ ¬d.encoding.isSystemRegister = true := by
    by_cases h : d.encoding.isSystemRegister = true <;> simp [h, registers]
  have hfirst (found : Option Definition) (report : Definition → Violation) :
      (∃ v ∈ (found.map report).toList, name ∈ v.registers) ↔
        ∃ first, found = some first ∧ name ∈ (report first).registers := by
    cases found <;> simp
  simp only [ofDefinition, List.mem_append, or_and_right, exists_or, hblank, hspace, hfirst,
    exists_mem_ofFields_iff]
  simp only [registers, List.mem_cons, List.not_mem_nil, or_false]
  constructor
  · rintro ((((⟨hn, h⟩ | ⟨hn, h⟩) | h) | h) | ⟨hn, h⟩)
    · exact .inl ⟨hn, .inl h⟩
    · exact .inl ⟨hn, .inr (.inl h)⟩
    · exact .inr (.inl h)
    · exact .inr (.inr h)
    · exact .inl ⟨hn, .inr (.inr h)⟩
  · rintro (⟨hn, h | h | h⟩ | h | h)
    · exact .inl (.inl (.inl (.inl ⟨hn, h⟩)))
    · exact .inl (.inl (.inl (.inr ⟨hn, h⟩)))
    · exact .inr ⟨hn, h⟩
    · exact .inl (.inl (.inr h))
    · exact .inl (.inr h)

section

variable {κ : Type} [DecidableEq κ] (key : Definition → κ) {definitions : List Definition}

/-- A key that an earlier register holds is found among the earlier registers. -/
lemma exists_first {i k : Fin definitions.length} (hki : k < i)
    (hkey : key definitions[k] = key definitions[i]) :
    ∃ first, ((definitions.take i).find? fun first => key first = key definitions[i]) =
      some first := by
  rw [← Option.isSome_iff_exists, List.find?_isSome]
  exact ⟨definitions[k], List.mem_take_iff_getElem.2 ⟨k, by omega, rfl⟩, by simpa using hkey⟩

/-- The first holder of a key is what is found of it before any later position. -/
lemma find?_eq_first {i j : Fin definitions.length} (hij : i < j)
    (hkey : key definitions[j] = key definitions[i])
    (hfirst : ∀ k < i, key definitions[k] ≠ key definitions[i]) :
    ((definitions.take j).find? fun first => key first = key definitions[j]) =
      some definitions[i] := by
  rw [List.find?_eq_some_iff_getElem]
  have hlength : i < (definitions.take j).length := by
    rw [List.length_take]
    omega
  refine ⟨by simpa using hkey.symm, i, hlength, by simp, fun k hk => ?_⟩
  have hnot : key definitions[k] ≠ key definitions[j] := fun h =>
    hfirst ⟨k, by omega⟩ hk (h.trans hkey)
  simpa using hnot

/-- The first holder of a key is reported with the holder at each later position, and so every
register that shares its key is reported. -/
lemma exists_first_iff {name : String} :
    (∃ i : Fin definitions.length, ∃ first,
      ((definitions.take i).find? fun first => key first = key definitions[i]) = some first ∧
        (name = first.name ∨ name = definitions[i].name)) ↔
      ∃ i : Fin definitions.length, name = definitions[i].name ∧
        ∃ j : Fin definitions.length, j ≠ i ∧ key definitions[j] = key definitions[i] := by
  constructor
  · rintro ⟨i, first, hfirst, hname⟩
    have hkey : key first = key definitions[i] := by
      simpa using List.find?_some hfirst
    obtain ⟨k, hk, rfl⟩ := List.mem_iff_getElem.1 (List.mem_of_find?_eq_some hfirst)
    rw [List.length_take] at hk
    rw [List.getElem_take] at hkey hname
    have hki : k < i := by omega
    rcases hname with rfl | rfl
    · exact ⟨⟨k, by omega⟩, rfl, i, Fin.ne_of_gt hki, hkey.symm⟩
    · exact ⟨i, rfl, ⟨k, by omega⟩, Fin.ne_of_lt hki, hkey⟩
  · rintro ⟨i, rfl, j, hne, hkey⟩
    by_cases hearlier : ∃ k < i, key definitions[k] = key definitions[i]
    · -- A holder before position `i` has `i` reported as the later one.
      obtain ⟨k, hki, hk⟩ := hearlier
      obtain ⟨first, hfirst⟩ := exists_first key hki hk
      exact ⟨i, first, hfirst, .inr rfl⟩
    · -- Otherwise `i` is the first holder, which the search at `j` finds.
      have hfirst : ∀ k < i, key definitions[k] ≠ key definitions[i] := fun k hki hk =>
        hearlier ⟨k, hki, hk⟩
      have hij : i < j := by
        rcases lt_trichotomy i j with h | h | h
        · exact h
        · exact absurd h.symm hne
        · exact absurd hkey (hfirst j h)
      exact ⟨j, definitions[i], find?_eq_first key hij hkey hfirst, .inl rfl⟩

end

/-- A register takes part if it is wrong by itself or shares its name or its encoding. -/
lemma takesPart_iff {definitions : List Definition} {i : Fin definitions.length} :
    TakesPart definitions i ↔
      (Text.trim definitions[i].name.toList = [] ∨
        ¬definitions[i].encoding.isSystemRegister = true ∨ ¬definitions[i].WellLaidOut) ∨
      (∃ j : Fin definitions.length, j ≠ i ∧
        foldedName definitions[j] = foldedName definitions[i]) ∨
      ∃ j : Fin definitions.length, j ≠ i ∧ definitions[j].encoding = definitions[i].encoding := by
  simp only [foldedName_eq_iff, Text.trim_eq_nil_iff, Encoding.isSystemRegister_iff, not_or]
  have hlayout := Definition.wellLaidOut_iff (d := definitions[i])
  constructor
  · rintro (h | ⟨j, hne, h⟩ | ⟨j, hne, h⟩ | h | ⟨f, hf, h⟩ | ⟨f, hf, hk, h⟩ | ⟨f, hf, h⟩ | h | h)
    · exact .inl (.inl h)
    · exact .inr (.inl ⟨j, hne, h⟩)
    · exact .inr (.inr ⟨j, hne, h⟩)
    · exact .inl (.inr (.inl h))
    · exact .inl (.inr (.inr fun hw => h ((hlayout.1 hw).1 f hf)))
    · exact .inl (.inr (.inr fun hw => h ((hlayout.1 hw).2.1 f hf hk)))
    · exact .inl (.inr (.inr fun hw => h ((hlayout.1 hw).2.2.1 f hf)))
    · exact .inl (.inr (.inr fun hw => h (hlayout.1 hw).2.2.2.1))
    · exact .inl (.inr (.inr fun hw => h (hlayout.1 hw).2.2.2.2))
  · rintro ((h | h | h) | ⟨j, hne, h⟩ | ⟨j, hne, h⟩)
    · exact .blank h
    · exact .space h
    · by_contra hnot
      refine h (hlayout.2 ⟨fun f hf => ?_, fun f hf hk => ?_, fun f hf => ?_, ?_, ?_⟩)
      · exact not_not.1 fun hf' => hnot (.range f hf hf')
      · exact not_not.1 fun hf' => hnot (.flag f hf hk hf')
      · exact not_not.1 fun hf' => hnot (.value f hf hf')
      · exact not_not.1 fun hf' => hnot (.label hf')
      · exact not_not.1 fun hf' => hnot (.overlap hf')
    · exact .name j hne h
    · exact .encoding j hne h

lemma mem_offenders_ofList_iff {definitions : List Definition} {name : String} :
    name ∈ offenders (ofList definitions) ↔
      ∃ i : Fin definitions.length, name = definitions[i].name ∧ TakesPart definitions i := by
  have hfind : name ∈ offenders (ofList definitions) ↔ ∃ i : Fin definitions.length,
      ∃ v ∈ ofDefinition (definitions.take i) definitions[i], name ∈ v.registers := by
    simp only [offenders, List.mem_eraseDups, List.mem_flatMap, ofList, mem_eachWithEarlier_iff,
      List.nil_append]
    exact ⟨fun ⟨v, ⟨i, hi⟩, hv⟩ => ⟨i, v, hi, hv⟩, fun ⟨i, v, hi, hv⟩ => ⟨v, ⟨i, hi⟩, hv⟩⟩
  rw [hfind]
  simp only [exists_mem_ofDefinition_iff, exists_or]
  rw [exists_first_iff foldedName, exists_first_iff Definition.encoding]
  simp only [takesPart_iff, and_or_left, exists_or]

/-- No name is listed twice. -/
lemma nodup_eraseDups (names : List String) : names.eraseDups.Nodup := by
  induction hn : names.length using Nat.strongRecOn generalizing names with
  | ind n ih =>
    cases names with
    | nil => simp
    | cons name rest =>
      have hlt : (rest.filter fun other => !other == name).length < n := by
        have := List.length_filter_le (fun other => !other == name) rest
        rw [List.length_cons] at hn
        omega
      rw [List.eraseDups_cons, List.nodup_cons]
      exact ⟨by simp, ih _ hlt _ rfl⟩

end Violation

/-! ## Exactness -/

namespace Catalog

/-- **Validation is exact.**  A table is accepted, and as it stands, exactly if it keeps all nine
invariants.  Otherwise the refusal names each register that takes part in breaking one, once, and
names no other. -/
theorem ofList_exact (definitions : List Definition) :
    ((∃ c, ofList definitions = .ok c ∧ c.registers = definitions) ↔ Kept definitions) ∧
    (¬Kept definitions ↔ ∃ violations, ofList definitions = .error (.integrity violations) ∧
      (Violation.offenders violations).Nodup ∧
      ∀ name, name ∈ Violation.offenders violations ↔
        ∃ i : Fin definitions.length, name = definitions[i].name ∧ TakesPart definitions i) := by
  have hiff : Violation.ofList definitions = [] ↔ Kept definitions :=
    (Violation.ofList_eq_nil_iff definitions).trans wellFormed_iff_kept
  by_cases h : Violation.ofList definitions = []
  · have hok := ofList_of_wellFormed ((Violation.ofList_eq_nil_iff _).1 h)
    refine ⟨iff_of_true ⟨_, hok, rfl⟩ (hiff.1 h), iff_of_false (not_not.2 (hiff.1 h)) ?_⟩
    rintro ⟨violations, herror, -⟩
    rw [hok] at herror
    exact nomatch herror
  · have herror := ofList_eq_error h
    refine ⟨iff_of_false ?_ (h ∘ hiff.2), iff_of_true (h ∘ hiff.2)
      ⟨_, herror, Violation.nodup_eraseDups _, fun name => Violation.mem_offenders_ofList_iff⟩⟩
    rintro ⟨c, hok, -⟩
    rw [herror] at hok
    exact nomatch hok

end Catalog
end SysReg
