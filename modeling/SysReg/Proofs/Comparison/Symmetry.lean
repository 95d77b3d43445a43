import Mathlib.Data.List.Nodup
import SysReg.Proofs.Comparison.Accounting

/-!
# Comparing the other way round

Two snapshots compared in the other order give the same entries, seen from the other side
(`compare_mirrored`): the values before and after change places, what was added is removed, and any
other change stays as it is, down to the fields that it names.  The order of the entries is all that
may differ, since it follows the first snapshot.

Either direction goes through the snapshots in its own way, so what a comparison lists is first said
without reference to the way (`ComparisonEntry.Arises`).  That this is the same from both sides
rests on one fact: two readings of one register are told by the same layout, and the fields that
read differently do so whichever value comes first (`changeBetween_comm`).
-/

namespace SysReg

/-! ## Entries from the other side -/

/-- The change, seen from the other side. -/
def Change.mirrored : Change → Change
  | added => removed
  | removed => added
  | unchanged => unchanged
  | changed fields => changed fields
  | unreadable => unreadable

namespace ComparisonEntry

/-- The entry, seen from the other side. -/
def mirrored (entry : ComparisonEntry) : ComparisonEntry where
  name := entry.name
  encoding := entry.encoding
  before := entry.after
  after := entry.before
  change := entry.change.mirrored

lemma mirrored_mirrored (entry : ComparisonEntry) : entry.mirrored.mirrored = entry := by
  obtain ⟨name, encoding, before, after, change⟩ := entry
  cases change <;> rfl

lemma mirrored_injective : Function.Injective mirrored :=
  Function.LeftInverse.injective mirrored_mirrored

/-- The register of the entry, told by its name and encoding. -/
def register (entry : ComparisonEntry) : String × Encoding :=
  (entry.name, entry.encoding)

/-- The entry arises from comparing the one snapshot with the other, whatever way this is done. -/
inductive Arises (c : Catalog) (a b : Snapshot) : ComparisonEntry → Prop where
  | removed (r : Reading) (ha : r ∈ a.readings) (hb : r.register ∉ b.registers) :
      Arises c a b ⟨r.name, r.encoding, r.value?, none, .removed⟩
  | added (r : Reading) (ha : r.register ∉ a.registers) (hb : r ∈ b.readings) :
      Arises c a b ⟨r.name, r.encoding, none, r.value?, .added⟩
  | kept (r r' : Reading) (change : Change) (ha : r ∈ a.readings) (hb : r' ∈ b.readings)
      (hregister : r'.register = r.register) (hchange : c.changeBetween r r' = .ok change) :
      Arises c a b ⟨r.name, r.encoding, r.value?, r'.value?, change⟩

end ComparisonEntry

/-! ## Changes from the other side -/

/-- The fields that read differently do so whichever value comes first. -/
lemma Definition.changedFields_comm {d : Definition} (h : ∀ f ∈ d.fields, f.bits.IsValid)
    (x y : Word) : d.changedFields x y = d.changedFields y x := by
  rw [changedFields_eq_ok h, changedFields_eq_ok h]
  simp only [bne_comm]

namespace Catalog

variable (c : Catalog) {a b : Snapshot} {r r' : Reading} {d : Comparison}
  {entry : ComparisonEntry}

/-- The layout is that of the register, whichever of its readings it is asked for. -/
lemma layoutOf?_eq_of_register (h : r'.register = r.register) :
    c.layoutOf? r' = c.layoutOf? r := by
  obtain ⟨hname, hencoding⟩ := Prod.mk.inj h
  rw [layoutOf?, layoutOf?, hname, hencoding]

lemma changeBetween_comm (h : r'.register = r.register) :
    c.changeBetween r' r = c.changeBetween r r' := by
  rw [changeBetween, changeBetween, c.layoutOf?_eq_of_register h]
  cases r.value? with
  | none => cases r'.value? <;> rfl
  | some x =>
    cases r'.value? with
    | none => rfl
    | some y =>
      by_cases hxy : x = y
      · simp only [hxy]
      · simp only [if_neg hxy, if_neg (Ne.symm hxy)]
        cases hlayout : c.layoutOf? r with
        | none => rfl
        | some d =>
          have hvalid := (c.wellFormed.layouts d (c.mem_registers_of_layoutOf? hlayout)).valid
          simp only [Definition.changedFields_comm hvalid y x]

/-- The change between two readings of one register is none of presence. -/
lemma mirrored_of_changeBetween {change : Change} (h : c.changeBetween r r' = .ok change) :
    change.mirrored = change := by
  obtain ⟨change', hchange', hbetween⟩ := c.exists_changeBetween r r'
  obtain rfl := Except.ok.inj (hchange'.symm.trans h)
  rcases hbetween.kinds with rfl | rfl | ⟨fields, rfl⟩ <;> rfl

variable {c}

/-- What arises in one direction arises in the other one, seen from its side. -/
lemma arises_mirrored (h : entry.Arises c a b) : entry.mirrored.Arises c b a := by
  cases h with
  | removed r ha hb => exact .added r hb ha
  | added r ha hb => exact .removed r hb ha
  | kept r r' change ha hb hregister hchange =>
    have hother := (c.changeBetween_comm hregister).trans hchange
    have hkept := ComparisonEntry.Arises.kept r' r change hb ha hregister.symm hother
    obtain ⟨hname, hencoding⟩ := Prod.mk.inj hregister
    rw [hname, hencoding] at hkept
    rw [ComparisonEntry.mirrored, c.mirrored_of_changeBetween hchange]
    exact hkept

/-! ## What a comparison lists -/

lemma entryOf_eq_ok_iff : c.entryOf b r = .ok entry ↔
    (r.register ∉ b.registers ∧ entry = ⟨r.name, r.encoding, r.value?, none, .removed⟩) ∨
    ∃ r' ∈ b.readings, r'.register = r.register ∧ ∃ change, c.changeBetween r r' = .ok change ∧
      entry = ⟨r.name, r.encoding, r.value?, r'.value?, change⟩ := by
  cases hcounterpart : counterpart? b r with
  | none =>
    have hgone := counterpart?_eq_none_iff_not_mem.1 hcounterpart
    have hnone := counterpart?_eq_none_iff.1 hcounterpart
    rw [entryOf, hcounterpart]
    constructor
    · rintro ⟨⟩
      exact .inl ⟨hgone, rfl⟩
    · rintro (⟨-, rfl⟩ | ⟨r', hr', hregister, -⟩)
      · rfl
      · exact absurd hregister (hnone r' hr')
  | some after =>
    obtain ⟨hafter, hregister⟩ := counterpart?_eq_some_iff.1 hcounterpart
    have hmem : r.register ∈ b.registers := hregister ▸ List.mem_map_of_mem hafter
    rw [entryOf, hcounterpart]
    change (c.changeBetween r after >>= _) = _ ↔ _
    rw [bind_eq_ok_iff]
    constructor
    · rintro ⟨change, hchange, ⟨⟩⟩
      exact .inr ⟨after, hafter, hregister, change, hchange, rfl⟩
    · rintro (⟨hgone, -⟩ | ⟨r', hr', hsame, change, hchange, rfl⟩)
      · exact absurd hmem hgone
      · have heq := (counterpart?_eq_some_iff.2 ⟨hr', hsame⟩).symm.trans hcounterpart
        obtain rfl := Option.some.inj heq
        exact ⟨change, hchange, rfl⟩

/-- A comparison lists an entry for each reading of the first snapshot, in its order, and then the
readings that only the second one has. -/
lemma exists_told_of_compare (h : c.compare a b = .ok d) : ∃ told,
    List.Forall₂ (fun r entry => c.entryOf b r = .ok entry) a.readings told ∧
      d.entries = told ++ (b.beyond a).map addedEntry := by
  obtain ⟨told, hmap, hd⟩ := bind_eq_ok_iff.1 h
  rw [filter_counterpart?_eq] at hd
  obtain rfl := Except.ok.inj hd
  exact ⟨told, mapM_eq_ok_iff.1 hmap, rfl⟩

/-- A comparison lists what arises and nothing else. -/
lemma mem_entries_iff (h : c.compare a b = .ok d) :
    entry ∈ d.entries ↔ entry.Arises c a b := by
  obtain ⟨told, htold, hentries⟩ := exists_told_of_compare h
  rw [hentries, List.mem_append, List.mem_map]
  constructor
  · rintro (hmem | ⟨r, hr, rfl⟩)
    · obtain ⟨r, hr, hentry⟩ := exists_mem_of_forall₂ htold.flip hmem
      rcases entryOf_eq_ok_iff.1 hentry with ⟨hgone, rfl⟩ | ⟨r', hr', hsame, change, hchange, rfl⟩
      · exact .removed r hr hgone
      · exact .kept r r' change hr hr' hsame hchange
    · obtain ⟨hb, hnew⟩ := List.mem_filter.1 hr
      exact .added r (of_decide_eq_true hnew) hb
  · have htells {r : Reading} (hr : r ∈ a.readings) (hentry : c.entryOf b r = .ok entry) :
        entry ∈ told := by
      obtain ⟨entry', hmem, hentry'⟩ := exists_mem_of_forall₂ htold hr
      rwa [Except.ok.inj (hentry.symm.trans hentry')]
    intro harises
    cases harises with
    | removed r ha hb => exact .inl (htells ha (entryOf_eq_ok_iff.2 (.inl ⟨hb, rfl⟩)))
    | added r ha hb => exact .inr ⟨r, List.mem_filter.2 ⟨hb, decide_eq_true ha⟩, rfl⟩
    | kept r r' change ha hb hsame hchange =>
      exact .inl (htells ha (entryOf_eq_ok_iff.2 (.inr ⟨r', hb, hsame, change, hchange, rfl⟩)))

/-- A comparison lists no register twice. -/
lemma nodup_entries (h : c.compare a b = .ok d) : d.entries.Nodup := by
  obtain ⟨told, htold, hentries⟩ := exists_told_of_compare h
  have htold : told.map ComparisonEntry.register = a.registers := by
    rw [Snapshot.registers, ← List.forall₂_eq_eq_eq, List.forall₂_map_left_iff,
      List.forall₂_map_right_iff]
    refine htold.flip.imp fun entry r hentry => ?_
    rcases entryOf_eq_ok_iff.1 hentry with ⟨-, rfl⟩ | ⟨-, -, -, -, -, rfl⟩ <;> rfl
  have hadded : ((b.beyond a).map addedEntry).map ComparisonEntry.register =
      (b.beyond a).map Reading.register := List.map_map
  have hbeyond : ((b.beyond a).map Reading.register).Nodup :=
    b.nodup_registers.sublist ((List.filter_sublist).map _)
  have hregisters : (d.entries.map ComparisonEntry.register).Nodup := by
    rw [hentries, List.map_append, htold, hadded, List.nodup_append]
    refine ⟨a.nodup_registers, hbeyond, ?_⟩
    rintro register hfirst _ hsecond rfl
    obtain ⟨r, hr, rfl⟩ := List.mem_map.1 hsecond
    exact of_decide_eq_true (List.mem_filter.1 hr).2 hfirst
  exact .of_map _ hregisters

/-! ## Both directions -/

/-- Every reading of the first snapshot has an entry, so that a comparison always succeeds. -/
lemma exists_compare (c : Catalog) (a b : Snapshot) : ∃ d, c.compare a b = .ok d := by
  obtain ⟨told, hmap, -⟩ := exists_mapM_eq_ok fun r (_ : r ∈ a.readings) => c.exists_entryOf b r
  exact ⟨_, bind_eq_ok_iff.2 ⟨told, hmap, rfl⟩⟩

/-- **Comparison is symmetric up to direction.**  Both comparisons of two snapshots succeed, and the
entries of the one are those of the other seen from the other side, in some order: no change of a
register that both snapshots have depends on the direction, nor does any field that it names. -/
theorem compare_mirrored (c : Catalog) (a b : Snapshot) :
    ∃ d d', c.compare a b = .ok d ∧ c.compare b a = .ok d' ∧
      d'.entries.Perm (d.entries.map ComparisonEntry.mirrored) := by
  obtain ⟨d, hd⟩ := c.exists_compare a b
  obtain ⟨d', hd'⟩ := c.exists_compare b a
  refine ⟨d, d', hd, hd', ?_⟩
  have hnodup := (nodup_entries hd).map ComparisonEntry.mirrored_injective
  rw [List.perm_ext_iff_of_nodup (nodup_entries hd') hnodup]
  intro entry
  rw [mem_entries_iff hd', List.mem_map]
  constructor
  · intro hother
    exact ⟨entry.mirrored, (mem_entries_iff hd).2 (arises_mirrored hother),
      entry.mirrored_mirrored⟩
  · rintro ⟨entry', hentry', rfl⟩
    exact arises_mirrored ((mem_entries_iff hd).1 hentry')

end Catalog
end SysReg
