import SysReg.Proofs.Comparison.Symmetry

/-!
# Identical snapshots

A comparison calls two snapshots identical if none of its entries tells of a difference.  It does so
exactly if every reading in either of them succeeded and they hold the same values under the same
names and encodings (`isIdentical_exact`).  The order of the readings plays no part in this, nor
does anything else that is kept of a snapshot, nor the catalog.

A register that could not be read is never unchanged, not even where both snapshots failed alike.
So a snapshot with a failed reading is not identical to itself.

An entry belongs to either snapshot or to both, and identity is the same from both sides.  It is
therefore taken apart into two halves, of which each says that one snapshot has what the other has
(`Snapshot.Repeats`).
-/

namespace SysReg

namespace Snapshot

variable {a b a' b' : Snapshot} {r : Reading} {w : Word}

/-- Every reading of the snapshot succeeded. -/
def Complete (s : Snapshot) : Prop :=
  ∀ r ∈ s.readings, r.succeeded = true

instance (s : Snapshot) : Decidable s.Complete :=
  inferInstanceAs (Decidable (∀ r ∈ s.readings, r.succeeded = true))

/-- The names and encodings that were read, each with its value. -/
def values (s : Snapshot) : List (String × Encoding × Word) :=
  s.readings.filterMap fun r => r.value?.map fun w => (r.name, r.encoding, w)

/-- What a snapshot says of its registers; the times of the readings are left out. -/
def contents (s : Snapshot) : List ((String × Encoding) × Option Word) :=
  s.readings.map fun r => (r.register, r.value?)

/-- The second snapshot has every register of the first one with the same value. -/
def Repeats (a b : Snapshot) : Prop :=
  ∀ r ∈ a.readings, ∃ r' ∈ b.readings, r'.register = r.register ∧
    ∃ w, r.value? = some w ∧ r'.value? = some w

lemma mem_values_iff {name : String} {e : Encoding} : (name, e, w) ∈ a.values ↔
    ∃ r ∈ a.readings, r.register = (name, e) ∧ r.value? = some w := by
  rw [values, List.mem_filterMap]
  refine exists_congr fun r => and_congr_right fun _ => ?_
  rw [Option.map_eq_some_iff, Reading.register]
  constructor
  · rintro ⟨_, hvalue, ⟨⟩⟩
    exact ⟨rfl, hvalue⟩
  · rintro ⟨⟨⟩, hvalue⟩
    exact ⟨w, hvalue, rfl⟩

lemma repeats_iff : a.Repeats b ↔ a.Complete ∧ ∀ v ∈ a.values, v ∈ b.values := by
  constructor
  · intro h
    refine ⟨fun r hr => ?_, fun ⟨name, e, w⟩ hv => ?_⟩
    · obtain ⟨-, -, -, w, hvalue, -⟩ := h r hr
      rw [Reading.succeeded, hvalue, Option.isSome_some]
    · obtain ⟨r, hr, hregister, hvalue⟩ := mem_values_iff.1 hv
      obtain ⟨r', hr', hsame, w', hw', hvalue'⟩ := h r hr
      obtain rfl := Option.some.inj (hvalue.symm.trans hw')
      exact mem_values_iff.2 ⟨r', hr', hsame.trans hregister, hvalue'⟩
  · rintro ⟨hcomplete, hvalues⟩ r hr
    obtain ⟨w, hvalue⟩ := Option.isSome_iff_exists.1 (hcomplete r hr)
    have hv := hvalues _ (mem_values_iff.2 ⟨r, hr, rfl, hvalue⟩)
    obtain ⟨r', hr', hregister, hvalue'⟩ := mem_values_iff.1 hv
    exact ⟨r', hr', hregister, w, hvalue, hvalue'⟩

/-- Whether one snapshot repeats another is a matter of their contents. -/
lemma repeats_iff_contents : a.Repeats b ↔
    ∀ entry ∈ a.contents, entry ∈ b.contents ∧ entry.2.isSome = true := by
  rw [contents, contents, List.forall_mem_map]
  simp only [List.mem_map, Prod.mk.injEq, Option.isSome_iff_exists]
  refine forall₂_congr fun r _ => ?_
  constructor
  · rintro ⟨r', hr', hregister, w, hvalue, hvalue'⟩
    exact ⟨⟨r', hr', hregister, hvalue'.trans hvalue.symm⟩, w, hvalue⟩
  · rintro ⟨⟨r', hr', hregister, hsame⟩, w, hvalue⟩
    exact ⟨r', hr', hregister, w, hvalue, hsame.trans hvalue⟩

lemma repeats_iff_of_perm (ha : a'.contents.Perm a.contents) (hb : b'.contents.Perm b.contents) :
    a'.Repeats b' ↔ a.Repeats b := by
  simp only [repeats_iff_contents, ha.mem_iff, hb.mem_iff]

end Snapshot

namespace Catalog

variable {c : Catalog} {a b : Snapshot} {d : Comparison}

/-- Nothing that arises from comparing the snapshots differs. -/
def Unchanged (c : Catalog) (a b : Snapshot) : Prop :=
  ∀ entry : ComparisonEntry, entry.Arises c a b → entry.change = .unchanged

lemma isIdentical_iff_unchanged (h : c.compare a b = .ok d) :
    d.isIdentical = true ↔ c.Unchanged a b := by
  simp only [Comparison.isIdentical, Comparison.differences, List.isEmpty_iff,
    List.filter_eq_nil_iff, mem_entries_iff h, decide_eq_true_eq, not_not, Unchanged]

/-- If nothing differs, then nothing does from the other side. -/
lemma Unchanged.mirrored (h : c.Unchanged a b) : c.Unchanged b a := by
  intro entry hentry
  have hmirrored : entry.change.mirrored = .unchanged := h _ (arises_mirrored hentry)
  cases hchange : entry.change <;> simp_all [Change.mirrored]

lemma Unchanged.repeats (h : c.Unchanged a b) : a.Repeats b := by
  intro r hr
  by_cases hb : r.register ∈ b.registers
  · obtain ⟨r', hr', hregister⟩ := List.mem_map.1 hb
    obtain ⟨change, hchange, hbetween⟩ := c.exists_changeBetween r r'
    have hunchanged : change = .unchanged := h _ (.kept r r' change hr hr' hregister hchange)
    exact ⟨r', hr', hregister, hbetween.unchanged.1 hunchanged⟩
  · exact nomatch h _ (.removed r hr hb)

lemma unchanged_of_repeats (hab : a.Repeats b) (hba : b.Repeats a) : c.Unchanged a b := by
  intro entry hentry
  cases hentry with
  | removed r ha hb =>
    obtain ⟨r', hr', hregister, -⟩ := hab r ha
    exact absurd (hregister ▸ List.mem_map_of_mem hr') hb
  | added r ha hb =>
    obtain ⟨r', hr', hregister, -⟩ := hba r hb
    exact absurd (hregister ▸ List.mem_map_of_mem hr') ha
  | kept r r' change ha hb hregister hchange =>
    obtain ⟨r'', hr'', hregister', w, hvalue, hvalue'⟩ := hab r ha
    -- A snapshot has one reading of a register.
    have heq := (counterpart?_eq_some_iff.2 ⟨hr'', hregister'⟩).symm.trans
      (counterpart?_eq_some_iff.2 ⟨hb, hregister⟩)
    obtain rfl := Option.some.inj heq
    obtain ⟨change', hchange', hbetween⟩ := c.exists_changeBetween r r''
    obtain rfl := Except.ok.inj (hchange'.symm.trans hchange)
    exact hbetween.unchanged.2 ⟨w, hvalue, hvalue'⟩

lemma isIdentical_iff_repeats (h : c.compare a b = .ok d) :
    d.isIdentical = true ↔ a.Repeats b ∧ b.Repeats a := by
  rw [isIdentical_iff_unchanged h]
  exact ⟨fun hsame => ⟨hsame.repeats, hsame.mirrored.repeats⟩,
    fun ⟨hab, hba⟩ => unchanged_of_repeats hab hba⟩

/-- **Identical means the same values, all of which could be read.**  A comparison always succeeds,
and finds two snapshots identical exactly if every reading in both succeeded and they hold the same
values under the same names and encodings.  Any other snapshots with these contents, in whatever
order, are found identical by any catalog if these are. -/
theorem isIdentical_exact (c : Catalog) (a b : Snapshot) :
    ∃ d, c.compare a b = .ok d ∧
      (d.isIdentical = true ↔ a.Complete ∧ b.Complete ∧ ∀ v, v ∈ a.values ↔ v ∈ b.values) ∧
      ∀ (c' : Catalog) (a' b' : Snapshot), a'.contents.Perm a.contents →
        b'.contents.Perm b.contents →
          ∃ d', c'.compare a' b' = .ok d' ∧ d'.isIdentical = d.isIdentical := by
  obtain ⟨d, hd⟩ := c.exists_compare a b
  refine ⟨d, hd, ?_, fun c' a' b' ha hb => ?_⟩
  · rw [isIdentical_iff_repeats hd, Snapshot.repeats_iff, Snapshot.repeats_iff]
    constructor
    · rintro ⟨⟨ha, hab⟩, hb, hba⟩
      exact ⟨ha, hb, fun v => ⟨hab v, hba v⟩⟩
    · rintro ⟨ha, hb, hvalues⟩
      exact ⟨⟨ha, fun v => (hvalues v).1⟩, hb, fun v => (hvalues v).2⟩
  · obtain ⟨d', hd'⟩ := c'.exists_compare a' b'
    refine ⟨d', hd', Bool.eq_iff_iff.2 ?_⟩
    rw [isIdentical_iff_repeats hd', isIdentical_iff_repeats hd,
      Snapshot.repeats_iff_of_perm ha hb, Snapshot.repeats_iff_of_perm hb ha]

/-- Two registers that are read at an hour of the first day. -/
def ascendingAt (hour : Nat) : Snapshot where
  label := "ascending"
  filter := none
  createdAt := .ofClock .epoch hour 0 0
  readings := [⟨"HID0", .truncating 3 0 15 0 0, .ofClock .epoch hour 0 1, .value 0⟩,
    ⟨"HID1", .truncating 3 0 15 1 0, .ofClock .epoch hour 0 2, .value 7⟩]
  distinct := by simp

/-- The same registers in the other order. -/
def descending : Snapshot where
  label := "descending"
  filter := some .hid
  createdAt := .epoch
  readings := [⟨"HID1", .truncating 3 0 15 1 0, .epoch, .value 7⟩,
    ⟨"HID0", .truncating 3 0 15 0 0, .epoch, .value 0⟩]
  distinct := by simp

/-- Neither the hour nor the order of the readings, the label or the filter is a difference. -/
theorem isIdentical_exact_descending :
    descending.contents.Perm (ascendingAt 1).contents ∧
    (∃ d, overflowing.compare (ascendingAt 1) (ascendingAt 2) = .ok d ∧ d.isIdentical = true) ∧
    ∃ d, overflowing.compare descending (ascendingAt 2) = .ok d ∧ d.isIdentical = true := by
  have hperm : descending.contents.Perm (ascendingAt 1).contents := .swap _ _ _
  obtain ⟨d, hd, hidentical, hagain⟩ :=
    isIdentical_exact overflowing (ascendingAt 1) (ascendingAt 2)
  have hsame : d.isIdentical = true := hidentical.2 ⟨by decide, by decide, fun _ => Iff.rfl⟩
  obtain ⟨d', hd', hsame'⟩ := hagain overflowing descending (ascendingAt 2) hperm (.refl _)
  exact ⟨hperm, ⟨d, hd, hsame⟩, d', hd', hsame'.trans hsame⟩

end Catalog
end SysReg
