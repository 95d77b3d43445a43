import Mathlib.Data.List.Perm.Basic
import SysReg.Proofs.Catalog.Lookup
import SysReg.Proofs.Comparison
import SysReg.Proofs.Decoding

/-!
# A comparison accounts for every reading

Whatever two snapshots hold, comparing them over a catalog succeeds and lists each register once
(`compare_accounts`): the registers of the first snapshot in its order, told by what became of them,
then those that only the second one has, in its order.

That no reading is lost or listed twice is a matter of counting.  Names are distinct in a snapshot,
so a register has one counterpart at most, and the registers that both snapshots have are as many
seen from either side (`countP_mem_comm`).
-/

namespace SysReg

/-! ## Counting -/

/-- Two lists without repeats have as many elements in common, counted in either. -/
lemma countP_mem_comm {α : Type} [BEq α] [LawfulBEq α] {xs ys : List α} (hxs : xs.Nodup)
    (hys : ys.Nodup) : xs.countP (· ∈ ys) = ys.countP (· ∈ xs) := by
  have hperm : (xs.filter (· ∈ ys)).Perm (ys.filter (· ∈ xs)) := by
    rw [List.perm_ext_iff_of_nodup (hxs.filter _) (hys.filter _)]
    intro x
    simp only [List.mem_filter, decide_eq_true_eq]
    exact And.comm
  rw [List.countP_eq_length_filter, List.countP_eq_length_filter, hperm.length_eq]

lemma countP_eq_of_forall₂ {α β : Type} {R : α → β → Prop} {p : α → Bool} {q : β → Bool}
    {xs : List α} {ys : List β} (h : List.Forall₂ R xs ys) (hpq : ∀ x y, R x y → p x = q y) :
    xs.countP p = ys.countP q := by
  induction h with
  | nil => rfl
  | cons hxy _ ih => rw [List.countP_cons, List.countP_cons, ih, hpq _ _ hxy]

/-- Every entry is of one of the five kinds. -/
lemma Comparison.summary_total (d : Comparison) :
    d.summary.added + d.summary.removed + d.summary.unchanged + d.summary.changed +
      d.summary.unreadable = d.entries.length := by
  obtain ⟨entries⟩ := d
  simp only [summary, countWhere]
  induction entries with
  | nil => rfl
  | cons entry entries ih =>
    simp only [List.countP_cons, List.length_cons]
    cases entry.change <;> simp <;> omega

/-! ## What an entry tells -/

/-- The register of a reading, told by its name and encoding. -/
def Reading.register (r : Reading) : String × Encoding :=
  (r.name, r.encoding)

/-- The registers of a snapshot, in the order of its readings. -/
def Snapshot.registers (s : Snapshot) : List (String × Encoding) :=
  s.readings.map Reading.register

lemma Snapshot.nodup_registers (s : Snapshot) : s.registers.Nodup := by
  refine List.pairwise_map.2 (s.distinct.imp fun hname hregister => hname ?_)
  exact congrArg Prod.fst hregister

/-- The readings of a snapshot whose registers another one lacks. -/
def Snapshot.beyond (s other : Snapshot) : List Reading :=
  s.readings.filter fun r => r.register ∉ other.registers

/-- The change from one reading of a register to another one. -/
structure Change.Between (change : Change) (before after : Reading) : Prop where
  unreadable : change = .unreadable ↔ before.succeeded = false ∨ after.succeeded = false
  unchanged : change = .unchanged ↔ ∃ w, before.value? = some w ∧ after.value? = some w
  changed : (∃ fields, change = .changed fields) ↔
    ∃ x y, before.value? = some x ∧ after.value? = some y ∧ x ≠ y

namespace Change.Between

variable {change : Change} {before after : Reading}

lemma of_eq {w : Word} (hbefore : before.value? = some w) (hafter : after.value? = some w) :
    Change.unchanged.Between before after := by
  constructor <;> simp [Reading.succeeded, hbefore, hafter]

lemma of_ne {fields : List String} {x y : Word} (hbefore : before.value? = some x)
    (hafter : after.value? = some y) (hne : x ≠ y) :
    (Change.changed fields).Between before after := by
  constructor <;> simp [Reading.succeeded, hbefore, hafter, hne, hne.symm]

lemma of_none (h : ∀ x y, before.value? = some x → after.value? = some y → False) :
    Change.unreadable.Between before after := by
  cases hbefore : before.value? <;> cases hafter : after.value?
  case some.some x y => exact (h x y hbefore hafter).elim
  all_goals constructor <;> simp [Reading.succeeded, hbefore, hafter]

/-- Two readings are unreadable, unchanged or changed. -/
lemma kinds (h : change.Between before after) :
    change = .unreadable ∨ change = .unchanged ∨ ∃ fields, change = .changed fields := by
  rw [h.unreadable, h.unchanged, h.changed, Reading.succeeded, Reading.succeeded]
  cases before.value? with
  | none => exact .inl (.inl rfl)
  | some x =>
    cases after.value? with
    | none => exact .inl (.inr rfl)
    | some y =>
      rcases eq_or_ne x y with rfl | hne
      · exact .inr (.inl ⟨x, rfl, rfl⟩)
      · exact .inr (.inr ⟨x, y, rfl, rfl, hne⟩)

lemma ne_removed (h : change.Between before after) : change ≠ .removed := by
  rcases h.kinds with rfl | rfl | ⟨fields, rfl⟩ <;> nofun

lemma ne_added (h : change.Between before after) : change ≠ .added := by
  rcases h.kinds with rfl | rfl | ⟨fields, rfl⟩ <;> nofun

end Change.Between

/-- The entry tells what became of a reading in a second snapshot. -/
structure ComparisonEntry.Tells (b : Snapshot) (r : Reading) (entry : ComparisonEntry) : Prop where
  name : entry.name = r.name
  encoding : entry.encoding = r.encoding
  before : entry.before = r.value?
  removed : entry.change = .removed ↔ ∀ r' ∈ b.readings, r'.register ≠ r.register
  gone : entry.change = .removed → entry.after = none
  kept : ∀ r' ∈ b.readings, r'.register = r.register →
    entry.after = r'.value? ∧ entry.change.Between r r'

/-- The comparison lists each reading of either snapshot once. -/
structure Comparison.Accounts (a b : Snapshot) (d : Comparison) : Prop where
  entries : ∃ told, List.Forall₂ (ComparisonEntry.Tells b) a.readings told ∧
    d.entries = told ++ (b.beyond a).map fun r => ⟨r.name, r.encoding, none, r.value?, .added⟩
  first : d.summary.removed + d.summary.unchanged + d.summary.changed + d.summary.unreadable =
    a.size
  second : d.summary.added + d.summary.unchanged + d.summary.changed + d.summary.unreadable =
    b.size

/-- The entry of a reading of the first snapshot does not say that the second one added it. -/
lemma ComparisonEntry.Tells.ne_added {b : Snapshot} {r : Reading} {entry : ComparisonEntry}
    (h : entry.Tells b r) : entry.change ≠ .added := by
  by_cases hgone : ∀ r' ∈ b.readings, r'.register ≠ r.register
  · rw [h.removed.2 hgone]
    nofun
  · push Not at hgone
    obtain ⟨r', hr', hregister⟩ := hgone
    exact (h.kept r' hr' hregister).2.ne_added

namespace Catalog

variable (c : Catalog) {a b s : Snapshot} {r r' : Reading}

lemma counterpart?_eq_some_iff :
    counterpart? s r = some r' ↔ r' ∈ s.readings ∧ r'.register = r.register := by
  constructor
  · intro h
    obtain ⟨hfind, hencoding⟩ := Option.filter_eq_some_iff.1 h
    have hname : r'.name = r.name := by simpa using List.find?_some hfind
    exact ⟨List.mem_of_find?_eq_some hfind, Prod.ext hname (of_decide_eq_true hencoding)⟩
  · rintro ⟨hmem, hregister⟩
    obtain ⟨hname, hencoding⟩ := Prod.mk.inj hregister
    exact counterpart?_eq_some hmem hname hencoding

lemma counterpart?_eq_none_iff :
    counterpart? s r = none ↔ ∀ r' ∈ s.readings, r'.register ≠ r.register := by
  simp only [Option.eq_none_iff_forall_ne_some, ne_eq, counterpart?_eq_some_iff, not_and]

lemma counterpart?_eq_none_iff_not_mem :
    counterpart? s r = none ↔ r.register ∉ s.registers := by
  rw [counterpart?_eq_none_iff, Snapshot.registers, List.mem_map]
  exact ⟨fun h ⟨r', hr', heq⟩ => h r' hr' heq, fun h r' hr' heq => h ⟨r', hr', heq⟩⟩

lemma mem_registers_of_layoutOf? {d : Definition} (h : c.layoutOf? r = some d) :
    d ∈ c.registers := by
  rcases Option.or_eq_some_iff.1 h with hat | ⟨-, hfind⟩
  · exact (atEncoding?_eq_some_iff.1 hat).1
  · exact (find?_eq_some_iff.1 hfind).1

/-- The fields of a register of the catalog lie within it, so that a change is always found. -/
lemma exists_changeBetween (before after : Reading) :
    ∃ change, c.changeBetween before after = .ok change ∧ change.Between before after := by
  unfold changeBetween
  split
  · next x y hx hy =>
    by_cases hxy : x = y
    · exact ⟨.unchanged, if_pos hxy, .of_eq hx (hxy ▸ hy)⟩
    · rw [if_neg hxy]
      split
      · next d hlayout =>
        have hvalid := (c.wellFormed.layouts d (c.mem_registers_of_layoutOf? hlayout)).valid
        rw [Definition.changedFields_eq_ok hvalid]
        exact ⟨_, rfl, .of_ne hx hy hxy⟩
      · exact ⟨_, rfl, .of_ne hx hy hxy⟩
  · next hnone => exact ⟨.unreadable, rfl, .of_none hnone⟩

lemma exists_entryOf (b : Snapshot) (r : Reading) :
    ∃ entry, c.entryOf b r = .ok entry ∧ entry.Tells b r := by
  cases hcounterpart : counterpart? b r with
  | none =>
    have hgone := counterpart?_eq_none_iff.1 hcounterpart
    refine ⟨⟨r.name, r.encoding, r.value?, none, .removed⟩, by rw [entryOf, hcounterpart], ?_⟩
    exact ⟨rfl, rfl, rfl, iff_of_true rfl hgone, fun _ => rfl,
      fun r' hr' heq => absurd heq (hgone r' hr')⟩
  | some after =>
    obtain ⟨change, hchange, hbetween⟩ := c.exists_changeBetween r after
    -- A snapshot finds one reading of a register, so the counterpart is the only one.
    have hkept : ∀ r' ∈ b.readings, r'.register = r.register → r' = after := fun r' hr' heq =>
      Option.some.inj ((counterpart?_eq_some_iff.2 ⟨hr', heq⟩).symm.trans hcounterpart)
    obtain ⟨hafter, hregister⟩ := counterpart?_eq_some_iff.1 hcounterpart
    refine ⟨⟨r.name, r.encoding, r.value?, after.value?, change⟩, ?_, ?_⟩
    · rw [entryOf, hcounterpart]
      change (c.changeBetween r after >>= _) = _
      rw [hchange]
      rfl
    · refine ⟨rfl, rfl, rfl, iff_of_false hbetween.ne_removed fun h => h after hafter hregister,
        fun hremoved => absurd hremoved hbetween.ne_removed, ?_⟩
      intro r' hr' heq
      rw [hkept r' hr' heq]
      exact ⟨rfl, hbetween⟩

/-! ## All entries -/

lemma filter_counterpart?_eq (a b : Snapshot) :
    (b.readings.filter fun r => (counterpart? a r).isNone) = b.beyond a := by
  refine List.filter_congr fun r _ => Bool.eq_iff_iff.2 ?_
  rw [Option.isNone_iff_eq_none, counterpart?_eq_none_iff_not_mem, decide_eq_true_eq]

/-- The readings of a snapshot are of registers that another one has, or beyond it. -/
lemma size_eq_countP_add (s other : Snapshot) :
    s.size = s.registers.countP (· ∈ other.registers) + (s.beyond other).length := by
  have hcommon : s.registers.countP (· ∈ other.registers) =
      s.readings.countP fun r => r.register ∈ other.registers := List.countP_map
  rw [hcommon, Snapshot.beyond, ← List.countP_eq_length_filter, Snapshot.size]
  simpa using
    List.length_eq_countP_add_countP fun r : Reading => decide (r.register ∈ other.registers)

/-- What either snapshot has beyond the other makes up the difference of their sizes. -/
lemma size_add_length_beyond (a b : Snapshot) :
    a.size + (b.beyond a).length = b.size + (a.beyond b).length := by
  have hcommon := countP_mem_comm a.nodup_registers b.nodup_registers
  have hfirst := size_eq_countP_add a b
  have hsecond := size_eq_countP_add b a
  omega

section

variable {told : List ComparisonEntry}
  (htold : List.Forall₂ (ComparisonEntry.Tells b) a.readings told)

include htold

lemma countP_removed_of_tells :
    told.countP (·.change = .removed) = (a.beyond b).length := by
  rw [Snapshot.beyond, ← List.countP_eq_length_filter]
  refine (countP_eq_of_forall₂ htold fun r entry htells => Bool.eq_iff_iff.2 ?_).symm
  rw [decide_eq_true_eq, decide_eq_true_eq, htells.removed, ← counterpart?_eq_none_iff,
    counterpart?_eq_none_iff_not_mem]

lemma countP_added_of_tells : told.countP (·.change = .added) = 0 := by
  rw [List.countP_eq_zero]
  intro entry hentry hadded
  obtain ⟨r, -, htells⟩ := exists_mem_of_forall₂ htold.flip hentry
  exact htells.ne_added (of_decide_eq_true hadded)

lemma accounts_of_tells :
    Comparison.Accounts a b ⟨told ++ (b.beyond a).map addedEntry⟩ := by
  set d : Comparison := ⟨told ++ (b.beyond a).map addedEntry⟩ with hd
  have hadded : d.summary.added = (b.beyond a).length := by
    simp only [Comparison.summary, Comparison.countWhere, hd, List.countP_append,
      countP_added_of_tells htold]
    simp [List.countP_map, Function.comp_def, addedEntry]
  have hremoved : d.summary.removed = (a.beyond b).length := by
    simp only [Comparison.summary, Comparison.countWhere, hd, List.countP_append,
      countP_removed_of_tells htold]
    simp [List.countP_map, Function.comp_def, addedEntry]
  have hlength : d.entries.length = a.size + (b.beyond a).length := by
    rw [hd, List.length_append, List.length_map, ← htold.length_eq, Snapshot.size]
  -- The kinds add up to all entries, and the registers that both have cancel.
  have htotal := d.summary_total
  have hsizes := size_add_length_beyond a b
  refine ⟨⟨told, htold, rfl⟩, ?_, ?_⟩
  · omega
  · omega

end

/-- **A comparison accounts for every reading once.**  It always succeeds; the entries are one for
each reading of the first snapshot, in its order, and one more for each register that only the
second snapshot has, in its order; and the kinds of entries add up to the readings of either. -/
theorem compare_accounts (a b : Snapshot) : ∃ d, c.compare a b = .ok d ∧ d.Accounts a b := by
  obtain ⟨told, hmap, htold⟩ := exists_mapM_eq_ok fun r (_ : r ∈ a.readings) => c.exists_entryOf b r
  refine ⟨_, ?_, accounts_of_tells htold⟩
  rw [compare, hmap, filter_counterpart?_eq]
  rfl

end Catalog
end SysReg
