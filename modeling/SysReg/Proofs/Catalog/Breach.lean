import Mathlib.Data.List.Nodup
import SysReg.Proofs.Catalog.Integrity
import SysReg.Proofs.Result

/-!
# Every breach is told once

A table breaks an invariant at places: at a register, at two of them, at a field or at two fields of
one register.  `Breaks` says what each place breaks, without the search for violations and without
regard to what else is broken there.

The search leaves a field with an invalid range at once, before it compares the labels, so what
`Breaks` says of such a field and an earlier one with the same label is not found: it `IsMasked`.
`told_ofList` is that nothing else is: the search lists what is broken, but for what is masked, with
one entry for each place.  `Told` is kept by each way in which the search is put together, so the
proof goes through the parts of the search and never through its result.
-/

namespace SysReg

/-! ## Lists that tell of places -/

section Told

variable {ι κ α β : Type}

/-- The list has one entry for each place at which the relation holds, and the entry is what the
relation says of the place. -/
def Told (R : ι → β → Prop) (out : List β) : Prop :=
  ∃ places : List ι, places.Nodup ∧ (∀ p, p ∈ places ↔ ∃ v, R p v) ∧ List.Forall₂ R places out

namespace Told

variable {R S : ι → β → Prop} {out out' : List β}

lemma congr (h : Told R out) (hRS : ∀ p v, R p v ↔ S p v) : Told S out := by
  obtain rfl : R = S := by
    funext p v
    exact propext (hRS p v)
  exact h

/-- What is told of different places, one element of a list for each. -/
lemma of_map {xs : List α} {tell : α → β} (place : α → ι)
    (hplaces : xs.Pairwise fun x y => place x ≠ place y)
    (hR : ∀ p v, R p v ↔ ∃ x ∈ xs, p = place x ∧ v = tell x) : Told R (xs.map tell) := by
  refine ⟨xs.map place, List.pairwise_map.2 hplaces, fun p => ?_, ?_⟩
  · simp only [hR, List.mem_map]
    constructor
    · rintro ⟨x, hx, rfl⟩
      exact ⟨tell x, x, hx, rfl, rfl⟩
    · rintro ⟨_, x, hx, rfl, -⟩
      exact ⟨x, hx, rfl⟩
  · rw [List.forall₂_map_left_iff, List.forall₂_map_right_iff, List.forall₂_same]
    exact fun x hx => (hR _ _).2 ⟨x, hx, rfl, rfl⟩

/-- Nothing is told of a relation that holds nowhere. -/
lemma nil (hR : ∀ p v, ¬R p v) : Told R [] := by
  refine ⟨[], .nil, fun p => ?_, .nil⟩
  refine iff_of_false List.not_mem_nil ?_
  rintro ⟨v, hv⟩
  exact hR p v hv

/-- What is told of a single place. -/
lemma singleton {tell : β} (place : ι) (hR : ∀ p v, R p v ↔ p = place ∧ v = tell) :
    Told R [tell] := by
  refine ⟨[place], List.nodup_singleton place, fun p => ?_, .cons ((hR _ _).2 ⟨rfl, rfl⟩) .nil⟩
  simp [hR]

/-- What is told of a single place, if the relation holds there. -/
lemma of_ite {c : Prop} [Decidable c] {tell : β} (place : ι)
    (hR : ∀ p v, R p v ↔ c ∧ p = place ∧ v = tell) : Told R (if c then [tell] else []) := by
  by_cases hc : c
  · rw [if_pos hc]
    exact singleton place fun p v => (hR p v).trans (and_iff_right hc)
  · rw [if_neg hc]
    exact nil fun p v hv => hc ((hR p v).1 hv).1

lemma append (h : Told R out) (h' : Told S out') (hapart : ∀ p v v', R p v → ¬S p v') :
    Told (fun p v => R p v ∨ S p v) (out ++ out') := by
  obtain ⟨places, hnodup, hmem, htold⟩ := h
  obtain ⟨places', hnodup', hmem', htold'⟩ := h'
  refine ⟨places ++ places', List.nodup_append.2 ⟨hnodup, hnodup', ?_⟩, fun p => ?_, ?_⟩
  · rintro p hp q hq rfl
    obtain ⟨v, hv⟩ := (hmem p).1 hp
    obtain ⟨v', hv'⟩ := (hmem' p).1 hq
    exact hapart p v v' hv hv'
  · rw [List.mem_append, hmem, hmem', exists_or]
  · exact List.rel_append (htold.imp fun _ _ => .inl) (htold'.imp fun _ _ => .inr)

/-- What lists tell of their own places, all of them together. -/
lemma flatten {R : Nat → ι → β → Prop} {outs : List (List β)}
    (h : ∀ i out, outs[i]? = some out → Told (R i) out)
    (hbound : ∀ i p v, R i p v → i < outs.length)
    (hapart : ∀ i j p v v', R i p v → R j p v' → i = j) :
    Told (fun p v => ∃ i, R i p v) outs.flatten := by
  induction outs generalizing R with
  | nil =>
    refine ⟨[], .nil, fun p => ?_, .nil⟩
    refine iff_of_false List.not_mem_nil ?_
    rintro ⟨v, i, hv⟩
    exact Nat.not_lt_zero i (hbound i p v hv)
  | cons out outs ih =>
    have hrest : Told (fun p v => ∃ i, R (i + 1) p v) outs.flatten := by
      refine ih (R := fun i => R (i + 1)) (fun i out hout => h (i + 1) out hout)
        (fun i p v hv => ?_) fun i j p v v' hv hv' => ?_
      · exact Nat.lt_of_succ_lt_succ (hbound (i + 1) p v hv)
      · exact Nat.succ.inj (hapart _ _ p v v' hv hv')
    rw [List.flatten_cons]
    refine ((h 0 out rfl).append hrest ?_).congr fun p v => ?_
    · rintro p v v' hv ⟨i, hv'⟩
      exact absurd (hapart _ _ p v v' hv hv') (Nat.succ_ne_zero i).symm
    · constructor
      · rintro (hv | ⟨i, hv⟩)
        · exact ⟨0, hv⟩
        · exact ⟨i + 1, hv⟩
      · rintro ⟨i, hv⟩
        cases i with
        | zero => exact .inl hv
        | succ i => exact .inr ⟨i, hv⟩

/-- The same of places that lie within another one. -/
lemma within (h : Told R out) (place : ι → κ) (hplace : Function.Injective place) :
    Told (fun q v => ∃ p, q = place p ∧ R p v) out := by
  obtain ⟨places, hnodup, hmem, htold⟩ := h
  refine ⟨places.map place, hnodup.map hplace, fun q => ?_, ?_⟩
  · simp only [List.mem_map, hmem]
    constructor
    · rintro ⟨p, ⟨v, hv⟩, rfl⟩
      exact ⟨v, p, rfl, hv⟩
    · rintro ⟨v, p, rfl, hv⟩
      exact ⟨p, ⟨v, hv⟩, rfl⟩
  · rw [List.forall₂_map_left_iff]
    exact htold.imp fun p v hv => ⟨p, rfl, hv⟩

/-- What the relation says of a place is told, if it says but one thing of each. -/
lemma mem (h : Told R out) (hR : ∀ p v v', R p v → R p v' → v = v') {p : ι} {v : β}
    (hv : R p v) : v ∈ out := by
  obtain ⟨places, -, hmem, htold⟩ := h
  obtain ⟨v', hv', hpv'⟩ := exists_mem_of_forall₂ htold ((hmem p).2 ⟨v, hv⟩)
  rwa [hR p v v' hv hpv']

end Told
end Told

namespace Violation

/-- A search that looks at each element with those before it finds what is found at each. -/
lemma eachWithEarlier_eq_flatten {α β : Type} (check : List α → α → List β) (earlier xs : List α) :
    eachWithEarlier check earlier xs =
      (xs.mapIdx fun i x => check (earlier ++ xs.take i) x).flatten := by
  induction xs generalizing earlier with
  | nil => rfl
  | cons x xs ih =>
    simp [eachWithEarlier, ih, List.mapIdx_cons]

lemma told_eachWithEarlier {ι α β : Type} (check : List α → α → List β) (xs : List α)
    (R : Nat → ι → β → Prop) (h : ∀ i x, xs[i]? = some x → Told (R i) (check (xs.take i) x))
    (hbound : ∀ i p v, R i p v → ∃ x, xs[i]? = some x)
    (hapart : ∀ i j p v v', R i p v → R j p v' → i = j) :
    Told (fun p v => ∃ i, R i p v) (eachWithEarlier check [] xs) := by
  rw [eachWithEarlier_eq_flatten]
  refine Told.flatten (fun i out hout => ?_) (fun i p v hv => ?_) hapart
  · rw [List.getElem?_mapIdx, Option.map_eq_some_iff] at hout
    obtain ⟨x, hx, rfl⟩ := hout
    exact h i x hx
  · obtain ⟨x, hx⟩ := hbound i p v hv
    rw [List.length_mapIdx]
    exact (List.getElem?_eq_some_iff.1 hx).1

end Violation

/-! ## Within a register -/

/-- A repeated label that no search reports: the range of the field that repeats it is invalid. -/
def Violation.IsMasked : Violation → Prop
  | duplicateLabel _ g => ¬g.bits.IsValid
  | _ => False

namespace Definition

/-- A place in a register: a field, a value of a field, or two fields with the later one last. -/
inductive Place where
  | range (k : Nat)
  | flag (k : Nat)
  | value (k : Nat) (w : Word)
  | labels (j k : Nat)
  | bits (j k : Nat)
  deriving DecidableEq

/-- The position of the field, or of the later one of two. -/
def Place.last : Place → Nat
  | range k | flag k | value k _ | labels _ k | bits _ k => k

/-- What a register breaks at a place, whatever it breaks elsewhere.  Labels are compared whatever
the ranges of their fields are; the other fields are held against their bits only if these are bits
of a register. -/
inductive Breaks (d : Definition) : Place → Violation → Prop where
  | range {k : Nat} {f : Field} (hf : d.fields[k]? = some f) (h : ¬f.bits.IsValid) :
      Breaks d (.range k) (.invalidRange d f)
  | flag {k : Nat} {f : Field} (hf : d.fields[k]? = some f) (hvalid : f.bits.IsValid)
      (hkind : f.kind = .flag) (h : f.bits.width ≠ 1) : Breaks d (.flag k) (.wideFlag d f)
  | value {k : Nat} {f : Field} {values : Enumeration} {w : Word} {meaning : String}
      (hf : d.fields[k]? = some f) (hvalid : f.bits.IsValid) (hkind : f.kind = .enumerated values)
      (hentry : (w, meaning) ∈ values.entries) (h : 2 ^ f.bits.width ≤ w.toNat) :
      Breaks d (.value k w) (.largeValue d f w meaning)
  | labels {j k : Nat} {f g : Field} (hf : d.fields[j]? = some f) (hg : d.fields[k]? = some g)
      (hjk : j < k) (h : f.label = g.label) : Breaks d (.labels j k) (.duplicateLabel d g)
  | bits {j k : Nat} {f g : Field} (hf : d.fields[j]? = some f) (hg : d.fields[k]? = some g)
      (hjk : j < k) (hvalid : f.bits.IsValid) (hvalid' : g.bits.IsValid)
      (h : ∃ bit, f.Covers bit ∧ g.Covers bit) : Breaks d (.bits j k) (.overlap d f g)

variable {d : Definition} {f g : Field} {j k : Nat}

/-- Every value of an enumeration has one meaning. -/
lemma meaning_unique {values : Enumeration} {w : Word} {meaning meaning' : String}
    (h : (w, meaning) ∈ values.entries) (h' : (w, meaning') ∈ values.entries) :
    meaning = meaning' := by
  have hkeys : (values.entries.map Prod.fst).Nodup := by
    refine List.pairwise_map.2 (values.ascending.imp fun hlt heq => ?_)
    rw [heq] at hlt
    exact Nat.lt_irrefl _ hlt
  exact congrArg Prod.snd (List.inj_on_of_nodup_map hkeys h h' rfl)

/-- A place breaks one thing at most. -/
lemma Breaks.unique {p : Place} {v v' : Violation} (h : d.Breaks p v) (h' : d.Breaks p v') :
    v = v' := by
  cases h with
  | range hf _ =>
    cases h' with
    | range hf' _ =>
      obtain rfl := Option.some.inj (hf.symm.trans hf')
      rfl
  | flag hf _ _ _ =>
    cases h' with
    | flag hf' _ _ _ =>
      obtain rfl := Option.some.inj (hf.symm.trans hf')
      rfl
  | value hf _ hkind hentry _ =>
    cases h' with
    | value hf' _ hkind' hentry' _ =>
      obtain rfl := Option.some.inj (hf.symm.trans hf')
      obtain rfl := FieldKind.enumerated.inj (hkind.symm.trans hkind')
      obtain rfl := meaning_unique hentry hentry'
      rfl
  | labels _ hg _ _ =>
    cases h' with
    | labels _ hg' _ _ =>
      obtain rfl := Option.some.inj (hg.symm.trans hg')
      rfl
  | bits hf hg _ _ _ _ =>
    cases h' with
    | bits hf' hg' _ _ _ _ =>
      obtain rfl := Option.some.inj (hf.symm.trans hf')
      obtain rfl := Option.some.inj (hg.symm.trans hg')
      rfl

lemma breaks_flag_iff (hf : d.fields[k]? = some f) (hvalid : f.bits.IsValid) {v : Violation} :
    d.Breaks (.flag k) v ↔ f.kind = .flag ∧ f.bits.width ≠ 1 ∧ v = .wideFlag d f := by
  constructor
  · intro h
    cases h with
    | flag hf' _ hkind h =>
      obtain rfl := Option.some.inj (hf.symm.trans hf')
      exact ⟨hkind, h, rfl⟩
  · rintro ⟨hkind, h, rfl⟩
    exact .flag hf hvalid hkind h

lemma breaks_value_iff (hf : d.fields[k]? = some f) (hvalid : f.bits.IsValid) {w : Word}
    {v : Violation} : d.Breaks (.value k w) v ↔ ∃ values meaning, f.kind = .enumerated values ∧
      (w, meaning) ∈ values.entries ∧ 2 ^ f.bits.width ≤ w.toNat ∧
        v = .largeValue d f w meaning := by
  constructor
  · intro h
    cases h with
    | value hf' _ hkind hentry h =>
      obtain rfl := Option.some.inj (hf.symm.trans hf')
      exact ⟨_, _, hkind, hentry, h, rfl⟩
  · rintro ⟨values, meaning, hkind, hentry, h, rfl⟩
    exact .value hf hvalid hkind hentry h

/-- What is reported of a kind is that a flag is wide, or which values of an enumeration are too
large. -/
lemma told_ofKind (hf : d.fields[k]? = some f) (hvalid : f.bits.IsValid) :
    Told (fun p v => d.Breaks p v ∧ (p = .flag k ∨ ∃ w, p = .value k w))
      (Violation.ofKind d f) := by
  have hkinds (p : Place) (v : Violation) :
      d.Breaks p v ∧ (p = .flag k ∨ ∃ w, p = .value k w) ↔
        (p = .flag k ∧ f.kind = .flag ∧ f.bits.width ≠ 1 ∧ v = .wideFlag d f) ∨
        ∃ w values meaning, p = .value k w ∧ f.kind = .enumerated values ∧
          (w, meaning) ∈ values.entries ∧ 2 ^ f.bits.width ≤ w.toNat ∧
            v = .largeValue d f w meaning := by
    rw [and_or_left, ← exists_and_left]
    refine or_congr ?_ (exists_congr fun w => ?_)
    · rw [and_comm]
      refine and_congr_right ?_
      rintro rfl
      exact breaks_flag_iff hf hvalid
    · simp only [exists_and_left]
      rw [and_comm]
      refine and_congr_right ?_
      rintro rfl
      simpa only [exists_and_left] using breaks_value_iff hf hvalid
  refine Told.congr ?_ fun p v => (hkinds p v).symm
  unfold Violation.ofKind
  cases hkind : f.kind with
  | flag =>
    rw [← ite_not]
    refine Told.of_ite (.flag k) fun p v => ?_
    simp only [reduceCtorEq, false_and, and_false, exists_false, or_false, true_and]
    exact and_left_comm
  | enumerated values =>
    refine Told.of_map (fun entry => .value k entry.1) ?_ fun p v => ?_
    · refine (values.ascending.filter _).imp fun hlt heq => ?_
      rw [(Place.value.inj heq).2] at hlt
      exact Nat.lt_irrefl _ hlt
    · simp only [reduceCtorEq, false_and, and_false, false_or, List.mem_filter, decide_eq_true_eq,
        Prod.exists, FieldKind.enumerated.injEq]
      constructor
      · rintro ⟨w, _, meaning, rfl, rfl, hentry, h, rfl⟩
        exact ⟨w, meaning, ⟨hentry, h⟩, rfl, rfl⟩
      · rintro ⟨w, meaning, ⟨hentry, h⟩, rfl, rfl⟩
        exact ⟨w, values, meaning, rfl, rfl, hentry, h, rfl⟩
  | counter => exact Told.nil (by simp)
  | signed => exact Told.nil (by simp)
  | raw => exact Told.nil (by simp)

/-- What is reported of two fields is a common label, or that both ranges are valid and overlap. -/
lemma told_ofPair (hf : d.fields[j]? = some f) (hg : d.fields[k]? = some g) (hjk : j < k)
    (hvalid : g.bits.IsValid) :
    Told (fun p v => d.Breaks p v ∧ (p = .labels j k ∨ p = .bits j k))
      (Violation.ofPair d g f) := by
  have hlabels : Told (fun p v => d.Breaks p v ∧ p = .labels j k)
      (if f.label = g.label then [.duplicateLabel d g] else []) := by
    refine Told.of_ite (.labels j k) fun p v => ?_
    constructor
    · rintro ⟨h, rfl⟩
      cases h with
      | labels hf' hg' _ h =>
        obtain rfl := Option.some.inj (hf.symm.trans hf')
        obtain rfl := Option.some.inj (hg.symm.trans hg')
        exact ⟨h, rfl, rfl⟩
    · rintro ⟨h, rfl, rfl⟩
      exact ⟨.labels hf hg hjk h, rfl⟩
  have hbits : Told (fun p v => d.Breaks p v ∧ p = .bits j k)
      (if f.bits.IsValid ∧ f.bits.Overlaps g.bits then [.overlap d f g] else []) := by
    refine Told.of_ite (.bits j k) fun p v => ?_
    constructor
    · rintro ⟨h, rfl⟩
      cases h with
      | bits hf' hg' _ hfvalid _ h =>
        obtain rfl := Option.some.inj (hf.symm.trans hf')
        obtain rfl := Option.some.inj (hg.symm.trans hg')
        exact ⟨⟨hfvalid, (Field.overlaps_iff hfvalid hvalid).2 h⟩, rfl, rfl⟩
    · rintro ⟨⟨hfvalid, h⟩, rfl, rfl⟩
      exact ⟨.bits hf hg hjk hfvalid hvalid ((Field.overlaps_iff hfvalid hvalid).1 h), rfl⟩
  refine (hlabels.append hbits ?_).congr fun p v => and_or_left.symm
  rintro p v v' ⟨-, rfl⟩ ⟨-, heq⟩
  cases heq

/-- What is reported of a field with those before it is what it breaks with one of them. -/
lemma told_pairs (hg : d.fields[k]? = some g) (hvalid : g.bits.IsValid) :
    Told (fun p v => ∃ j, d.Breaks p v ∧ (p = .labels j k ∨ p = .bits j k))
      ((d.fields.take k).flatMap (Violation.ofPair d g)) := by
  rw [List.flatMap_def]
  refine Told.flatten (fun j out hout => ?_) (fun j p v hv => ?_) fun i j p v v' hv hv' => ?_
  · rw [List.getElem?_map, Option.map_eq_some_iff] at hout
    obtain ⟨f, hf, rfl⟩ := hout
    rw [List.getElem?_take] at hf
    split at hf
    · next hjk => exact told_ofPair hf hg hjk hvalid
    · cases hf
  · have hk := (List.getElem?_eq_some_iff.1 hg).1
    rw [List.length_map, List.length_take]
    rcases hv with ⟨h, rfl | rfl⟩ <;> cases h <;> omega
  · rcases hv with ⟨-, rfl | rfl⟩ <;> rcases hv' with ⟨-, heq | heq⟩ <;> cases heq <;> rfl

/-- Nothing is masked at a field with a valid range. -/
lemma Breaks.not_isMasked {p : Place} {v : Violation} (h : d.Breaks p v)
    (hg : d.fields[p.last]? = some g) (hvalid : g.bits.IsValid) : ¬v.IsMasked := by
  intro hmasked
  cases h with
  | labels _ hg' _ _ =>
    obtain rfl := Option.some.inj (hg.symm.trans hg')
    exact hmasked hvalid
  | range => exact hmasked
  | flag => exact hmasked
  | value => exact hmasked
  | bits => exact hmasked

/-- At a field with an invalid range, all but the range is masked or not asked for. -/
lemma Breaks.eq_invalidRange {p : Place} {v : Violation} (h : d.Breaks p v)
    (hg : d.fields[p.last]? = some g) (hinvalid : ¬g.bits.IsValid) (hmasked : ¬v.IsMasked) :
    p = .range p.last ∧ v = .invalidRange d g := by
  cases h with
  | range hg' _ =>
    obtain rfl := Option.some.inj (hg.symm.trans hg')
    exact ⟨rfl, rfl⟩
  | flag hg' hvalid _ _ =>
    obtain rfl := Option.some.inj (hg.symm.trans hg')
    exact absurd hvalid hinvalid
  | value hg' hvalid _ _ _ =>
    obtain rfl := Option.some.inj (hg.symm.trans hg')
    exact absurd hvalid hinvalid
  | labels _ hg' _ _ =>
    obtain rfl := Option.some.inj (hg.symm.trans hg')
    exact absurd hinvalid hmasked
  | bits _ hg' _ _ hvalid _ =>
    obtain rfl := Option.some.inj (hg.symm.trans hg')
    exact absurd hvalid hinvalid

/-- What is reported of a field is what it breaks, alone or with a field before it. -/
lemma told_ofField (hg : d.fields[k]? = some g) :
    Told (fun p v => d.Breaks p v ∧ ¬v.IsMasked ∧ p.last = k)
      (Violation.ofField d (d.fields.take k) g) := by
  rw [Violation.ofField]
  by_cases hvalid : g.bits.IsValid
  · rw [if_pos hvalid]
    refine ((told_ofKind hg hvalid).append (told_pairs hg hvalid) ?_).congr fun p v => ?_
    · rintro p v v' ⟨-, rfl | ⟨w, rfl⟩⟩ ⟨j, -, heq | heq⟩ <;> cases heq
    · constructor
      · rintro (⟨h, rfl | ⟨w, rfl⟩⟩ | ⟨j, h, rfl | rfl⟩) <;>
          exact ⟨h, h.not_isMasked hg hvalid, rfl⟩
      · rintro ⟨h, -, rfl⟩
        cases p with
        | range k =>
          cases h with
          | range hg' h =>
            obtain rfl := Option.some.inj (hg.symm.trans hg')
            exact absurd hvalid h
        | flag k => exact .inl ⟨h, .inl rfl⟩
        | value k w => exact .inl ⟨h, .inr ⟨w, rfl⟩⟩
        | labels j k => exact .inr ⟨j, h, .inl rfl⟩
        | bits j k => exact .inr ⟨j, h, .inr rfl⟩
  · rw [if_neg hvalid]
    refine Told.singleton (.range k) fun p v => ?_
    constructor
    · rintro ⟨h, hmasked, rfl⟩
      exact h.eq_invalidRange hg hvalid hmasked
    · rintro ⟨rfl, rfl⟩
      exact ⟨.range hg hvalid, id, rfl⟩

/-- What is reported of the fields of a register is what they break, but for what is masked. -/
lemma told_ofFields (d : Definition) :
    Told (fun p v => d.Breaks p v ∧ ¬v.IsMasked) (Violation.ofFields d) := by
  have hfields := Violation.told_eachWithEarlier (Violation.ofField d) d.fields
    (fun k p v => d.Breaks p v ∧ ¬v.IsMasked ∧ p.last = k) (fun k g hg => told_ofField hg)
    (fun k p v hv => ?_) fun i j p v v' hv hv' => hv.2.2.symm.trans hv'.2.2
  · refine hfields.congr fun p v => ?_
    constructor
    · rintro ⟨k, h, hmasked, -⟩
      exact ⟨h, hmasked⟩
    · rintro ⟨h, hmasked⟩
      exact ⟨p.last, h, hmasked, rfl⟩
  · obtain ⟨h, -, rfl⟩ := hv
    cases h <;> exact ⟨_, by assumption⟩

end Definition

/-! ## Within a table -/

/-- The register at position `i` holds a key that the one at `j` holds, and none before that. -/
structure Repeats {κ : Type} (key : Definition → κ) (definitions : List Definition) (j i : Nat)
    (first d : Definition) : Prop where
  first_at : definitions[j]? = some first
  second_at : definitions[i]? = some d
  later : j < i
  same : key first = key d
  none_before : ∀ l < j, ∀ d', definitions[l]? = some d' → key d' ≠ key d

/-- There is one first holder of a key. -/
lemma Repeats.unique {κ : Type} {key : Definition → κ} {definitions : List Definition}
    {j j' i : Nat} {first first' d d' : Definition} (h : Repeats key definitions j i first d)
    (h' : Repeats key definitions j' i first' d') : j = j' ∧ first = first' ∧ d = d' := by
  obtain rfl := Option.some.inj (h.second_at.symm.trans h'.second_at)
  have hj : j = j' := by
    rcases Nat.lt_trichotomy j j' with hlt | heq | hlt
    · exact absurd h.same (h'.none_before j hlt first h.first_at)
    · exact heq
    · exact absurd h'.same (h.none_before j' hlt first' h'.first_at)
  subst hj
  exact ⟨rfl, Option.some.inj (h.first_at.symm.trans h'.first_at), rfl⟩

/-- It is the same to repeat a name up to ASCII case as a text and as a list of characters. -/
lemma repeats_foldedName_iff {definitions : List Definition} {j i : Nat} {first d : Definition} :
    Repeats Violation.foldedName definitions j i first d ↔
      Repeats (fun d => Text.fold d.name) definitions j i first d := by
  constructor
  · rintro ⟨hfirst, hd, hlater, hsame, hbefore⟩
    exact ⟨hfirst, hd, hlater, Violation.foldedName_eq_iff.1 hsame, fun l hl d' hd' h =>
      hbefore l hl d' hd' (Violation.foldedName_eq_iff.2 h)⟩
  · rintro ⟨hfirst, hd, hlater, hsame, hbefore⟩
    exact ⟨hfirst, hd, hlater, Violation.foldedName_eq_iff.2 hsame, fun l hl d' hd' h =>
      hbefore l hl d' hd' (Violation.foldedName_eq_iff.1 h)⟩

namespace Violation

/-- A place in a table: a register, two registers with the later one last, or a place in one. -/
inductive Place where
  | name (i : Nat)
  | space (i : Nat)
  | names (j i : Nat)
  | encodings (j i : Nat)
  | within (i : Nat) (p : Definition.Place)
  deriving DecidableEq

/-- The position of the register, or of the later one of two. -/
def Place.register : Place → Nat
  | name i | space i | names _ i | encodings _ i | within i _ => i

/-- What a table breaks at a place, whatever it breaks elsewhere.  A key that several registers hold
is repeated by each of them but the first. -/
inductive Breaks (definitions : List Definition) : Place → Violation → Prop where
  | name {i : Nat} {d : Definition} (hd : definitions[i]? = some d)
      (h : ∀ c ∈ d.name.toList, Text.isBlank c = true) :
      Breaks definitions (.name i) (.blankName i d)
  | space {i : Nat} {d : Definition} (hd : definitions[i]? = some d)
      (h : d.encoding.op0 ≠ 2 ∧ d.encoding.op0 ≠ 3) :
      Breaks definitions (.space i) (.instructionSpace d)
  | names {j i : Nat} {first d : Definition}
      (h : Repeats (fun d => Text.fold d.name) definitions j i first d) :
      Breaks definitions (.names j i) (.duplicateName first d)
  | encodings {j i : Nat} {first d : Definition}
      (h : Repeats Definition.encoding definitions j i first d) :
      Breaks definitions (.encodings j i) (.duplicateEncoding first d)
  | within {i : Nat} {d : Definition} {p : Definition.Place} {v : Violation}
      (hd : definitions[i]? = some d) (h : d.Breaks p v) : Breaks definitions (.within i p) v

variable {definitions : List Definition} {d : Definition} {i : Nat}

/-- A place breaks one thing at most. -/
lemma Breaks.unique {p : Place} {v v' : Violation} (h : Breaks definitions p v)
    (h' : Breaks definitions p v') : v = v' := by
  cases h with
  | name hd _ =>
    cases h' with
    | name hd' _ =>
      obtain rfl := Option.some.inj (hd.symm.trans hd')
      rfl
  | space hd _ =>
    cases h' with
    | space hd' _ =>
      obtain rfl := Option.some.inj (hd.symm.trans hd')
      rfl
  | names h =>
    cases h' with
    | names h' =>
      obtain ⟨-, rfl, rfl⟩ := h.unique h'
      rfl
  | encodings h =>
    cases h' with
    | encodings h' =>
      obtain ⟨-, rfl, rfl⟩ := h.unique h'
      rfl
  | within hd h =>
    cases h' with
    | within hd' h' =>
      obtain rfl := Option.some.inj (hd.symm.trans hd')
      exact h.unique h'

/-- The first holder of a key is what is found of it before a register. -/
lemma find?_take_eq_some_iff {κ : Type} [DecidableEq κ] {key : Definition → κ} {first : Definition}
    (hd : definitions[i]? = some d) :
    ((definitions.take i).find? fun first => key first = key d) = some first ↔
      ∃ j, Repeats key definitions j i first d := by
  have hi := (List.getElem?_eq_some_iff.1 hd).1
  rw [List.find?_eq_some_iff_getElem]
  constructor
  · rintro ⟨hsame, j, hj, rfl, hbefore⟩
    rw [List.length_take] at hj
    refine ⟨j, ?_, hd, by omega, by simpa using hsame, fun l hl d' hd' hkey => ?_⟩
    · rw [List.getElem_take, List.getElem?_eq_getElem]
    · obtain ⟨hlength, rfl⟩ := List.getElem?_eq_some_iff.1 hd'
      have hnot := hbefore l hl
      rw [List.getElem_take] at hnot
      simp [hkey] at hnot
  · rintro ⟨j, hfirst, -, hlater, hsame, hbefore⟩
    obtain ⟨hj, rfl⟩ := List.getElem?_eq_some_iff.1 hfirst
    refine ⟨by simpa using hsame, j, by rw [List.length_take]; omega, List.getElem_take, ?_⟩
    intro l hl
    rw [List.getElem_take]
    simpa using hbefore l hl _ (List.getElem?_eq_getElem (by omega))

lemma told_find {ι κ : Type} [DecidableEq κ] (key : Definition → κ) (place : Nat → ι)
    (report : Definition → Violation) (hd : definitions[i]? = some d) :
    Told
      (fun p v => ∃ j first, Repeats key definitions j i first d ∧ p = place j ∧ v = report first)
      (((definitions.take i).find? fun first => key first = key d).map report).toList := by
  cases hfind : (definitions.take i).find? fun first => key first = key d with
  | none =>
    refine Told.nil ?_
    rintro p v ⟨j, first, h, -⟩
    rw [(find?_take_eq_some_iff hd).2 ⟨j, h⟩] at hfind
    cases hfind
  | some first =>
    obtain ⟨j, h⟩ := (find?_take_eq_some_iff hd).1 hfind
    refine Told.singleton (place j) fun p v => ?_
    constructor
    · rintro ⟨j', first', h', rfl, rfl⟩
      obtain ⟨rfl, rfl, -⟩ := h.unique h'
      exact ⟨rfl, rfl⟩
    · rintro ⟨rfl, rfl⟩
      exact ⟨j, first, h, rfl, rfl⟩

/-- What is reported of a register is what it breaks, alone or with a register before it, but for
what is masked. -/
lemma told_ofDefinition (hd : definitions[i]? = some d) :
    Told (fun p v => Breaks definitions p v ∧ ¬v.IsMasked ∧ p.register = i)
      (ofDefinition (definitions.take i) d) := by
  have hi := (List.getElem?_eq_some_iff.1 hd).1
  have hname : Told (fun p v => (∀ c ∈ d.name.toList, Text.isBlank c = true) ∧
      p = Place.name i ∧ v = .blankName i d)
      (if (Text.trim d.name.toList).isEmpty then [blankName (definitions.take i).length d]
        else []) := by
    refine Told.of_ite (.name i) fun p v => ?_
    rw [List.isEmpty_iff, Text.trim_eq_nil_iff, List.length_take, Nat.min_eq_left hi.le]
  have hspace : Told (fun p v => (d.encoding.op0 ≠ 2 ∧ d.encoding.op0 ≠ 3) ∧
      p = Place.space i ∧ v = .instructionSpace d)
      (if d.encoding.isSystemRegister then [] else [instructionSpace d]) := by
    rw [← ite_not]
    refine Told.of_ite (.space i) fun p v => ?_
    rw [Encoding.isSystemRegister_iff, not_or]
  have hnames := told_find foldedName (fun j => Place.names j i) (duplicateName · d) hd
  have hencodings :=
    told_find Definition.encoding (fun j => Place.encodings j i) (duplicateEncoding · d) hd
  have hwithin := d.told_ofFields.within (Place.within i) fun p q h => (Place.within.inj h).2
  rw [ofDefinition]
  refine Told.congr
    ((((hname.append hspace ?_).append hnames ?_).append hencodings ?_).append hwithin ?_)
    fun p v => ?_
  -- Places of different shapes are different.
  · rintro p v v' ⟨-, rfl, -⟩ ⟨-, heq, -⟩
    cases heq
  · rintro p v v' (⟨-, rfl, -⟩ | ⟨-, rfl, -⟩) ⟨j, first, -, heq, -⟩ <;> cases heq
  · rintro p v v' ((⟨-, rfl, -⟩ | ⟨-, rfl, -⟩) | ⟨j, first, -, rfl, -⟩)
      ⟨j', first', -, heq, -⟩ <;> cases heq
  · rintro p v v' (((⟨-, rfl, -⟩ | ⟨-, rfl, -⟩) | ⟨j, first, -, rfl, -⟩) |
      ⟨j, first, -, rfl, -⟩) ⟨q, heq, -⟩ <;> cases heq
  · constructor
    · rintro ((((⟨h, rfl, rfl⟩ | ⟨h, rfl, rfl⟩) | ⟨j, first, h, rfl, rfl⟩) |
        ⟨j, first, h, rfl, rfl⟩) | ⟨q, rfl, h, hmasked⟩)
      · exact ⟨.name hd h, id, rfl⟩
      · exact ⟨.space hd h, id, rfl⟩
      · exact ⟨.names (repeats_foldedName_iff.1 h), id, rfl⟩
      · exact ⟨.encodings h, id, rfl⟩
      · exact ⟨.within hd h, hmasked, rfl⟩
    · rintro ⟨h, hmasked, rfl⟩
      cases h with
      | name hd' h =>
        obtain rfl := Option.some.inj (hd.symm.trans hd')
        exact .inl (.inl (.inl (.inl ⟨h, rfl, rfl⟩)))
      | space hd' h =>
        obtain rfl := Option.some.inj (hd.symm.trans hd')
        exact .inl (.inl (.inl (.inr ⟨h, rfl, rfl⟩)))
      | names h =>
        obtain rfl := Option.some.inj (hd.symm.trans h.second_at)
        exact .inl (.inl (.inr ⟨_, _, repeats_foldedName_iff.2 h, rfl, rfl⟩))
      | encodings h =>
        obtain rfl := Option.some.inj (hd.symm.trans h.second_at)
        exact .inl (.inr ⟨_, _, h, rfl, rfl⟩)
      | within hd' h =>
        obtain rfl := Option.some.inj (hd.symm.trans hd')
        exact .inr ⟨_, rfl, h, hmasked⟩

/-- **Every breach is told once.** -/
lemma told_ofList (definitions : List Definition) :
    Told (fun p v => Breaks definitions p v ∧ ¬v.IsMasked) (ofList definitions) := by
  have hregisters := told_eachWithEarlier ofDefinition definitions
    (fun i p v => Breaks definitions p v ∧ ¬v.IsMasked ∧ p.register = i)
    (fun i d hd => told_ofDefinition hd) (fun i p v hv => ?_)
    fun i j p v v' hv hv' => hv.2.2.symm.trans hv'.2.2
  · refine hregisters.congr fun p v => ?_
    constructor
    · rintro ⟨i, h, hmasked, -⟩
      exact ⟨h, hmasked⟩
    · rintro ⟨h, hmasked⟩
      exact ⟨p.register, h, hmasked, rfl⟩
  · obtain ⟨h, -, rfl⟩ := hv
    cases h with
    | name hd _ => exact ⟨_, hd⟩
    | space hd _ => exact ⟨_, hd⟩
    | names h => exact ⟨_, h.second_at⟩
    | encodings h => exact ⟨_, h.second_at⟩
    | within hd _ => exact ⟨_, hd⟩

/-- A breach that is not masked is among the violations. -/
lemma mem_ofList_of_breaks {p : Place} {v : Violation} (h : Breaks definitions p v)
    (hmasked : ¬v.IsMasked) : v ∈ ofList definitions :=
  (told_ofList definitions).mem (fun _ _ _ hv hv' => hv.1.unique hv'.1) ⟨h, hmasked⟩

end Violation
end SysReg
