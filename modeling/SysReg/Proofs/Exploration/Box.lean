import SysReg.Exploration.Box
import SysReg.Proofs.Encoding.Spelling

/-!
# The encodings of a box

A box that can be made lists its encodings in ascending order of their packed bits
(`pairwise_packed_encodings`), each once (`nodup_encodings`), and as many as its size says
(`length_encodings`).

The packed bits are places of a number, one for each component.  What a component below adds stays
within the place of the one above it, so that the order is settled place by place
(`Ascends.flatMap`).
-/

namespace SysReg

/-! ## Boxes that can be made -/

/-- Bounds in order, whose values fit into the bits of the component. -/
structure Bounds.Within (b : Bounds) (component : Component) : Prop where
  ordered : b.low ≤ b.high
  fits : b.high < component.size

/-- A box that can be made: from bounds that are accepted, of a single encoding, or of the encodings
that the architecture leaves to implementations. -/
inductive Box.Made : Box → Prop where
  | ofBounds {op0 op1 crn crm op2 : Bounds} {b : Box}
      (h : Box.ofBounds op0 op1 crn crm op2 = .ok b) : Made b
  | single (e : Encoding) : Made (.single e)
  | implementationDefined : Made .implementationDefined

lemma Bounds.check_eq_ok_iff {b : Bounds} {component : Component} :
    b.check component = .ok () ↔
      component.least ≤ b.low ∧ b.low ≤ b.high ∧ b.high < component.size := by
  have hbound (n : Nat) :
      (∃ v, (component.check n).mapError Failure.encoding = .ok v) ↔
        component.least ≤ n ∧ n < component.size := by
    rw [← Component.admits_natCast_iff, ← Component.exists_check_eq_ok_iff]
    cases component.check n <;> simp [Except.mapError]
  have hlow := hbound b.low
  have hhigh := hbound b.high
  rw [check, bind_eq_ok_iff]
  constructor
  · rintro ⟨v, hv, hrest⟩
    obtain ⟨v', hv', hordered⟩ := bind_eq_ok_iff.1 hrest
    split at hordered
    · next h => exact ⟨(hlow.1 ⟨v, hv⟩).1, h, (hhigh.1 ⟨v', hv'⟩).2⟩
    · exact nomatch hordered
  · rintro ⟨hleast, hordered, hfits⟩
    obtain ⟨v, hv⟩ := hlow.2 ⟨hleast, by omega⟩
    obtain ⟨v', hv'⟩ := hhigh.2 ⟨by omega, hfits⟩
    exact ⟨v, hv, bind_eq_ok_iff.2 ⟨v', hv', if_pos hordered⟩⟩

namespace Box

lemma within_of_ofBounds {op0 op1 crn crm op2 : Bounds} {b : Box}
    (h : ofBounds op0 op1 crn crm op2 = .ok b) (component : Component) :
    (b.of component).Within component := by
  obtain ⟨⟨⟩, h0, h⟩ := bind_eq_ok_iff.1 h
  obtain ⟨⟨⟩, h1, h⟩ := bind_eq_ok_iff.1 h
  obtain ⟨⟨⟩, h2, h⟩ := bind_eq_ok_iff.1 h
  obtain ⟨⟨⟩, h3, h⟩ := bind_eq_ok_iff.1 h
  obtain ⟨⟨⟩, h4, h⟩ := bind_eq_ok_iff.1 h
  obtain rfl := Except.ok.inj h
  cases component with
  | op0 => exact ⟨(Bounds.check_eq_ok_iff.1 h0).2.1, (Bounds.check_eq_ok_iff.1 h0).2.2⟩
  | op1 => exact ⟨(Bounds.check_eq_ok_iff.1 h1).2.1, (Bounds.check_eq_ok_iff.1 h1).2.2⟩
  | crn => exact ⟨(Bounds.check_eq_ok_iff.1 h2).2.1, (Bounds.check_eq_ok_iff.1 h2).2.2⟩
  | crm => exact ⟨(Bounds.check_eq_ok_iff.1 h3).2.1, (Bounds.check_eq_ok_iff.1 h3).2.2⟩
  | op2 => exact ⟨(Bounds.check_eq_ok_iff.1 h4).2.1, (Bounds.check_eq_ok_iff.1 h4).2.2⟩

/-- The bounds of a box that can be made are in order and fit their components. -/
lemma Made.within {b : Box} (h : b.Made) (component : Component) :
    (b.of component).Within component := by
  cases h with
  | ofBounds h => exact within_of_ofBounds h component
  | single e =>
    cases component with
    | op0 => exact ⟨Nat.le_refl _, e.op0.isLt⟩
    | op1 => exact ⟨Nat.le_refl _, e.op1.isLt⟩
    | crn => exact ⟨Nat.le_refl _, e.crn.isLt⟩
    | crm => exact ⟨Nat.le_refl _, e.crm.isLt⟩
    | op2 => exact ⟨Nat.le_refl _, e.op2.isLt⟩
  | implementationDefined => cases component <;> exact ⟨by decide, by decide⟩

end Box

/-! ## Order -/

namespace Bounds

variable {b : Bounds} {component : Component}

lemma mem_values_iff {n : Nat} : n ∈ b.values ↔ b.low ≤ n ∧ n ≤ b.high := by
  rw [values, List.mem_range'_1]
  omega

lemma Within.lt_of_mem (h : b.Within component) {n : Nat} (hn : n ∈ b.values) :
    n < component.size :=
  Nat.lt_of_le_of_lt (mem_values_iff.1 hn).2 h.fits

lemma Within.length_values (h : b.Within component) : b.values.length = b.high - b.low + 1 := by
  have := h.ordered
  rw [values, List.length_range']
  omega

end Bounds

/-- The encodings ascend, and their packed bits lie in a place that begins at `base`. -/
structure Ascends (base width : Nat) (es : List Encoding) : Prop where
  pairwise : es.Pairwise fun x y => x.packed < y.packed
  low : ∀ e ∈ es, base ≤ e.packed
  high : ∀ e ∈ es, e.packed < base + width

/-- Encodings that ascend within the places of the values of a component ascend together, within the
place of all values of the component. -/
lemma Ascends.flatMap {b : Bounds} {component : Component} {base : Nat} (width : Nat)
    {f : Nat → List Encoding} (hb : b.Within component)
    (h : ∀ n ∈ b.values, Ascends (base + n * width) width (f n)) :
    Ascends base (component.size * width) (b.values.flatMap f) where
  pairwise := by
    rw [List.pairwise_flatMap]
    refine ⟨fun n hn => (h n hn).pairwise, ?_⟩
    have hvalues : b.values.Pairwise (· < ·) := List.pairwise_lt_range' 1
    refine hvalues.imp_of_mem fun {m n} hm hn hlt x hx y hy => ?_
    -- All of the place of `m` lies below that of `n`.
    have hplace : (m + 1) * width ≤ n * width := Nat.mul_le_mul_right width hlt
    have hx := (h m hm).high x hx
    have hy := (h n hn).low y hy
    rw [Nat.add_mul, Nat.one_mul] at hplace
    omega
  low e he := by
    obtain ⟨n, hn, he⟩ := List.mem_flatMap.1 he
    exact Nat.le_trans (Nat.le_add_right _ _) ((h n hn).low e he)
  high e he := by
    obtain ⟨n, hn, he⟩ := List.mem_flatMap.1 he
    have hplace : (n + 1) * width ≤ component.size * width :=
      Nat.mul_le_mul_right width (hb.lt_of_mem hn)
    have hhigh := (h n hn).high e he
    rw [Nat.add_mul, Nat.one_mul] at hplace
    omega

/-- Components that fit their places are what they are in the packed bits. -/
lemma Encoding.packed_truncating {op0 op1 crn crm op2 : Nat} (h0 : op0 < 4) (h1 : op1 < 8)
    (h2 : crn < 16) (h3 : crm < 16) (h4 : op2 < 8) :
    (truncating op0 op1 crn crm op2).packed =
      op0 * 16384 + op1 * 2048 + crn * 128 + crm * 8 + op2 := by
  simp only [truncating, packed, Fin.ofNat, Nat.mod_eq_of_lt h0, Nat.mod_eq_of_lt h1,
    Nat.mod_eq_of_lt h2, Nat.mod_eq_of_lt h3, Nat.mod_eq_of_lt h4]

namespace Box

variable {b : Box}

lemma ascends_encodings (h : ∀ component, (b.of component).Within component) :
    Ascends 0 65536 b.encodings := by
  refine Ascends.flatMap 16384 (h .op0) fun op0 h0 => ?_
  refine Ascends.flatMap 2048 (h .op1) fun op1 h1 => ?_
  refine Ascends.flatMap 128 (h .crn) fun crn h2 => ?_
  refine Ascends.flatMap 8 (h .crm) fun crm h3 => ?_
  rw [List.map_eq_flatMap]
  refine Ascends.flatMap 1 (h .op2) fun op2 h4 => ?_
  have hpacked := Encoding.packed_truncating ((h .op0).lt_of_mem h0) ((h .op1).lt_of_mem h1)
    ((h .crn).lt_of_mem h2) ((h .crm).lt_of_mem h3) ((h .op2).lt_of_mem h4)
  refine ⟨List.pairwise_singleton _ _, ?_, ?_⟩
  · rw [List.forall_mem_singleton, hpacked]
    omega
  · rw [List.forall_mem_singleton, hpacked]
    omega

/-- A box lists its encodings in ascending order. -/
lemma Made.pairwise_packed_encodings (h : b.Made) :
    b.encodings.Pairwise fun x y => x.packed < y.packed :=
  (ascends_encodings h.within).pairwise

/-- A box lists no encoding twice. -/
lemma Made.nodup_encodings (h : b.Made) : b.encodings.Nodup :=
  h.pairwise_packed_encodings.imp fun hlt heq => Nat.ne_of_lt hlt (congrArg Encoding.packed heq)

/-! ## Size -/

/-- Lists of one length for each value within bounds are together as long as their product says. -/
lemma length_flatMap_values {α : Type} {bounds : Bounds} {component : Component} {n : Nat}
    {f : Nat → List α} (h : bounds.Within component) (hf : ∀ v, (f v).length = n) :
    (bounds.values.flatMap f).length = (bounds.high - bounds.low + 1) * n := by
  rw [List.length_flatMap, ← h.length_values]
  simp only [hf, List.map_const', List.sum_replicate_nat]

/-- A box lists as many encodings as its size says. -/
lemma Made.length_encodings (h : b.Made) : b.encodings.length = b.size := by
  have h := h.within
  rw [size, Nat.mul_assoc, Nat.mul_assoc, Nat.mul_assoc]
  refine length_flatMap_values (h .op0) fun op0 => ?_
  refine length_flatMap_values (h .op1) fun op1 => ?_
  refine length_flatMap_values (h .crn) fun crn => ?_
  refine length_flatMap_values (h .crm) fun crm => ?_
  rw [List.length_map]
  exact (h .op2).length_values

end Box
end SysReg
