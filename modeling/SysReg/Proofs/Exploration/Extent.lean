import SysReg.Proofs.Exploration.Box

/-!
# The extent of a box

A box that can be made lists the encodings between its bounds and no others, and five pairs of
bounds make a box exactly if each bound could stand in an encoding and no pair is inverted
(`extent_exact`).  What a refusal reports is the first component that is wrong, and of this the
first thing that is wrong with it.

The components of an encoding are cut to their bits when it is put together.  Bounds that were
checked leave nothing to cut off, so that each combination is listed as itself and not as another
(`Box.mem_encodings_iff`).  Checking goes through the components as a list, which makes the first
offence that of a list (`Box.ofBounds_eq`).
-/

namespace SysReg

/-! ## Components -/

/-- The value of a component in an encoding. -/
def Encoding.component (e : Encoding) : Component → Nat
  | .op0 => e.op0
  | .op1 => e.op1
  | .crn => e.crn
  | .crm => e.crm
  | .op2 => e.op2

/-- An encoding is put together from its components. -/
lemma Encoding.truncating_component (e : Encoding) :
    truncating (e.component .op0) (e.component .op1) (e.component .crn) (e.component .crm)
      (e.component .op2) = e := by
  simp [truncating, component]

/-- Numbers that fit into their bits are the components of the encoding that they make. -/
lemma Encoding.component_truncating {parts : Component → Nat} (h : ∀ c, parts c < c.size)
    (c : Component) :
    (truncating (parts .op0) (parts .op1) (parts .crn) (parts .crm) (parts .op2)).component c =
      parts c := by
  cases c <;> exact Nat.mod_eq_of_lt (h _)

namespace Component

variable {c : Component} {n : Nat}

/-- The number is accepted as this component: together with suitable others it makes an encoding. -/
def Accepts (c : Component) (n : Nat) : Prop :=
  ∃ parts : Component → Int, parts c = n ∧ ∃ e, Encoding.ofIntegers (parts op0) (parts op1)
    (parts crn) (parts crm) (parts op2) = .ok e

/-- Five integers make an encoding exactly if each passes the check of its component. -/
lemma exists_ofIntegers_iff {parts : Component → Int} :
    (∃ e, Encoding.ofIntegers (parts op0) (parts op1) (parts crn) (parts crm) (parts op2) = .ok e) ↔
      ∀ c : Component, ∃ v, c.check (parts c) = .ok v := by
  simp only [Encoding.ofIntegers_eq_ok_iff]
  constructor
  · rintro ⟨e, h0, h1, h2, h3, h4⟩ c
    cases c with
    | op0 => exact ⟨_, h0⟩
    | op1 => exact ⟨_, h1⟩
    | crn => exact ⟨_, h2⟩
    | crm => exact ⟨_, h3⟩
    | op2 => exact ⟨_, h4⟩
  · intro h
    obtain ⟨v0, h0⟩ := h op0
    obtain ⟨v1, h1⟩ := h op1
    obtain ⟨v2, h2⟩ := h crn
    obtain ⟨v3, h3⟩ := h crm
    obtain ⟨v4, h4⟩ := h op2
    exact ⟨⟨v0, v1, v2, v3, v4⟩, h0, h1, h2, h3, h4⟩

lemma accepts_iff : c.Accepts n ↔ c.least ≤ n ∧ n < c.size := by
  rw [← admits_natCast_iff, ← exists_check_eq_ok_iff]
  constructor
  · rintro ⟨parts, hn, hparts⟩
    rw [← hn]
    exact exists_ofIntegers_iff.1 hparts c
  · intro hcheck
    -- The least value of every other component is one that it accepts.
    refine ⟨Function.update (fun c => (c.least : Int)) c n, Function.update_self .., ?_⟩
    refine exists_ofIntegers_iff.2 fun c' => ?_
    by_cases hc : c' = c
    · subst hc
      rwa [Function.update_self]
    · rw [Function.update_of_ne hc, exists_check_eq_ok_iff, admits_natCast_iff]
      cases c' <;> decide

end Component

/-! ## Bounds of a component -/

namespace Bounds

variable {b : Bounds} {component : Component} {failure : Failure}

/-- Both bounds are accepted as the component, and they are in order. -/
structure Acceptable (b : Bounds) (component : Component) : Prop where
  low : component.Accepts b.low
  high : component.Accepts b.high
  ordered : b.low ≤ b.high

/-- What is wrong with the bounds, the lower one coming first. -/
inductive Offends (b : Bounds) (component : Component) : Failure → Prop where
  | low (h : ¬component.Accepts b.low) :
      Offends b component (.encoding (.outOfRange component b.low))
  | high (hlow : component.Accepts b.low) (h : ¬component.Accepts b.high) :
      Offends b component (.encoding (.outOfRange component b.high))
  | inverted (hlow : component.Accepts b.low) (hhigh : component.Accepts b.high)
      (h : b.high < b.low) :
      Offends b component (.argument (.emptyRange component b.low b.high))

lemma check_eq_ok_iff_acceptable : b.check component = .ok () ↔ b.Acceptable component := by
  rw [check_eq_ok_iff]
  constructor
  · rintro ⟨hleast, hordered, hfits⟩
    exact ⟨Component.accepts_iff.2 ⟨hleast, by omega⟩, Component.accepts_iff.2 ⟨by omega, hfits⟩,
      hordered⟩
  · rintro ⟨hlow, hhigh, hordered⟩
    exact ⟨(Component.accepts_iff.1 hlow).1, hordered, (Component.accepts_iff.1 hhigh).2⟩

lemma acceptable_or_offends (b : Bounds) (component : Component) :
    b.Acceptable component ∨ ∃ failure, b.Offends component failure := by
  by_cases hlow : component.Accepts b.low
  · by_cases hhigh : component.Accepts b.high
    · by_cases hordered : b.low ≤ b.high
      · exact .inl ⟨hlow, hhigh, hordered⟩
      · exact .inr ⟨_, .inverted hlow hhigh (Nat.lt_of_not_le hordered)⟩
    · exact .inr ⟨_, .high hlow hhigh⟩
  · exact .inr ⟨_, .low hlow⟩

lemma check_of_offends (h : b.Offends component failure) : b.check component = .error failure := by
  have hcheck {n : Nat} (hn : component.Accepts n) : ∃ v, component.check n = .ok v :=
    Component.exists_check_eq_ok_iff.2
      (Component.admits_natCast_iff.2 (Component.accepts_iff.1 hn))
  have hrefuse {n : Nat} (hn : ¬component.Accepts n) :
      component.check n = .error (.outOfRange component n) :=
    Component.check_eq_error (mt Component.accepts_iff.2 hn)
  cases h with
  | low h =>
    rw [check, hrefuse h]
    rfl
  | high hlow h =>
    obtain ⟨v, hv⟩ := hcheck hlow
    rw [check, hv, hrefuse h]
    rfl
  | inverted hlow hhigh h =>
    obtain ⟨v, hv⟩ := hcheck hlow
    obtain ⟨v', hv'⟩ := hcheck hhigh
    rw [check, hv, hv']
    exact if_neg (Nat.not_le_of_lt h)

/-- Bounds are refused for what is wrong with them first. -/
lemma check_eq_error_iff : b.check component = .error failure ↔ b.Offends component failure := by
  refine ⟨fun h => ?_, check_of_offends⟩
  rcases b.acceptable_or_offends component with hok | ⟨failure', hoffends⟩
  · rw [check_eq_ok_iff_acceptable.2 hok] at h
    exact nomatch h
  · rw [check_of_offends hoffends] at h
    exact Except.error.inj h ▸ hoffends

end Bounds

namespace Box

variable {b : Box} {failure : Failure}

/-- A box is made by checking its components one after the other. -/
lemma ofBounds_eq (b : Box) : ofBounds b.op0 b.op1 b.crn b.crm b.op2 =
    (fun _ => b) <$> Component.all.mapM fun c => (b.of c).check c := by
  simp only [ofBounds, Component.all, List.mapM_cons, List.mapM_nil, of, map_eq_pure_bind,
    bind_assoc, pure_bind]

lemma ofBounds_eq_ok_iff {b' : Box} : ofBounds b.op0 b.op1 b.crn b.crm b.op2 = .ok b' ↔
    b' = b ∧ ∀ c, (b.of c).Acceptable c := by
  have hchecks : (∃ units, (Component.all.mapM fun c => (b.of c).check c) = .ok units) ↔
      ∀ c, (b.of c).Acceptable c := by
    constructor
    · rintro ⟨units, hunits⟩ c
      obtain ⟨⟨⟩, -, hc⟩ := exists_mem_of_forall₂ (mapM_eq_ok_iff.1 hunits) c.mem_all
      exact Bounds.check_eq_ok_iff_acceptable.1 hc
    · intro h
      have hall : ∀ c ∈ Component.all, ∃ u, (b.of c).check c = .ok u ∧ True := fun c _ =>
        ⟨(), Bounds.check_eq_ok_iff_acceptable.2 (h c), trivial⟩
      obtain ⟨units, hunits, -⟩ := exists_mapM_eq_ok (R := fun _ _ => True) hall
      exact ⟨units, hunits⟩
  rw [ofBounds_eq, ← hchecks]
  cases Component.all.mapM fun c => (b.of c).check c <;> simp [eq_comm]

/-- The first component whose bounds are wrong, with what is wrong with them. -/
def FirstOffends (b : Box) (failure : Failure) : Prop :=
  ∃ before c after, Component.all = before ++ c :: after ∧
    (∀ earlier ∈ before, (b.of earlier).Acceptable earlier) ∧ (b.of c).Offends c failure

lemma ofBounds_eq_error_iff :
    ofBounds b.op0 b.op1 b.crn b.crm b.op2 = .error failure ↔ b.FirstOffends failure := by
  have hmap : (fun _ => b) <$> (Component.all.mapM fun c => (b.of c).check c) = .error failure ↔
      (Component.all.mapM fun c => (b.of c).check c) = .error failure := by
    cases Component.all.mapM fun c => (b.of c).check c <;> simp
  have hunit (c : Component) :
      (∃ u, (b.of c).check c = .ok u) ↔ (b.of c).Acceptable c := by
    rw [← Bounds.check_eq_ok_iff_acceptable]
    exact ⟨fun ⟨⟨⟩, hc⟩ => hc, fun hc => ⟨(), hc⟩⟩
  rw [ofBounds_eq, hmap, mapM_eq_error_iff]
  simp only [hunit, Bounds.check_eq_error_iff]
  rfl

/-! ## The encodings of a box -/

/-- The box lists exactly what its bounds enclose, ascending, and its size is their number. -/
structure Enumerates (b : Box) : Prop where
  ascending : b.encodings.Pairwise fun x y => x.packed < y.packed
  mem : ∀ e, e ∈ b.encodings ↔
    ∀ c, (b.of c).low ≤ e.component c ∧ e.component c ≤ (b.of c).high
  length : b.encodings.length = b.size

/-- An encoding is listed for the values of its components within the bounds. -/
lemma mem_encodings_iff_exists {e : Encoding} :
    e ∈ b.encodings ↔ ∃ parts : Component → Nat, (∀ c, parts c ∈ (b.of c).values) ∧
      .truncating (parts .op0) (parts .op1) (parts .crn) (parts .crm) (parts .op2) = e := by
  simp only [encodings, List.mem_flatMap, List.mem_map]
  constructor
  · rintro ⟨op0, h0, op1, h1, crn, h2, crm, h3, op2, h4, rfl⟩
    exact ⟨fun | .op0 => op0 | .op1 => op1 | .crn => crn | .crm => crm | .op2 => op2,
      fun | .op0 => h0 | .op1 => h1 | .crn => h2 | .crm => h3 | .op2 => h4, rfl⟩
  · rintro ⟨parts, h, rfl⟩
    exact ⟨_, h .op0, _, h .op1, _, h .crn, _, h .crm, _, h .op2, rfl⟩

lemma mem_encodings_iff (h : ∀ c, (b.of c).Within c) {e : Encoding} :
    e ∈ b.encodings ↔ ∀ c, e.component c ∈ (b.of c).values := by
  rw [mem_encodings_iff_exists]
  constructor
  · rintro ⟨parts, hparts, rfl⟩ c
    rw [Encoding.component_truncating fun c => (h c).lt_of_mem (hparts c)]
    exact hparts c
  · exact fun hc => ⟨e.component, hc, e.truncating_component⟩

lemma Made.enumerates (h : b.Made) : b.Enumerates where
  ascending := h.pairwise_packed_encodings
  mem e := by
    rw [mem_encodings_iff h.within]
    simp only [Bounds.mem_values_iff]
  length := h.length_encodings

/-- **A box holds exactly what its bounds enclose.**  A box that was made of accepted bounds, or of
a single encoding, lists the encodings whose components all lie within the bounds, in ascending
order of their packed bits, and as many as its size says.  Five pairs of bounds are accepted exactly
if each bound is accepted as its component and no pair is inverted, and a refusal reports the first
component for which this fails. -/
theorem extent_exact :
    (∀ b : Box, b.Made → b.Enumerates) ∧
    (∀ b b' : Box, ofBounds b.op0 b.op1 b.crn b.crm b.op2 = .ok b' ↔
      b' = b ∧ ∀ c, (b.of c).Acceptable c) ∧
    ∀ (b : Box) failure, ofBounds b.op0 b.op1 b.crn b.crm b.op2 = .error failure ↔
      b.FirstOffends failure :=
  ⟨fun _ h => h.enumerates, fun _ _ => ofBounds_eq_ok_iff, fun _ _ => ofBounds_eq_error_iff⟩

/-- The last corner of a box of eight encodings is listed; of two components that are wrong, the
inverted bounds of the first are reported. -/
theorem extent_exact_corner :
    (∃ b, ofBounds ⟨2, 3⟩ ⟨6, 7⟩ ⟨15, 15⟩ ⟨0, 0⟩ ⟨6, 7⟩ = .ok b ∧ b.Made ∧
      b.encodings.length = 8 ∧ .truncating 3 7 15 0 7 ∈ b.encodings) ∧
    ofBounds ⟨3, 3⟩ ⟨5, 2⟩ ⟨0, 16⟩ ⟨0, 0⟩ ⟨0, 0⟩ = .error (.argument (.emptyRange .op1 5 2)) := by
  obtain ⟨henumerates, -, hrefused⟩ := extent_exact
  have hbox : ofBounds ⟨2, 3⟩ ⟨6, 7⟩ ⟨15, 15⟩ ⟨0, 0⟩ ⟨6, 7⟩ =
      .ok ⟨⟨2, 3⟩, ⟨6, 7⟩, ⟨15, 15⟩, ⟨0, 0⟩, ⟨6, 7⟩⟩ := rfl
  have hlisted := henumerates _ (.ofBounds hbox)
  refine ⟨⟨_, hbox, .ofBounds hbox, hlisted.length, (hlisted.mem _).2 ?_⟩, ?_⟩
  · intro c
    cases c <;> decide
  · refine (hrefused ⟨⟨3, 3⟩, ⟨5, 2⟩, ⟨0, 16⟩, ⟨0, 0⟩, ⟨0, 0⟩⟩ _).2
      ⟨[.op0], .op1, [.crn, .crm, .op2], rfl, List.forall_mem_singleton.2 ?_, ?_⟩
    · exact ⟨Component.accepts_iff.2 (by decide), Component.accepts_iff.2 (by decide), by decide⟩
    · exact .inverted (Component.accepts_iff.2 (by decide)) (Component.accepts_iff.2 (by decide))
        (by decide)

end Box
end SysReg
