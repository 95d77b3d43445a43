import Mathlib.Data.List.Perm.Basic
import SysReg.Exploration.Inference
import SysReg.Proofs.Word

/-!
# What is inferred of the bits of a register

An inference goes through the readings once and keeps the first value and a mask.  It says of each
bit whether it was the same in all values, and which it was (`inferred_exact`).  Readings can be
inferred from exactly if there are some, all are of one register and one of them succeeded.

The mask only tells the values from the first one.  Two values that differ at a bit cannot both
agree with the first there, so nothing is lost by this (`exists_ne_iff_of_mem`).  What is said of the
bits is then a matter of which values there are, and neither their order nor their number counts.
-/

namespace SysReg

/-- The values of the readings that succeeded. -/
def Reading.values (readings : List Reading) : List Word :=
  readings.filterMap Reading.value?

/-- Some of the words differ at the bit exactly if one of them differs there from a given one. -/
lemma Word.exists_ne_iff_of_mem {words : List Word} {baseline : Word} (h : baseline ∈ words)
    {k : Nat} : (∃ x ∈ words, ∃ y ∈ words, x.getLsbD k ≠ y.getLsbD k) ↔
      ∃ w ∈ words, w.getLsbD k ≠ baseline.getLsbD k := by
  constructor
  · rintro ⟨x, hx, y, hy, hne⟩
    by_cases hxk : x.getLsbD k = baseline.getLsbD k
    · exact ⟨y, hy, fun hyk => hne (hxk.trans hyk.symm)⟩
    · exact ⟨x, hx, hxk⟩
  · rintro ⟨w, hw, hne⟩
    exact ⟨w, hw, baseline, h, hne⟩

lemma Reading.mem_values_iff {readings : List Reading} {w : Word} :
    w ∈ values readings ↔ ∃ r ∈ readings, r.value? = some w :=
  List.mem_filterMap

lemma Reading.length_values (readings : List Reading) :
    (values readings).length = readings.countP Reading.succeeded :=
  List.length_filterMap_eq_countP ..

namespace Inference

variable {readings readings' : List Reading} {i i' : Inference} {e : Encoding} {k : Nat}

/-! ## Readings that can be inferred from -/

/-- The readings say nothing of a register. -/
inductive Unusable (readings : List Reading) : Prop where
  /-- There are none. -/
  | empty (h : readings = [])
  /-- They are of two registers, even if one of them failed. -/
  | mixed (r r' : Reading) (hr : r ∈ readings) (hr' : r' ∈ readings) (h : r.encoding ≠ r'.encoding)
  /-- None of them succeeded. -/
  | failed (h : ∀ r ∈ readings, r.succeeded = false)

/-- An inference is made of the first value and of the others by where they differ from it. -/
lemma ofReadings_eq_ok_iff : ofReadings readings = .ok i ↔
    (∀ r ∈ readings, r.encoding = i.encoding) ∧ ∃ rest,
      Reading.values readings = i.baseline :: rest ∧ i.samples = rest.length + 1 ∧
        i.volatileMask = .union (rest.map (· ^^^ i.baseline)) := by
  obtain ⟨e, samples, mask, baseline⟩ := i
  cases readings with
  | nil => simp [ofReadings, Reading.values]
  | cons first others =>
    simp only [ofReadings]
    split
    · next other hfind =>
      have hother : other.encoding ≠ first.encoding := by simpa using List.find?_some hfind
      refine iff_of_false nofun fun ⟨hencoding, _⟩ => hother ?_
      rw [hencoding other (List.mem_of_find?_eq_some hfind), hencoding first List.mem_cons_self]
    · next hfind =>
      have hsame : ∀ r ∈ first :: others, r.encoding = first.encoding := by simpa using hfind
      have hencoding : (∀ r ∈ first :: others, r.encoding = e) ↔ first.encoding = e :=
        ⟨fun h => h first List.mem_cons_self, fun h r hr => (hsame r hr).trans h⟩
      rw [hencoding, ← Reading.values]
      cases Reading.values (first :: others) with
      | nil => simp
      | cons w rest =>
        simp only [Word.union, List.foldl_map, Except.ok.injEq, mk.injEq, List.cons.injEq]
        constructor
        · rintro ⟨rfl, rfl, rfl, rfl⟩
          exact ⟨rfl, rest, ⟨rfl, rfl⟩, rfl, rfl⟩
        · rintro ⟨rfl, _, ⟨rfl, rfl⟩, rfl, rfl⟩
          exact ⟨rfl, rfl, rfl, rfl⟩

/-- Readings of one register can be inferred from once they hold a value. -/
lemma exists_ofReadings (hencoding : ∀ r ∈ readings, r.encoding = e) {w : Word}
    (hw : w ∈ Reading.values readings) : ∃ i, ofReadings readings = .ok i ∧ i.encoding = e := by
  obtain ⟨baseline, rest, hvalues⟩ := List.exists_cons_of_ne_nil (List.ne_nil_of_mem hw)
  exact ⟨⟨e, rest.length + 1, .union (rest.map (· ^^^ baseline)), baseline⟩,
    ofReadings_eq_ok_iff.2 ⟨hencoding, rest, hvalues, rfl, rfl⟩, rfl⟩

lemma baseline_mem (h : ofReadings readings = .ok i) : i.baseline ∈ Reading.values readings := by
  obtain ⟨-, rest, hvalues, -⟩ := ofReadings_eq_ok_iff.1 h
  rw [hvalues]
  exact List.mem_cons_self

lemma exists_of_not_unusable (h : ¬Unusable readings) : ∃ i, ofReadings readings = .ok i := by
  cases readings with
  | nil => exact absurd (.empty rfl) h
  | cons first others =>
    have hencoding : ∀ r ∈ first :: others, r.encoding = first.encoding := fun r hr =>
      Decidable.byContradiction fun hne => h (.mixed r first hr List.mem_cons_self hne)
    have hvalue : ∃ w, w ∈ Reading.values (first :: others) := by
      by_contra hnone
      refine h (.failed fun r hr => ?_)
      rw [Reading.succeeded, Option.isSome_eq_false_iff, Option.isNone_iff_eq_none,
        Option.eq_none_iff_forall_ne_some]
      exact fun w hw => hnone ⟨w, Reading.mem_values_iff.2 ⟨r, hr, hw⟩⟩
    obtain ⟨w, hw⟩ := hvalue
    obtain ⟨i, hi, -⟩ := exists_ofReadings hencoding hw
    exact ⟨i, hi⟩

lemma not_unusable_of_ofReadings (h : ofReadings readings = .ok i) : ¬Unusable readings := by
  have hencoding := (ofReadings_eq_ok_iff.1 h).1
  obtain ⟨r, hr, hvalue⟩ := Reading.mem_values_iff.1 (baseline_mem h)
  rintro (rfl | ⟨r₁, r₂, h₁, h₂, hne⟩ | hfailed)
  · exact nomatch hr
  · exact hne ((hencoding r₁ h₁).trans (hencoding r₂ h₂).symm)
  · simpa [Reading.succeeded, hvalue] using hfailed r hr

/-- What cannot be inferred from is refused as an argument. -/
lemma exists_ofReadings_eq_error_iff :
    (∃ fault, ofReadings readings = .error (.argument fault)) ↔ Unusable readings := by
  constructor
  · rintro ⟨fault, hfault⟩
    by_contra h
    obtain ⟨i, hi⟩ := exists_of_not_unusable h
    exact nomatch hi.symm.trans hfault
  · intro h
    cases hresult : ofReadings readings with
    | ok i => exact absurd h (not_unusable_of_ofReadings hresult)
    | error failure =>
      unfold ofReadings at hresult
      split at hresult
      · exact ⟨_, hresult.symm⟩
      · split at hresult
        · exact ⟨_, hresult.symm⟩
        · split at hresult
          · exact ⟨_, hresult.symm⟩
          · exact nomatch hresult

/-! ## What is said of the bits -/

/-- The inference describes the values of the readings, bit by bit. -/
structure Describes (i : Inference) (readings : List Reading) : Prop where
  encoding : ∀ r ∈ readings, r.encoding = i.encoding
  samples : i.samples = readings.countP Reading.succeeded
  /-- A bit is volatile if two values differ there. -/
  volatile : ∀ k, i.bit k = .volatile ↔ ∃ x ∈ Reading.values readings,
    ∃ y ∈ Reading.values readings, x.getLsbD (k % 64) ≠ y.getLsbD (k % 64)
  /-- A bit is static if all values have it alike. -/
  fixed : ∀ k b, i.bit k = .fixed b ↔ ∀ w ∈ Reading.values readings, w.getLsbD (k % 64) = b
  bits : ∀ k < 64, i.bits[k]? = some (i.bit k)
  volatileMask : ∀ k, i.volatileMask.getLsbD k = true ↔ ∃ x ∈ Reading.values readings,
    ∃ y ∈ Reading.values readings, x.getLsbD k ≠ y.getLsbD k
  staticOnes : i.staticOnes = .intersection (Reading.values readings)

lemma getLsbD_volatileMask_iff_baseline (h : ofReadings readings = .ok i) :
    i.volatileMask.getLsbD k = true ↔
      ∃ w ∈ Reading.values readings, w.getLsbD k ≠ i.baseline.getLsbD k := by
  obtain ⟨-, rest, hvalues, -, hmask⟩ := ofReadings_eq_ok_iff.1 h
  rw [hmask, Word.getLsbD_union_iff, hvalues]
  simp only [List.mem_map, exists_exists_and_eq_and, Word.getLsbD_xor_iff, List.mem_cons,
    exists_eq_or_imp, ne_eq, not_true_eq_false, false_or]

lemma getLsbD_volatileMask_iff (h : ofReadings readings = .ok i) :
    i.volatileMask.getLsbD k = true ↔ ∃ x ∈ Reading.values readings,
      ∃ y ∈ Reading.values readings, x.getLsbD k ≠ y.getLsbD k := by
  rw [Word.exists_ne_iff_of_mem (baseline_mem h), getLsbD_volatileMask_iff_baseline h]

lemma bit_eq_volatile_iff : i.bit k = .volatile ↔ i.volatileMask.getLsbD (k % 64) = true := by
  unfold bit
  split <;> simp_all

lemma bit_eq_fixed_iff {b : Bool} : i.bit k = .fixed b ↔
    i.volatileMask.getLsbD (k % 64) = false ∧ i.baseline.getLsbD (k % 64) = b := by
  unfold bit
  split <;> simp_all

/-- A bit that is not volatile is in all values as it is in the first. -/
lemma getLsbD_volatileMask_eq_false_iff (h : ofReadings readings = .ok i) {b : Bool} :
    (i.volatileMask.getLsbD k = false ∧ i.baseline.getLsbD k = b) ↔
      ∀ w ∈ Reading.values readings, w.getLsbD k = b := by
  rw [← Bool.not_eq_true, getLsbD_volatileMask_iff_baseline h]
  constructor
  · rintro ⟨hstatic, rfl⟩ w hw
    exact Decidable.byContradiction fun hne => hstatic ⟨w, hw, hne⟩
  · intro hall
    have hbaseline := hall _ (baseline_mem h)
    refine ⟨?_, hbaseline⟩
    rintro ⟨w, hw, hne⟩
    exact hne ((hall w hw).trans hbaseline.symm)

lemma staticOnes_eq (h : ofReadings readings = .ok i) :
    i.staticOnes = .intersection (Reading.values readings) := by
  refine Word.eq_of_getLsbD_iff fun k => ?_
  rw [Word.getLsbD_intersection_iff, ← getLsbD_volatileMask_eq_false_iff h, staticOnes,
    BitVec.getLsbD_and, BitVec.getLsbD_not]
  cases i.volatileMask.getLsbD k <;> simp [and_comm]

lemma describes_of_ofReadings (h : ofReadings readings = .ok i) : i.Describes readings where
  encoding := (ofReadings_eq_ok_iff.1 h).1
  samples := by
    obtain ⟨-, rest, hvalues, hsamples, -⟩ := ofReadings_eq_ok_iff.1 h
    rw [hsamples, ← Reading.length_values, hvalues, List.length_cons]
  volatile k := by rw [bit_eq_volatile_iff, getLsbD_volatileMask_iff h]
  fixed k b := by rw [bit_eq_fixed_iff, getLsbD_volatileMask_eq_false_iff h]
  bits k hk := by rw [Inference.bits, List.getElem?_map, List.getElem?_range hk, Option.map_some]
  volatileMask k := getLsbD_volatileMask_iff h
  staticOnes := staticOnes_eq h

/-! ## Readings taken again -/

/-- The readings are others of the register at the encoding that bring no new value. -/
inductive Resampled (e : Encoding) : List Reading → List Reading → Prop where
  /-- They come in another order. -/
  | reordered {readings readings' : List Reading} (h : readings.Perm readings') :
      Resampled e readings readings'
  /-- One of them is there once more, in any place. -/
  | repeated (before after : List Reading) (r : Reading) (hr : r ∈ before ++ after) :
      Resampled e (before ++ after) (before ++ r :: after)
  /-- One that failed is there besides, in any place. -/
  | failed (before after : List Reading) (r : Reading) (hencoding : r.encoding = e)
      (hfailed : r.succeeded = false) : Resampled e (before ++ after) (before ++ r :: after)
  | trans {first second third : List Reading} (h : Resampled e first second)
      (h' : Resampled e second third) : Resampled e first third

/-- The inferences say the same of the register. -/
structure SameAdvice (i i' : Inference) : Prop where
  encoding : i'.encoding = i.encoding
  bits : i'.bits = i.bits
  volatileMask : i'.volatileMask = i.volatileMask
  staticOnes : i'.staticOnes = i.staticOnes
  candidates : i'.candidates = i.candidates

/-- Readings that were resampled are still of the register, with the values that there were. -/
lemma Resampled.keeps (h : Resampled e readings readings')
    (hencoding : ∀ r ∈ readings, r.encoding = e) :
    (∀ r ∈ readings', r.encoding = e) ∧
      ∀ w, w ∈ Reading.values readings' ↔ w ∈ Reading.values readings := by
  induction h with
  | reordered h =>
    exact ⟨fun r hr => hencoding r (h.mem_iff.2 hr), fun w => (h.symm.filterMap _).mem_iff⟩
  | repeated before after r hr =>
    have hmem (r' : Reading) : r' ∈ before ++ r :: after ↔ r' ∈ before ++ after := by
      rw [List.perm_middle.mem_iff, List.mem_cons, or_iff_right_of_imp]
      rintro rfl
      exact hr
    refine ⟨fun r' hr' => hencoding r' ((hmem r').1 hr'), fun w => ?_⟩
    simp only [Reading.mem_values_iff, hmem]
  | failed before after r hr hfailed =>
    have hnone : r.value? = none := by simpa [Reading.succeeded] using hfailed
    constructor
    · intro r' hr'
      rcases List.mem_cons.1 (List.perm_middle.mem_iff.1 hr') with rfl | hold
      · exact hr
      · exact hencoding r' hold
    · intro w
      rw [Reading.values, Reading.values, List.filterMap_append, List.filterMap_append,
        List.filterMap_cons_none hnone]
  | trans _ _ ih ih' =>
    obtain ⟨hsecond, hvalues⟩ := ih hencoding
    obtain ⟨hthird, hvalues'⟩ := ih' hsecond
    exact ⟨hthird, fun w => (hvalues' w).trans (hvalues w)⟩

/-- What is said of the bits depends on nothing but the values that occur. -/
lemma sameAdvice_of_mem_values_iff (h : ofReadings readings = .ok i)
    (h' : ofReadings readings' = .ok i') (hencoding : i'.encoding = i.encoding)
    (hvalues : ∀ w, w ∈ Reading.values readings' ↔ w ∈ Reading.values readings) :
    i.SameAdvice i' := by
  have hmask : i'.volatileMask = i.volatileMask := by
    refine Word.eq_of_getLsbD_iff fun k => ?_
    simp only [getLsbD_volatileMask_iff h, getLsbD_volatileMask_iff h', hvalues]
  have hbit (k : Nat) : i'.bit k = i.bit k := by
    cases hk : i.bit k with
    | volatile => rw [bit_eq_volatile_iff, hmask, ← bit_eq_volatile_iff, hk]
    | fixed b =>
      rw [(describes_of_ofReadings h').fixed]
      simp only [hvalues]
      exact ((describes_of_ofReadings h).fixed k b).1 hk
  refine ⟨hencoding, List.map_congr_left fun k _ => hbit k, hmask, ?_, ?_⟩
  · refine Word.eq_of_getLsbD_iff fun k => ?_
    simp only [staticOnes_eq h, staticOnes_eq h', Word.getLsbD_intersection_iff, hvalues]
  · rw [candidates, candidates, hmask]

lemma exists_sameAdvice_of_resampled (h : ofReadings readings = .ok i)
    (hresampled : Resampled i.encoding readings readings') :
    ∃ i', ofReadings readings' = .ok i' ∧ i.SameAdvice i' := by
  obtain ⟨hencoding, hvalues⟩ := hresampled.keeps (ofReadings_eq_ok_iff.1 h).1
  obtain ⟨i', h', hsame⟩ := exists_ofReadings hencoding ((hvalues _).2 (baseline_mem h))
  exact ⟨i', h', sameAdvice_of_mem_values_iff h h' hsame hvalues⟩

/-- **An inference says of each bit how it was in the values, in whatever order they came.**
Readings are refused, as an argument, exactly if they say nothing of a register: there are none, two
of them are of different registers, or none succeeded.  Any others give an inference that describes
their values bit by bit, and neither their order nor a repetition nor a failed reading of the
register changes what it says. -/
theorem inferred_exact (readings : List Reading) :
    ((∃ fault, ofReadings readings = .error (.argument fault)) ↔ Unusable readings) ∧
    (¬Unusable readings → ∃ i, ofReadings readings = .ok i ∧ i.Describes readings ∧
      ∀ readings', Resampled i.encoding readings readings' →
        ∃ i', ofReadings readings' = .ok i' ∧ i.SameAdvice i') := by
  refine ⟨exists_ofReadings_eq_error_iff, fun husable => ?_⟩
  obtain ⟨i, hi⟩ := exists_of_not_unusable husable
  exact ⟨i, hi, describes_of_ofReadings hi, fun _ h => exists_sameAdvice_of_resampled hi h⟩

/-- A reading of a counter that failed. -/
def missed : Reading :=
  ⟨"PMC0", .truncating 3 2 15 0 0, .epoch, .failed "busy"⟩

/-- The counter is read three times, the second time in vain. -/
def counting : List Reading :=
  [{ missed with outcome := .value 4 }, missed, { missed with outcome := .value 5 }]

/-- Bit 0 was seen to change and bit 2 was always set, and from the end it looks the same. -/
theorem inferred_exact_counting : ¬Unusable counting ∧
    ∃ i, ofReadings counting = .ok i ∧ i.bit 0 = .volatile ∧ i.bit 2 = .fixed true ∧
      ∃ i', ofReadings counting.reverse = .ok i' ∧ i'.bits = i.bits := by
  have husable : ¬Unusable counting :=
    not_unusable_of_ofReadings (i := ⟨.truncating 3 2 15 0 0, 2, 1, 4⟩) (by decide)
  obtain ⟨i, hi, hdescribes, hagain⟩ := (inferred_exact counting).2 husable
  obtain ⟨i', hi', hsame⟩ := hagain _ (.reordered counting.reverse_perm.symm)
  have hvalues : Reading.values counting = [4, 5] := rfl
  have hvolatile := hdescribes.volatile 0
  have hfixed := hdescribes.fixed 2 true
  rw [hvalues] at hvolatile hfixed
  exact ⟨husable, i, hi, hvolatile.2 (by simp), hfixed.2 (by simp), i', hi', hsame.bits⟩

end Inference
end SysReg
