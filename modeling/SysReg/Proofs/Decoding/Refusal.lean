import SysReg.Proofs.Catalog.Lookup
import SysReg.Proofs.Comparison.Symmetry
import SysReg.Session.Basic

/-!
# Fields outside the register

Decoding refuses a layout for one reason only, a field that reaches beyond bit 63 or has its bounds
inverted, and it names the first such field (`Definition.decode_eq_error_iff`).  Validation looks
for such fields as well, so that nothing done with the registers of a catalog meets one
(`refusals_exact`): not decoding, whatever the reading; not reading a register, whatever the reader
answers; and not comparing, by whichever key the layout is found.

A reader may itself answer with a failure of this kind.  It does not come back as one, since a
reading keeps no more of a failure than its detail.
-/

namespace SysReg

/-! ## Misplaced fields -/

namespace Field

variable {f : Field}

/-- The field reaches beyond the bits of a register, or its bounds are inverted. -/
def IsMisplaced (f : Field) : Prop :=
  f.bits.high < f.bits.low ∨ 63 < f.bits.high

lemma isMisplaced_iff : f.IsMisplaced ↔ ¬f.bits.IsValid := by
  unfold IsMisplaced BitRange.IsValid
  omega

lemma exists_decode_eq_ok_iff {register : String} {value : Word} :
    (∃ part, f.decode register value = .ok part) ↔ ¬f.IsMisplaced := by
  rw [isMisplaced_iff, not_not, decode]
  split
  · next h => exact iff_of_true ⟨_, rfl⟩ h
  · next h => exact iff_of_false (by simp) h

lemma decode_eq_error_iff {register : String} {value : Word} {failure : Failure} :
    f.decode register value = .error failure ↔
      f.IsMisplaced ∧ failure = .fieldRange register f.label f.bits := by
  rw [isMisplaced_iff, decode]
  split
  · next h => exact iff_of_false (by simp) fun hnot => hnot.1 h
  · next h => exact ⟨fun herror => ⟨h, (Except.error.inj herror).symm⟩, fun hf => hf.2 ▸ rfl⟩

end Field

namespace Definition

variable {d : Definition} {value : Word}

/-- The field is the first misplaced one, in the order of their declaration. -/
def FirstMisplaced (d : Definition) (f : Field) : Prop :=
  ∃ before after, d.fields = before ++ f :: after ∧ (∀ g ∈ before, ¬g.IsMisplaced) ∧ f.IsMisplaced

/-- A layout is refused for its first misplaced field. -/
lemma decode_eq_error_iff {failure : Failure} :
    d.decode value = .error failure ↔
      ∃ f, d.FirstMisplaced f ∧ failure = .fieldRange d.name f.label f.bits := by
  rw [decode, mapM_eq_error_iff]
  simp only [Field.exists_decode_eq_ok_iff, Field.decode_eq_error_iff]
  constructor
  · rintro ⟨before, f, after, hfields, hbefore, hf, hfailure⟩
    exact ⟨f, ⟨before, after, hfields, hbefore, hf⟩, hfailure⟩
  · rintro ⟨f, ⟨before, after, hfields, hbefore, hf⟩, hfailure⟩
    exact ⟨before, f, after, hfields, hbefore, hf, hfailure⟩

/-- A layout is refused exactly if one of its fields is misplaced. -/
lemma exists_decode_eq_error_iff :
    (∃ failure, d.decode value = .error failure) ↔ ∃ f ∈ d.fields, f.IsMisplaced := by
  rw [exists_eq_error_iff, not_iff_comm]
  push Not
  simp only [Field.isMisplaced_iff, not_not]
  constructor
  · exact fun hvalid => ⟨_, decode_eq_ok hvalid value⟩
  · rintro ⟨parts, hparts⟩ f hf
    obtain ⟨part, -, hpart⟩ := exists_mem_of_forall₂ (mapM_eq_ok_iff.1 hparts) hf
    have hplaced := Field.exists_decode_eq_ok_iff.1 ⟨part, hpart⟩
    rwa [Field.isMisplaced_iff, not_not] at hplaced

/-- A reading is not refused for the range of a field if the fields lie within the register. -/
lemma decodeReading_ne_fieldRange (h : ∀ f ∈ d.fields, f.bits.IsValid) (r : Reading)
    (register field : String) (range : BitRange) :
    d.decodeReading r ≠ .error (.fieldRange register field range) := by
  rw [decodeReading]
  split
  · simp
  · split
    · rw [decode_eq_ok h]
      simp
    · simp

end Definition

/-! ## Registers of a catalog -/

namespace Catalog

variable (c : Catalog)

/-- A text resolves to a register of the catalog. -/
lemma mem_registers_of_resolve {text : String} {d : Definition} (h : c.resolve text = .ok d) :
    d ∈ c.registers := by
  rw [resolve] at h
  split at h
  · next found hfound =>
    cases h
    exact (find?_eq_some_iff.1 hfound).1
  · split at h
    · split at h
      · next found hfound =>
        cases h
        exact (atEncoding?_eq_some_iff.1 hfound).1
      · cases h
    · split at h <;> cases h

lemma resolve_ne_fieldRange (text register field : String) (range : BitRange) :
    c.resolve text ≠ .error (.fieldRange register field range) := by
  rw [resolve]
  split
  · simp
  · split
    · split <;> simp
    · split <;> simp

/-- Reading one register is not refused for the range of a field, whatever the reader answers. -/
lemma readOne_ne_fieldRange {σ : Type} (tools : Instruments (StateM σ)) (w : σ)
    (text register field : String) (range : BitRange) :
    ((Session.readOne tools c text).run w).1 ≠ .error (.fieldRange register field range) := by
  unfold Session.readOne
  cases hresolve : c.resolve text with
  | error failure =>
    intro h
    have hfailure : failure = .fieldRange register field range := Except.error.inj h
    exact c.resolve_ne_fieldRange text register field range (hfailure ▸ hresolve)
  | ok d =>
    intro h
    have hvalid := (c.wellFormed.layouts d (c.mem_registers_of_resolve hresolve)).valid
    -- The reading is whatever the reader left; only its decoding is looked at.
    rcases bind_eq_error_iff.1 h with hdecode | ⟨fields, -, hpure⟩
    · exact Definition.decodeReading_ne_fieldRange hvalid _ register field range hdecode
    · exact nomatch hpure

/-- Nothing that is done with the registers of a catalog is refused for the range of a field. -/
structure SparesRanges (c : Catalog) : Prop where
  decode : ∀ d ∈ c.registers, ∀ value, ∃ parts, d.decode value = .ok parts
  changedFields : ∀ d ∈ c.registers, ∀ before after,
    ∃ labels, d.changedFields before after = .ok labels
  decodeReading : ∀ d ∈ c.registers, ∀ r register field range,
    d.decodeReading r ≠ .error (.fieldRange register field range)
  readOne : ∀ (σ : Type) (tools : Instruments (StateM σ)) (w : σ) text register field range,
    ((Session.readOne tools c text).run w).1 ≠ .error (.fieldRange register field range)
  compare : ∀ a b, ∃ comparison, c.compare a b = .ok comparison

lemma sparesRanges : c.SparesRanges where
  decode d hd value := ⟨_, Definition.decode_eq_ok (c.wellFormed.layouts d hd).valid value⟩
  changedFields d hd before after :=
    ⟨_, Definition.changedFields_eq_ok (c.wellFormed.layouts d hd).valid before after⟩
  decodeReading d hd := Definition.decodeReading_ne_fieldRange (c.wellFormed.layouts d hd).valid
  readOne _ := c.readOne_ne_fieldRange
  compare := c.exists_compare

/-- **A field outside the register is told of exactly where nothing was validated.**  Behind a list
of definitions that was accepted no operation is refused for the range of a field, and comparing is
never refused at all.  Any other definition is refused, for every value, exactly if a field of it is
misplaced, and the failure names the register and the first such field with its bounds. -/
theorem refusals_exact (definitions : List Definition) :
    (∀ c, ofList definitions = .ok c → c.registers = definitions ∧ c.SparesRanges) ∧
    ∀ (d : Definition) (value : Word),
      ((∃ failure, d.decode value = .error failure) ↔ ∃ f ∈ d.fields, f.IsMisplaced) ∧
      ∀ failure, d.decode value = .error failure ↔
        ∃ f, d.FirstMisplaced f ∧ failure = .fieldRange d.name f.label f.bits :=
  ⟨fun c h => ⟨registers_of_ofList h, c.sparesRanges⟩, fun _ _ =>
    ⟨Definition.exists_decode_eq_error_iff, fun _ => Definition.decode_eq_error_iff⟩⟩

/-- A layout with a field past the end of the register, and one with inverted bounds behind it. -/
def pastTheEnd : Definition where
  name := "BROKEN_EL1"
  encoding := .truncating 3 0 15 0 0
  category := .hid
  description := none
  fields := [.flag 0 "Ok", .raw 70 64 "Past The End", .raw 2 5 "Inverted"]

/-- A layout that reaches up to bit 63 is accepted, and its register compared; the broken layout is
refused for the field past the end. -/
theorem refusals_exact_pastTheEnd :
    ofList overflowing.registers = .ok overflowing ∧ overflowing.SparesRanges ∧
      pastTheEnd.decode 1 = .error (.fieldRange "BROKEN_EL1" "Past The End" ⟨70, 64⟩) := by
  have haccepted := overflowing.ofList_registers
  obtain ⟨hspares, hrefused⟩ := refusals_exact overflowing.registers
  have hfirst : pastTheEnd.FirstMisplaced (.raw 70 64 "Past The End") :=
    ⟨[.flag 0 "Ok"], [.raw 2 5 "Inverted"], rfl,
      List.forall_mem_singleton.2 (Field.isMisplaced_iff.not_left.2 (by decide)), .inr (by decide)⟩
  exact ⟨haccepted, (hspares _ haccepted).2, ((hrefused pastTheEnd 1).2 _).2 ⟨_, hfirst, rfl⟩⟩

end Catalog
end SysReg
