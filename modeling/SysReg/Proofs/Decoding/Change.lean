import Mathlib.Data.List.Nodup
import SysReg.Proofs.Catalog.Lookup
import SysReg.Proofs.Comparison.Symmetry

/-!
# Fields that changed

Of two values of a register, the changed fields are found by comparing texts, not bits.  For a
register of a catalog this comes to the same (`changedFields_exact`): a field is named exactly if
the values differ in one of its bits, except that an enumeration must also read differently, since
two of its values may share a meaning.

A text that spells the sub-value in hexadecimal is the text of no other sub-value, whatever number
stands in front of it (`Field.eq_of_withHex_eq`), so that the reading in two's complement need not
be looked into.  A flag spells nothing, but its one bit leaves no third sub-value.
-/

namespace SysReg

/-! ## Texts of sub-values -/

namespace Numeral

lemma bracket_not_mem_signedDecimal (n : Int) : '(' ∉ (signedDecimal n).toList := by
  cases n with
  | ofNat n =>
    rw [Int.ofNat_eq_natCast, toList_signedDecimal_natCast]
    exact not_mem_decimal (by decide)
  | negSucc n =>
    rw [toList_signedDecimal_negSucc, List.mem_cons, not_or]
    exact ⟨by decide, not_mem_decimal (by decide)⟩

end Numeral

/-- The kind gives its values meanings. -/
def FieldKind.isEnumeration : FieldKind → Bool
  | enumerated _ => true
  | _ => false

namespace Field

variable {f : Field} {x y : Word}

/-- Behind a number without brackets, the hexadecimal spelling tells the sub-value. -/
lemma eq_of_withHex_eq {a b : String} (ha : '(' ∉ a.toList) (h : withHex a x = withHex b y) :
    x = y := by
  have hspelt (number : String) (w : Word) :
      (withHex number w).toList =
        (number.toList ++ [' ']) ++ '(' :: (w.compact.toList ++ [')']) := by
    simp [withHex, String.toList_append]
  have hfront : '(' ∉ a.toList ++ [' '] := by
    simpa using ha
  have hback : '(' ∉ x.compact.toList ++ [')'] := by
    rw [Word.compact, Numeral.toList_hex]
    simpa using Numeral.not_mem_toDigits_hex (by decide)
  have hparts : a.toList ++ [' '] = b.toList ++ [' '] ∧ '(' = '(' ∧
      x.compact.toList ++ [')'] = y.compact.toList ++ [')'] := by
    rw [← List.append_cons_inj_of_notMem hfront hback, ← hspelt, ← hspelt, h]
  have hhex := List.append_cancel_right hparts.2.2
  simp only [Word.compact, Numeral.toList_hex, List.cons_inj_right] at hhex
  exact BitVec.eq_of_toNat_eq (Numeral.toDigits_injective (by decide) (by decide) hhex)

/-- Unless the field is an enumeration, two sub-values that fit into it have two texts. -/
lemma render_eq_iff (hfits : f.KindFits) (hkind : f.kind.isEnumeration = false)
    (hx : x.toNat < 2 ^ f.bits.width) (hy : y.toNat < 2 ^ f.bits.width) :
    f.render x = f.render y ↔ x = y := by
  refine ⟨fun h => ?_, congrArg f.render⟩
  unfold render at h
  unfold KindFits at hfits
  cases hf : f.kind with
  | flag =>
    simp only [hf] at h hfits
    rw [hfits, Nat.pow_one] at hx hy
    -- Of the two sub-values of one bit, zero alone is clear.
    have hzero : x.toNat = 0 ↔ y.toNat = 0 := by
      by_cases hx0 : x = 0 <;> by_cases hy0 : y = 0 <;> simp_all [BitVec.toNat_eq]
    exact BitVec.eq_of_toNat_eq (by omega)
  | counter | raw =>
    simp only [hf] at h
    exact eq_of_withHex_eq (by simpa using Numeral.not_mem_decimal (by decide)) h
  | signed =>
    simp only [hf] at h
    exact eq_of_withHex_eq (Numeral.bracket_not_mem_signedDecimal _) h
  | enumerated values =>
    rw [hf] at hkind
    exact nomatch hkind

/-! ## Bits of a field -/

end Field

/-- The bits of a range are equal in two values exactly if none of them differs. -/
lemma BitRange.extract_eq_iff {b : BitRange} (h : b.IsValid) {x y : Word} :
    b.extract x = b.extract y ↔
      ∀ k, b.low ≤ k → k ≤ b.high → (x ^^^ y).getLsbD k = false := by
  have hwidth (k : Nat) : k < b.width ↔ b.low + k ≤ b.high := by
    unfold width
    have := h.1
    omega
  constructor
  · intro heq k hlow hhigh
    obtain ⟨i, rfl⟩ := Nat.exists_eq_add_of_le hlow
    have hbit := congrArg (·.getLsbD i) heq
    simp only [getLsbD_extract h, decide_eq_true ((hwidth i).2 hhigh), Bool.true_and] at hbit
    simp [BitVec.getLsbD_xor, hbit]
  · intro hnone
    refine BitVec.eq_of_getLsbD_eq fun k _ => ?_
    rw [getLsbD_extract h, getLsbD_extract h]
    by_cases hk : k < b.width
    · have hbit := hnone (b.low + k) (Nat.le_add_right _ _) ((hwidth k).1 hk)
      simpa [hk, BitVec.getLsbD_xor] using hbit
    · simp [hk]

namespace Field

variable {f : Field} {x y : Word}

/-- The values differ in a bit of the field. -/
def Differs (f : Field) (x y : Word) : Prop :=
  ∃ k, f.bits.low ≤ k ∧ k ≤ f.bits.high ∧ (x ^^^ y).getLsbD k = true

instance (f : Field) (x y : Word) : Decidable (f.Differs x y) :=
  decidable_of_iff (∃ k : Fin 64, f.bits.low ≤ k ∧ k ≤ f.bits.high ∧ (x ^^^ y).getLsbD k = true)
    ⟨fun ⟨k, h⟩ => ⟨k, h⟩, fun ⟨k, h⟩ => ⟨⟨k, BitVec.lt_of_getLsbD h.2.2⟩, h⟩⟩

/-- The values differ in a bit of the field, and also read differently if it is an enumeration. -/
def Changes (f : Field) (x y : Word) : Prop :=
  f.Differs x y ∧
    (f.kind.isEnumeration = true → f.render (f.bits.extract x) ≠ f.render (f.bits.extract y))

instance (f : Field) (x y : Word) : Decidable (f.Changes x y) :=
  inferInstanceAs (Decidable (_ ∧ _))

lemma differs_iff (h : f.bits.IsValid) : f.Differs x y ↔ f.bits.extract x ≠ f.bits.extract y := by
  rw [Ne, BitRange.extract_eq_iff h]
  unfold Differs
  push Not
  simp only [Bool.not_eq_false]

/-- Two values have two texts in a field exactly if it changes. -/
lemma render_extract_ne_iff (hvalid : f.bits.IsValid) (hfits : f.KindFits) :
    f.render (f.bits.extract x) ≠ f.render (f.bits.extract y) ↔ f.Changes x y := by
  have hsmall (w : Word) : (f.bits.extract w).toNat < 2 ^ f.bits.width := by
    rw [BitRange.toNat_extract hvalid]
    exact Nat.mod_lt _ (Nat.two_pow_pos _)
  rw [Changes, differs_iff hvalid]
  cases hkind : f.kind.isEnumeration with
  | false =>
    rw [Ne, render_eq_iff hfits hkind (hsmall x) (hsmall y)]
    simp
  | true =>
    have hread : f.render (f.bits.extract x) ≠ f.render (f.bits.extract y) →
        f.bits.extract x ≠ f.bits.extract y := mt (congrArg f.render)
    exact ⟨fun h => ⟨hread h, fun _ => h⟩, fun h => h.2 rfl⟩

end Field

/-! ## Changed fields of a register -/

namespace Definition

variable {d : Definition}

lemma changedFields_eq_map_label (h : d.WellLaidOut) (x y : Word) :
    d.changedFields x y = .ok ((d.fields.filter (·.Changes x y)).map Field.label) := by
  rw [changedFields_eq_ok h.valid]
  congr 2
  refine List.filter_congr fun f hf => Bool.eq_iff_iff.2 ?_
  rw [bne_iff_ne, decide_eq_true_eq, ← Field.render_extract_ne_iff (h.valid f hf) (h.fits f hf)]
  rfl

/-- Labels are not repeated, so that a label tells its field. -/
lemma label_mem_map_filter_iff (h : d.WellLaidOut) {f : Field} (hf : f ∈ d.fields)
    (p : Field → Bool) : f.label ∈ (d.fields.filter p).map Field.label ↔ p f = true := by
  have hlabels : (d.fields.map Field.label).Nodup := List.pairwise_map.2 h.labels
  constructor
  · intro hmem
    obtain ⟨g, hg, hlabel⟩ := List.mem_map.1 hmem
    obtain ⟨hg, hp⟩ := List.mem_filter.1 hg
    rwa [← List.inj_on_of_nodup_map hlabels hg hf hlabel]
  · exact fun hp => List.mem_map_of_mem (List.mem_filter.2 ⟨hf, hp⟩)

end Definition

namespace Catalog

/-- **The changed fields are those whose bits differ.**  For a register of an accepted list and any
two values, the labels named are those of the fields that change, in the order of declaration, and
the order of the values does not matter.  A field that is no enumeration is named exactly if the
values differ in one of its bits. -/
theorem changedFields_exact {definitions : List Definition} {c : Catalog}
    (h : ofList definitions = .ok c) {d : Definition} (hd : d ∈ definitions) (x y : Word) :
    ∃ labels, d.changedFields x y = .ok labels ∧ d.changedFields y x = .ok labels ∧
      labels = (d.fields.filter (·.Changes x y)).map Field.label ∧
      ∀ f ∈ d.fields, f.kind.isEnumeration = false → (f.label ∈ labels ↔ f.Differs x y) := by
  obtain rfl := registers_of_ofList h
  have hlayout := c.wellFormed.layouts d hd
  have hchanged := Definition.changedFields_eq_map_label hlayout x y
  refine ⟨_, hchanged, ?_, rfl, fun f hf hkind => ?_⟩
  · rw [Definition.changedFields_comm hlayout.valid y x, hchanged]
  · rw [Definition.label_mem_map_filter_iff hlayout hf, decide_eq_true_eq, Field.Changes, hkind]
    simp

/-- A register with an enumeration in which two values share a meaning. -/
def homonymous : Catalog where
  registers := [⟨"PWR_STATE", .truncating 3 0 15 1 0, .hid, none,
    [.flag 0 "Enable", .enumerated 3 1 "State" [(1, "off"), (2, "off")],
      ⟨⟨63, 60⟩, "Offset", .signed⟩]⟩]
  wellFormed := (Violation.ofList_eq_nil_iff _).1 (by decide)

/-- The flag and the sign are named, and the state is not, although it goes from 1 to 2. -/
theorem changedFields_exact_homonymous : ofList homonymous.registers = .ok homonymous ∧
    ∃ d ∈ homonymous.registers,
      d.changedFields 0x8000000000000002 5 = .ok ["Enable", "Offset"] ∧
      d.changedFields 5 0x8000000000000002 = .ok ["Enable", "Offset"] := by
  have haccepted := homonymous.ofList_registers
  obtain ⟨labels, hxy, hyx, hlabels, -⟩ :=
    changedFields_exact haccepted List.mem_cons_self 0x8000000000000002 5
  have hnamed : labels = ["Enable", "Offset"] := hlabels.trans (by decide +kernel)
  exact ⟨haccepted, _, List.mem_cons_self, hnamed ▸ hxy, hnamed ▸ hyx⟩

end Catalog
end SysReg
