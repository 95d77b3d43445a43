import SysReg.Proofs.Decoding

/-!
# Arithmetic that cannot go wrong

On a machine a shift must move fewer places than the word has bits, and a sum or a difference must be
a number of its type.  `Checked` computations stop at the first operation that breaks this, and at
the first mask that is asked for of a range outside the register.  What is done with a layout is
computed here as a machine does it, operation by operation and with bounds of eight bits.

None of these computations stops, whatever the layout, and each comes to the result of the plain one
(`arithmetic_exact`).  The operations themselves are only safe behind the checks in front of them:
`checkedMask_eq` asks for a valid range, and a number in two's complement for none at all, since a
width that no field has is left alone.
-/

namespace SysReg

/-! ## Checked operations -/

/-- Why an operation on numbers of a machine has no result. -/
inductive ArithmeticFault where
  /-- A shift of a word by all its bits or more. -/
  | shift (bits amount : Nat)
  /-- A sum or a difference that is no number of its type. -/
  | overflow
  /-- The mask of a range that names no bits of a register. -/
  | mask (b : BitRange)
  deriving DecidableEq, Repr

/-- A value, unless an operation on the way to it has no result. -/
abbrev Checked (α : Type) : Type := Except ArithmeticFault α

namespace Checked

variable {n : Nat} {x y : BitVec n}

/-- The word moved up. -/
def shiftLeft (x : BitVec n) (amount : Nat) : Checked (BitVec n) :=
  if amount < n then .ok (x <<< amount) else .error (.shift n amount)

/-- The word moved down. -/
def shiftRight (x : BitVec n) (amount : Nat) : Checked (BitVec n) :=
  if amount < n then .ok (x >>> amount) else .error (.shift n amount)

/-- The sum of numbers without a sign. -/
def add (x y : BitVec n) : Checked (BitVec n) :=
  if x.toNat + y.toNat < 2 ^ n then .ok (x + y) else .error .overflow

/-- The difference of numbers without a sign. -/
def sub (x y : BitVec n) : Checked (BitVec n) :=
  if y ≤ x then .ok (x - y) else .error .overflow

/-- The difference of numbers with a sign. -/
def signedSub (x y : BitVec n) : Checked (BitVec n) :=
  if x.ssubOverflow y then .error .overflow else .ok (x - y)

/-- The list of what a computation gives for each element, where none of them stops. -/
lemma mapM_run {ε α β : Type} {f : α → Except ε β} {check : α → Checked (Except ε β)} {xs : List α}
    (h : ∀ x ∈ xs, check x = .ok (f x)) :
    (xs.mapM fun x => ExceptT.mk (check x)).run = .ok (xs.mapM f) := by
  induction xs with
  | nil => rfl
  | cons x xs ih =>
    rw [List.forall_mem_cons] at h
    rw [List.mapM_cons, List.mapM_cons, ExceptT.run_bind, ExceptT.run_mk, h.1]
    cases f x with
    | error e => rfl
    | ok y =>
      change ExceptT.run (xs.mapM (fun x => ExceptT.mk (check x)) >>= _) = _
      rw [ExceptT.run_bind, ih h.2]
      cases xs.mapM f <;> rfl

end Checked

open Checked

/-! ## Ranges -/

namespace BitRange

variable {b : BitRange}

/-- The number of bits, from bounds of eight bits. -/
def checkedWidth (b : BitRange) : Checked Nat :=
  if b.high < b.low then return 0
  else do
    let span ← sub (BitVec.ofNat 8 b.high) (BitVec.ofNat 8 b.low)
    let width ← add (span.setWidth 32) 1
    return width.toNat

/-- The mask of a range, which must be valid. -/
def checkedMask (b : BitRange) : Checked Word :=
  if b.IsValid then do
    let width ← b.checkedWidth
    if width = 0 then return 0
    else if 64 ≤ width then return BitVec.allOnes 64
    else do
      let place ← shiftLeft 1 width
      let ones ← sub place 1
      shiftLeft ones b.low
  else .error (.mask b)

/-- The bits of the range, moved down. -/
def checkedExtract (b : BitRange) (value : Word) : Checked Word := do
  let mask ← b.checkedMask
  shiftRight (value &&& mask) b.low

lemma checkedWidth_eq (h : b.high ≤ 255) : b.checkedWidth = .ok b.width := by
  rw [checkedWidth]
  split
  · next hinverted =>
    have hwidth : b.width = 0 := by
      rw [width]
      omega
    exact congrArg Except.ok hwidth.symm
  · next horder =>
    have hhigh : (BitVec.ofNat 8 b.high).toNat = b.high := by
      rw [BitVec.toNat_ofNat, Nat.mod_eq_of_lt (by omega)]
    have hlow : (BitVec.ofNat 8 b.low).toNat = b.low := by
      rw [BitVec.toNat_ofNat, Nat.mod_eq_of_lt (by omega)]
    have hle : BitVec.ofNat 8 b.low ≤ BitVec.ofNat 8 b.high := by
      rw [BitVec.le_def, hhigh, hlow]
      omega
    have hspan : (BitVec.ofNat 8 b.high - BitVec.ofNat 8 b.low).toNat = b.high - b.low := by
      rw [BitVec.toNat_sub_of_le hle, hhigh, hlow]
    have hwide : ((BitVec.ofNat 8 b.high - BitVec.ofNat 8 b.low).setWidth 32).toNat =
        b.high - b.low := by
      rw [BitVec.toNat_setWidth, hspan, Nat.mod_eq_of_lt (by omega)]
    have hone : (1 : BitVec 32).toNat = 1 := rfl
    have hsum : ((BitVec.ofNat 8 b.high - BitVec.ofNat 8 b.low).setWidth 32).toNat +
        (1 : BitVec 32).toNat < 2 ^ 32 := by
      rw [hwide, hone]
      omega
    have hwidth : ((BitVec.ofNat 8 b.high - BitVec.ofNat 8 b.low).setWidth 32 + 1).toNat =
        b.width := by
      rw [BitVec.toNat_add, Nat.mod_eq_of_lt hsum, hwide, hone, width]
      omega
    rw [sub, if_pos hle]
    change add _ _ >>= _ = _
    rw [add, if_pos hsum]
    exact congrArg Except.ok hwidth

/-- A power of two, less one, where the power is one of the bits of a word. -/
lemma shiftLeft_one_sub_one {k : Nat} (h : k < 64) :
    (1 : Word) ≤ (1 : Word) <<< k ∧
      (1 : Word) <<< k - 1 = BitVec.ofNat 64 (Nat.pow 2 k - 1) := by
  have hone : (1 : Word).toNat = 1 := rfl
  have hpow : 2 ^ k < 2 ^ 64 := Nat.pow_lt_pow_right (by decide) h
  have hplace : ((1 : Word) <<< k).toNat = 2 ^ k := by
    rw [BitVec.toNat_shiftLeft, Nat.shiftLeft_eq, hone, Nat.one_mul, Nat.mod_eq_of_lt hpow]
  have hle : (1 : Word) ≤ (1 : Word) <<< k := by
    rw [BitVec.le_def, hplace, hone]
    exact Nat.one_le_two_pow
  refine ⟨hle, BitVec.eq_of_toNat_eq ?_⟩
  rw [BitVec.toNat_sub_of_le hle, hplace, hone, BitVec.toNat_ofNat, Nat.pow_eq,
    Nat.mod_eq_of_lt (by omega)]

lemma checkedMask_eq (h : b.IsValid) : b.checkedMask = .ok b.mask := by
  have hhigh : b.high ≤ 255 := le_trans h.2 (by decide)
  have hpos : b.width ≠ 0 := by
    have horder := h.1
    rw [width]
    omega
  rw [checkedMask, if_pos h, checkedWidth_eq hhigh]
  change (if b.width = 0 then _ else _) = _
  rw [if_neg hpos, mask]
  split
  · rfl
  · next hwidth =>
    obtain ⟨hle, hones⟩ := shiftLeft_one_sub_one (not_le.1 hwidth)
    have hlow : b.low < 64 := by
      have hrange := h
      rw [IsValid] at hrange
      omega
    rw [shiftLeft, if_pos (not_le.1 hwidth)]
    change sub _ _ >>= _ = _
    rw [sub, if_pos hle]
    change shiftLeft _ _ = _
    rw [shiftLeft, if_pos hlow, hones]

lemma checkedExtract_eq (h : b.IsValid) (value : Word) :
    b.checkedExtract value = .ok (b.extract value) := by
  have hlow : b.low < 64 := by
    rw [IsValid] at h
    omega
  rw [checkedExtract, checkedMask_eq h]
  exact if_pos hlow

end BitRange

/-! ## Decoding -/

/-- The number in two's complement, computed with 128 bits. -/
def checkedTwosComplement (width : Nat) (raw : Word) : Checked Int :=
  if width = 0 ∨ 64 < width then return (raw.setWidth 128).toInt
  else do
    let place ← sub (BitVec.ofNat 32 width) 1
    let sign ← shiftRight raw place.toNat
    if sign &&& 1 = 1 then do
      let power ← shiftLeft (1 : BitVec 128) width
      let difference ← signedSub (raw.setWidth 128) power
      return difference.toInt
    else return (raw.setWidth 128).toInt

/-- Moved down to the lowest place, a bit is what is left beside it. -/
lemma shiftRight_and_one_eq_iff (w : Word) (k : Nat) :
    w >>> k &&& 1 = 1 ↔ w.getLsbD k = true := by
  change w >>> k &&& 1#64 = 1#64 ↔ _
  rw [BitVec.and_one_eq_setWidth_ofBool_getLsbD, BitVec.getLsbD_ushiftRight, Nat.add_zero]
  cases w.getLsbD k <;> decide

lemma toInt_setWidth_128 (raw : Word) : (raw.setWidth 128).toInt = raw.toNat := by
  have hraw := raw.isLt
  have hwide : (raw.setWidth 128).toNat = raw.toNat := by
    rw [BitVec.toNat_setWidth, Nat.mod_eq_of_lt (by omega)]
  rw [BitVec.toInt_eq_toNat_of_lt (by omega), hwide]

lemma toInt_shiftLeft_one {k : Nat} (h : k ≤ 64) :
    ((1 : BitVec 128) <<< k).toInt = Nat.pow 2 k := by
  have hone : (1 : BitVec 128).toNat = 1 := rfl
  have hpow : 2 ^ k ≤ 2 ^ 64 := Nat.pow_le_pow_right (by decide) h
  have hpower : ((1 : BitVec 128) <<< k).toNat = 2 ^ k := by
    rw [BitVec.toNat_shiftLeft, Nat.shiftLeft_eq, hone, Nat.one_mul, Nat.mod_eq_of_lt (by omega)]
  rw [BitVec.toInt_eq_toNat_of_lt (by omega), hpower]
  rfl

/-- A width that is no width of a field is left alone, and any other one is at least one and at most
the number of bits of a word. -/
lemma checkedTwosComplement_eq (width : Nat) (raw : Word) :
    checkedTwosComplement width raw = .ok (twosComplement width raw) := by
  rw [checkedTwosComplement, twosComplement]
  split
  · next hwidth =>
    rw [if_neg (by omega), toInt_setWidth_128]
    rfl
  · next hwidth =>
    obtain ⟨hpos, hmax⟩ : 1 ≤ width ∧ width ≤ 64 := by omega
    have hone : (1 : BitVec 32).toNat = 1 := rfl
    have hwide : (BitVec.ofNat 32 width).toNat = width := by
      rw [BitVec.toNat_ofNat, Nat.mod_eq_of_lt (by omega)]
    have hle : (1 : BitVec 32) ≤ BitVec.ofNat 32 width := by
      rw [BitVec.le_def, hwide, hone]
      exact hpos
    have hplace : (BitVec.ofNat 32 width - 1).toNat = width - 1 := by
      rw [BitVec.toNat_sub_of_le hle, hwide, hone]
    rw [sub, if_pos hle]
    change shiftRight raw (BitVec.ofNat 32 width - 1).toNat >>= _ = _
    rw [hplace, shiftRight, if_pos (by omega)]
    change (if raw >>> (width - 1) &&& 1 = 1 then _ else _) = _
    simp only [shiftRight_and_one_eq_iff]
    split
    · next hsign =>
      have hpower := toInt_shiftLeft_one hmax
      have hvalue := toInt_setWidth_128 raw
      have hspare : ¬(raw.setWidth 128).ssubOverflow ((1 : BitVec 128) <<< width) = true := by
        have hraw := raw.isLt
        have hpow : Nat.pow 2 width ≤ 2 ^ 64 := Nat.pow_le_pow_right (by decide) hmax
        rw [BitVec.ssubOverflow, hvalue, hpower]
        simp only [Bool.or_eq_true, decide_eq_true_eq]
        omega
      rw [if_pos ⟨hpos, hmax, hsign⟩, shiftLeft, if_pos (by omega)]
      change signedSub _ _ >>= _ = _
      rw [signedSub, if_neg hspare]
      change Except.ok (BitVec.toInt _) = _
      rw [BitVec.toInt_sub_of_not_ssubOverflow hspare, hvalue, hpower]
    · next hsign =>
      rw [if_neg fun h => hsign h.2.2, toInt_setWidth_128]
      rfl

namespace Field

/-- How a sub-value of the field reads. -/
def checkedRender (f : Field) (raw : Word) : Checked String :=
  match f.kind with
  | .signed => do
    let width ← f.bits.checkedWidth
    let number ← checkedTwosComplement width raw
    return withHex (Numeral.signedDecimal number) raw
  | .flag | .counter | .enumerated _ | .raw => return f.render raw

/-- The field of the value of a register. -/
def checkedDecode (f : Field) (register : String) (value : Word) :
    Checked (Except Failure DecodedField) :=
  if f.bits.IsValid then do
    let raw ← f.bits.checkedExtract value
    let text ← f.checkedRender raw
    return .ok ⟨f.label, f.bits, raw, text⟩
  else return .error (.fieldRange register f.label f.bits)

lemma checkedRender_eq {f : Field} (h : f.bits.high ≤ 255) (raw : Word) :
    f.checkedRender raw = .ok (f.render raw) := by
  cases hkind : f.kind with
  | signed =>
    simp only [checkedRender, render, hkind, BitRange.checkedWidth_eq h]
    change checkedTwosComplement _ _ >>= _ = _
    rw [checkedTwosComplement_eq]
    rfl
  | flag | counter | raw | enumerated _ =>
    simp only [checkedRender, hkind]
    rfl

lemma checkedDecode_eq (f : Field) (register : String) (value : Word) :
    f.checkedDecode register value = .ok (f.decode register value) := by
  rw [checkedDecode, decode]
  split
  · next hvalid =>
    have hhigh : f.bits.high ≤ 255 := le_trans hvalid.2 (by decide)
    rw [BitRange.checkedExtract_eq hvalid]
    change checkedRender _ _ >>= _ = _
    rw [checkedRender_eq hhigh]
    rfl
  · rfl

end Field

namespace Definition

/-- The fields of a value. -/
def checkedDecode (d : Definition) (value : Word) : Checked (Except Failure (List DecodedField)) :=
  (d.fields.mapM fun f => ExceptT.mk (f.checkedDecode d.name value)).run

/-- The labels of the fields that read differently in two values. -/
def checkedChangedFields (d : Definition) (before after : Word) :
    Checked (Except Failure (List String)) :=
  ExceptT.run do
    let before ← ExceptT.mk (d.checkedDecode before)
    let after ← ExceptT.mk (d.checkedDecode after)
    return ((before.zip after).filter fun (x, y) => x.text != y.text).map fun (x, _) => x.label

/-- The bits that lie in no valid field. -/
def checkedUndocumentedMask (d : Definition) : Checked Word := do
  let covered ← (d.fields.filter fun f => f.bits.IsValid).foldlM
    (fun covered f => do
      let mask ← f.bits.checkedMask
      return covered ||| mask) 0
  return ~~~covered

/-- The set bits of a value that lie in no valid field. -/
def checkedUndocumentedBits (d : Definition) (value : Word) : Checked Word := do
  let mask ← d.checkedUndocumentedMask
  return value &&& mask

variable (d : Definition) (value before after : Word)

lemma checkedDecode_eq : d.checkedDecode value = .ok (d.decode value) :=
  mapM_run fun f _ => f.checkedDecode_eq d.name value

lemma checkedChangedFields_eq :
    d.checkedChangedFields before after = .ok (d.changedFields before after) := by
  rw [checkedChangedFields, changedFields, checkedDecode_eq, checkedDecode_eq]
  cases d.decode before with
  | error failure => rfl
  | ok parts => cases d.decode after <;> rfl

lemma checkedUndocumentedMask_eq : d.checkedUndocumentedMask = .ok d.undocumentedMask := by
  have hfold (fields : List Field) (hvalid : ∀ f ∈ fields, f.bits.IsValid) (covered : Word) :
      fields.foldlM (fun covered f => do
        let mask ← f.bits.checkedMask
        return covered ||| mask) covered =
        (.ok (fields.foldl (fun covered f => covered ||| f.bits.mask) covered) : Checked Word) := by
    induction fields generalizing covered with
    | nil => rfl
    | cons f fields ih =>
      rw [List.forall_mem_cons] at hvalid
      rw [List.foldlM_cons, BitRange.checkedMask_eq hvalid.1]
      exact ih hvalid.2 _
  have hvalid : ∀ f ∈ d.fields.filter fun f => f.bits.IsValid, f.bits.IsValid := fun f hf =>
    of_decide_eq_true (List.mem_filter.1 hf).2
  rw [checkedUndocumentedMask, hfold _ hvalid]
  rfl

lemma checkedUndocumentedBits_eq :
    d.checkedUndocumentedBits value = .ok (d.undocumentedBits value) := by
  rw [checkedUndocumentedBits, checkedUndocumentedMask_eq]
  rfl

end Definition

/-! ## Validation -/

namespace Violation

/-- What a check says of each element of a list, given the elements before it. -/
def checkedEachWithEarlier {α β : Type} (check : List α → α → Checked (List β))
    (earlier : List α) : List α → Checked (List β)
  | [] => return []
  | x :: rest => do
    let here ← check earlier x
    let later ← checkedEachWithEarlier check (earlier ++ [x]) rest
    return here ++ later

/-- A kind that does not fit the width of its field; the values of an enumeration are compared with
the greatest number that the bits of the field form. -/
def checkedOfKind (d : Definition) (f : Field) : Checked (List Violation) :=
  match f.kind with
  | .flag => do
    let width ← f.bits.checkedWidth
    return if width = 1 then [] else [wideFlag d f]
  | .enumerated values => do
    let mask ← f.bits.checkedMask
    let limit ← shiftRight mask f.bits.low
    return (values.entries.filter fun entry => limit < entry.1).map
      fun entry => largeValue d f entry.1 entry.2
  | .counter | .signed | .raw => return []

/-- The violations of a field, given the fields declared before it. -/
def checkedOfField (d : Definition) (earlier : List Field) (f : Field) : Checked (List Violation) :=
  if f.bits.IsValid then do
    let kind ← checkedOfKind d f
    return kind ++ earlier.flatMap (ofPair d f)
  else return [invalidRange d f]

/-- The violations of a definition, given those before it. -/
def checkedOfDefinition (earlier : List Definition) (d : Definition) : Checked (List Violation) := do
  let fields ← checkedEachWithEarlier (checkedOfField d) [] d.fields
  return (if (Text.trim d.name.toList).isEmpty then [blankName earlier.length d] else []) ++
    (if d.encoding.isSystemRegister then [] else [instructionSpace d]) ++
    ((earlier.find? fun first => foldedName first = foldedName d).map (duplicateName · d)).toList ++
    ((earlier.find? fun first => first.encoding = d.encoding).map (duplicateEncoding · d)).toList ++
    fields

lemma checkedEachWithEarlier_eq {α β : Type} {check : List α → α → List β}
    {checked : List α → α → Checked (List β)}
    (h : ∀ earlier x, checked earlier x = .ok (check earlier x)) (earlier xs : List α) :
    checkedEachWithEarlier checked earlier xs = .ok (eachWithEarlier check earlier xs) := by
  induction xs generalizing earlier with
  | nil => rfl
  | cons x xs ih =>
    rw [checkedEachWithEarlier, h]
    change checkedEachWithEarlier _ _ _ >>= _ = _
    rw [ih]
    rfl

/-- The greatest number that the bits of a range form is one less than a power of two. -/
lemma shiftRight_mask_lt_iff {b : BitRange} (h : b.IsValid) (value : Word) :
    b.mask >>> b.low < value ↔ Nat.pow 2 b.width ≤ value.toNat := by
  have hlimit : (b.mask >>> b.low).toNat = 2 ^ b.width - 1 := by
    apply Nat.eq_of_testBit_eq
    intro k
    have hwidth : k < b.width → b.low + k < 64 := by
      rw [BitRange.IsValid] at h
      rw [BitRange.width]
      omega
    have hbit := BitRange.getLsbD_extract h (BitVec.allOnes 64) k
    rw [BitRange.extract, BitVec.allOnes_and, BitVec.getLsbD_allOnes] at hbit
    rw [BitVec.testBit_toNat, hbit, Nat.testBit_two_pow_sub_one]
    exact Bool.and_eq_left_iff_imp.2 fun hk => decide_eq_true (hwidth (of_decide_eq_true hk))
  have hpos : 0 < 2 ^ b.width := Nat.two_pow_pos _
  rw [BitVec.lt_def, hlimit, Nat.pow_eq]
  omega

lemma checkedOfKind_eq (d : Definition) {f : Field} (h : f.bits.IsValid) :
    checkedOfKind d f = .ok (ofKind d f) := by
  have hhigh : f.bits.high ≤ 255 := le_trans h.2 (by decide)
  have hlow : f.bits.low < 64 := by
    rw [BitRange.IsValid] at h
    omega
  cases hkind : f.kind with
  | flag =>
    simp only [checkedOfKind, ofKind, hkind, BitRange.checkedWidth_eq hhigh]
    rfl
  | enumerated values =>
    simp only [checkedOfKind, ofKind, hkind, BitRange.checkedMask_eq h]
    change shiftRight _ _ >>= _ = _
    rw [shiftRight, if_pos hlow]
    simp only [← shiftRight_mask_lt_iff h]
    rfl
  | counter | signed | raw =>
    simp only [checkedOfKind, ofKind, hkind]
    rfl

lemma checkedOfField_eq (d : Definition) (earlier : List Field) (f : Field) :
    checkedOfField d earlier f = .ok (ofField d earlier f) := by
  rw [checkedOfField, ofField]
  split
  · next hvalid =>
    rw [checkedOfKind_eq d hvalid]
    rfl
  · rfl

lemma checkedOfDefinition_eq (earlier : List Definition) (d : Definition) :
    checkedOfDefinition earlier d = .ok (ofDefinition earlier d) := by
  rw [checkedOfDefinition, checkedEachWithEarlier_eq (checkedOfField_eq d)]
  rfl

end Violation

/-- The definitions of a catalog, or all the invariants that the list breaks. -/
def Catalog.checkedOfList (definitions : List Definition) :
    Checked (Except Failure (List Definition)) := do
  let violations ← Violation.checkedEachWithEarlier Violation.checkedOfDefinition [] definitions
  return if violations = [] then .ok definitions else .error (.integrity violations)

lemma Catalog.checkedOfList_eq (definitions : List Definition) :
    checkedOfList definitions = .ok ((ofList definitions).map registers) := by
  rw [checkedOfList, Violation.checkedEachWithEarlier_eq Violation.checkedOfDefinition_eq]
  change Except.ok (if Violation.ofList definitions = [] then _ else _) = _
  by_cases h : Violation.ofList definitions = []
  · rw [if_pos h, ofList_of_wellFormed ((Violation.ofList_eq_nil_iff _).1 h)]
    rfl
  · rw [if_neg h, ofList_eq_error h]
    rfl

/-! ## Every layout -/

/-- **No layout makes the arithmetic on bits go wrong.**  Whatever fields a list of definitions has,
their bounds being numbers of eight bits, validating the list, decoding any value, telling which
fields changed between two values, finding the bits of no field, and showing any sub-value come to
their results with every operation checked: no shift moves a word by all its bits, no sum or
difference leaves its type, and no mask is asked for of a range outside the register. -/
theorem arithmetic_exact (definitions : List Definition)
    (hbytes : ∀ d ∈ definitions, ∀ f ∈ d.fields, f.bits.high ≤ 255) :
    Catalog.checkedOfList definitions =
      .ok ((Catalog.ofList definitions).map Catalog.registers) ∧
    ∀ d ∈ definitions, ∀ before after : Word,
      d.checkedDecode before = .ok (d.decode before) ∧
      d.checkedChangedFields before after = .ok (d.changedFields before after) ∧
      d.checkedUndocumentedMask = .ok d.undocumentedMask ∧
      d.checkedUndocumentedBits before = .ok (d.undocumentedBits before) ∧
      ∀ f ∈ d.fields, ∀ raw, f.checkedRender raw = .ok (f.render raw) := by
  refine ⟨Catalog.checkedOfList_eq definitions, fun d hd before after => ?_⟩
  exact ⟨d.checkedDecode_eq before, d.checkedChangedFields_eq before after,
    d.checkedUndocumentedMask_eq, d.checkedUndocumentedBits_eq before,
    fun f hf => Field.checkedRender_eq (hbytes d hd f hf)⟩

/-- A layout that fits no register: a field that covers more bits than there are, one behind the last
bit, and one with its bounds inverted. -/
def sprawling : Definition where
  name := "SPRAWLING_EL1"
  encoding := .truncating 3 0 15 0 0
  category := .other
  description := none
  fields := [⟨⟨255, 0⟩, "All", .signed⟩, .raw 70 64 "Behind",
    .enumerated 3 255 "Inverted" [(9, "nine")]]

/-- Although the mask of its fields has no result, the layout is refused and its fields are shown like
those of any other. -/
theorem arithmetic_exact_sprawling :
    (∀ f ∈ sprawling.fields, f.bits.checkedMask = .error (.mask f.bits)) ∧
    (∃ violations, Catalog.checkedOfList [sprawling] = .ok (.error (.integrity violations))) ∧
    ∀ f ∈ sprawling.fields, ∀ raw, f.checkedRender raw = .ok (f.render raw) := by
  have hbytes : ∀ d ∈ [sprawling], ∀ f ∈ d.fields, f.bits.high ≤ 255 := by decide
  obtain ⟨hlist, hfields⟩ := arithmetic_exact [sprawling] hbytes
  obtain ⟨-, -, -, -, hrender⟩ := hfields sprawling List.mem_cons_self 0 0
  refine ⟨by decide, ⟨Violation.ofList [sprawling], ?_⟩, hrender⟩
  have hbroken : Violation.ofList [sprawling] ≠ [] := by decide
  rw [hlist, Catalog.ofList_eq_error hbroken]
  rfl

end SysReg
