import SysReg.Proofs.Text.Blank
import SysReg.Proofs.Text.Numeral
import SysReg.Time.Text

/-!
# Times read back

Each reader takes back the piece that the writer put in front of a rest, if no digit opens the rest:
a year with or without sign, numbers of two digits, a fraction of three, six or nine digits.
`ofText?_zuluText` puts the pieces together: every time is read back from its form in documents,
leap seconds and years beyond four digits included.
-/

namespace SysReg.Time

/-! ## Numbers in front of a rest -/

/-- No digit opens the text, so that it does not go on with a number in front of it. -/
def NoDigitAhead (rest : List Char) : Prop :=
  ∀ c ∈ rest.head?, c.isDigit = false

lemma noDigitAhead_cons {c : Char} (h : c.isDigit = false) (cs : List Char) :
    NoDigitAhead (c :: cs) := by
  intro a ha
  rw [List.head?_cons, Option.mem_some_iff] at ha
  exact ha ▸ h

lemma NoDigitAhead.takeWhile_take {rest : List Char} (h : NoDigitAhead rest) (k : Nat) :
    (rest.take k).takeWhile Char.isDigit = [] := by
  cases rest with
  | nil => simp
  | cons c cs =>
    have hc : c.isDigit = false := h c rfl
    cases k <;> simp [hc]

lemma NoDigitAhead.dropWhile {rest : List Char} (h : NoDigitAhead rest) :
    rest.dropWhile Char.isDigit = rest := by
  cases rest with
  | nil => rfl
  | cons c cs => simp [h c rfl]

variable {ds rest : List Char} {most : Nat}

lemma digitRun_append (hd : ∀ c ∈ ds, c.isDigit = true) (hlen : ds.length ≤ most)
    (hrest : NoDigitAhead rest) : digitRun most (ds ++ rest) = ds := by
  rw [digitRun, List.take_append, List.take_of_length_le hlen, List.takeWhile_append_of_pos hd,
    hrest.takeWhile_take, List.append_nil]

lemma readNumber_append (hd : ∀ c ∈ ds, c.isDigit = true) (hne : ds ≠ [])
    (hlen : ds.length ≤ most) (hrest : NoDigitAhead rest) :
    readNumber most (ds ++ rest) = some (Nat.ofDigitChars 10 ds 0, rest) := by
  have hempty : ds.isEmpty = false := by simpa using hne
  simp only [readNumber, digitRun_append hd hlen hrest, hempty, List.drop_left, Bool.false_eq_true,
    if_false]

lemma toList_digits (width n : Nat) :
    (digits width n).toList = (Nat.toDigits 10 n).leftpad width '0' :=
  String.toList_ofList

lemma isDigit_of_mem_digits {width n : Nat} {c : Char} (h : c ∈ (digits width n).toList) :
    c.isDigit = true := by
  rw [toList_digits] at h
  exact Numeral.of_mem_leftpad (P := (·.isDigit = true)) (by decide)
    (fun _ => Numeral.isDigit_of_mem_decimal) h

lemma toList_digits_ne_nil {width n : Nat} : (digits width n).toList ≠ [] := by
  rw [toList_digits]
  exact Numeral.leftpad_toDigits_ne_nil

lemma length_digits {width n : Nat} (hw : 0 < width) (hn : n < 10 ^ width) :
    (digits width n).toList.length = width := by
  rw [toList_digits]
  exact Numeral.length_leftpad_toDigits (by decide) hw hn

/-- A padded number is taken off, if the reader takes that many digits. -/
lemma readNumber_digits {width n : Nat} (hlen : (digits width n).toList.length ≤ most)
    (hrest : NoDigitAhead rest) :
    readNumber most ((digits width n).toList ++ rest) = some (n, rest) := by
  rw [readNumber_append (fun _ => isDigit_of_mem_digits) toList_digits_ne_nil hlen hrest,
    toList_digits, Numeral.ofDigitChars_leftpad]

lemma readShort_digits {n : Nat} (hn : n < 100) (hrest : NoDigitAhead rest) :
    readShort ((digits 2 n).toList ++ rest) = some (n, rest) := by
  rw [readShort, Text.trimStart_digits (fun _ => isDigit_of_mem_digits) toList_digits_ne_nil]
  have hlen : (digits 2 n).toList.length = 2 := length_digits (by decide) hn
  exact readNumber_digits (Nat.le_of_eq hlen) hrest

lemma readSeparator_cons {separator : Char} (h : Text.isBlank separator = false)
    (rest : List Char) : readSeparator separator (separator :: rest) = some rest := by
  rw [readSeparator, Text.trimStart_cons h]
  exact if_pos rfl

/-! ## The pieces of a time -/

/-- A sign opens the number of a year, which then has any number of digits. -/
lemma readNumber_signed (n : Nat) (hrest : NoDigitAhead rest) :
    readNumber ((digits 4 n).toList ++ rest).length ((digits 4 n).toList ++ rest) =
      some (n, rest) :=
  readNumber_digits (by simp) hrest

lemma readYear_yearText (year : Int) (hrest : NoDigitAhead rest) :
    readYear ((yearText year).toList ++ rest) = some (year, rest) := by
  unfold yearText
  split
  · next hneg =>
    have hvalue : -((year.natAbs : Nat) : Int) = year := by omega
    simp only [String.toList_append, String.reduceToList, List.cons_append, List.nil_append,
      readYear, Text.trimStart_cons (by decide : Text.isBlank '-' = false),
      readNumber_signed _ hrest, Option.map_some, hvalue]
  · split
    · next hneg hle =>
      have hbound : year.natAbs < 10 ^ 4 := by omega
      have hlen : (digits 4 year.natAbs).toList.length = 4 := length_digits (by decide) hbound
      have hvalue : ((year.natAbs : Nat) : Int) = year := by omega
      have hsign : ∀ c cs, (digits 4 year.natAbs).toList ++ rest = c :: cs → c.isDigit = true := by
        intro c cs h
        have hne : (digits 4 year.natAbs).toList ≠ [] := toList_digits_ne_nil
        obtain ⟨d, ds, hds⟩ := List.exists_cons_of_ne_nil hne
        rw [hds, List.cons_append, List.cons.injEq] at h
        exact h.1 ▸ isDigit_of_mem_digits (hds ▸ List.mem_cons_self)
      unfold readYear
      rw [Text.trimStart_digits (fun _ => isDigit_of_mem_digits) toList_digits_ne_nil]
      split
      · next h => exact absurd (hsign _ _ h) (by decide)
      · next h => exact absurd (hsign _ _ h) (by decide)
      · simp only [readNumber_digits (Nat.le_of_eq hlen) hrest, Option.map_some, hvalue]
    · next hneg hle =>
      have hvalue : ((year.natAbs : Nat) : Int) = year := by omega
      simp only [String.toList_append, String.reduceToList, List.cons_append, List.nil_append,
        readYear, Text.trimStart_cons (by decide : Text.isBlank '+' = false),
        readNumber_signed _ hrest, Option.map_some, hvalue]

lemma readDate_text (date : Date) (hrest : NoDigitAhead rest) :
    readDate ((yearText date.year).toList ++ '-' :: ((digits 2 date.month).toList ++ '-' ::
      ((digits 2 date.day).toList ++ rest))) = some (date, rest) := by
  obtain ⟨-, ⟨-, hmonth⟩, -, hday⟩ := date.isDate
  have hmonths : daysInMonth date.year date.month ≤ 31 := by
    unfold daysInMonth
    split
    · split <;> omega
    · split <;> omega
  have hdash : ∀ cs, NoDigitAhead ('-' :: cs) := noDigitAhead_cons (by decide)
  have hblank : Text.isBlank '-' = false := by decide
  have hof : Date.of? date.year date.month date.day = some date :=
    Date.of?_eq_some_iff.2 ⟨rfl, rfl, rfl⟩
  simp only [readDate, readYear_yearText _ (hdash _), readSeparator_cons hblank,
    readShort_digits (by omega : date.month < 100) (hdash _),
    readShort_digits (by omega : date.day < 100) hrest, Option.bind_eq_bind, Option.bind_some, hof,
    Option.pure_def]

/-- Nine places of a fraction are filled by `width` digits and the zeros that were left off. -/
lemma readFraction_digits {width n : Nat} (hw : 0 < width) (hw' : width ≤ 9) (hn : n < 10 ^ width)
    (hrest : NoDigitAhead rest) :
    readFraction ('.' :: ((digits width n).toList ++ rest)) =
      some (n * 10 ^ (9 - width), rest) := by
  have hlen : (digits width n).toList.length = width := length_digits hw hn
  have hrun : digitRun 9 ((digits width n).toList ++ rest) = (digits width n).toList :=
    digitRun_append (fun _ => isDigit_of_mem_digits) (by omega) hrest
  have hempty : (digits width n).toList.isEmpty = false := by
    simpa using toList_digits_ne_nil
  have hvalue : Nat.ofDigitChars 10 (digits width n).toList 0 = n := by
    rw [toList_digits, Numeral.ofDigitChars_leftpad]
  simp only [readFraction, hrun, hempty, hvalue, hlen, List.drop_left' hlen, hrest.dropWhile,
    Bool.false_eq_true, if_false, Nat.pow_eq]

lemma readFraction_fractionText {nano : Nat} (hnano : nano < 1000000000)
    (hpoint : rest.head? ≠ some '.') (hrest : NoDigitAhead rest) :
    readFraction ((fractionText nano).toList ++ rest) = some (nano, rest) := by
  unfold fractionText
  split
  · next hzero =>
    subst hzero
    unfold readFraction
    split
    · next cs h =>
      have hopen : rest = '.' :: cs := h
      exact absurd (hopen ▸ rfl) hpoint
    · rfl
  · have hcons : ∀ s : String, ("." ++ s).toList ++ rest = '.' :: (s.toList ++ rest) := by
      intro s
      simp [String.toList_append]
    split
    · next hmilli =>
      rw [hcons, readFraction_digits (by decide) (by decide) (by omega) hrest]
      congr 2
      omega
    · split
      · next hmicro =>
        rw [hcons, readFraction_digits (by decide) (by decide) (by omega) hrest]
        congr 2
        omega
      · rw [hcons, readFraction_digits (by decide) (by decide) (by omega) hrest]
        congr 2
        omega

/-- A fraction does not go on with the digits of the seconds before it. -/
lemma noDigitAhead_fractionText {nano : Nat} (hrest : NoDigitAhead rest) :
    NoDigitAhead ((fractionText nano).toList ++ rest) := by
  have hpoint : ∀ s : String, NoDigitAhead (("." ++ s).toList ++ rest) := by
    intro s
    simpa [String.toList_append] using noDigitAhead_cons (by decide : '.'.isDigit = false) _
  unfold fractionText
  split
  · exact hrest
  · split
    · exact hpoint _
    · split
      · exact hpoint _
      · exact hpoint _

lemma below?_val {bound : Nat} (n : Fin bound) : below? bound n.val = some n := by
  simp [below?]

lemma toList_zuluText (t : Time) : t.zuluText.toList =
    (yearText t.date.year).toList ++ '-' :: ((digits 2 t.date.month).toList ++ '-' ::
      ((digits 2 t.date.day).toList ++ 'T' :: ((digits 2 t.hour).toList ++ ':' ::
        ((digits 2 t.minute).toList ++ ':' :: ((digits 2 t.second).toList ++
          ((fractionText t.nano).toList ++ ['Z'])))))) := by
  simp [zuluText, clockText, String.toList_append]

/-- A time is read back from its form in documents. -/
theorem ofText?_zuluText (t : Time) : ofText? t.zuluText = some t := by
  have hhour := t.hour.isLt
  have hminute := t.minute.isLt
  have hsecond := t.second.isLt
  have hT : ∀ cs, NoDigitAhead ('T' :: cs) := noDigitAhead_cons (by decide)
  have hcolon : ∀ cs, NoDigitAhead (':' :: cs) := noDigitAhead_cons (by decide)
  have hZ : NoDigitAhead ['Z'] := noDigitAhead_cons (by decide) _
  have hblank : Text.isBlank ':' = false := by decide
  have hfraction : NoDigitAhead ((fractionText t.nano).toList ++ ['Z']) :=
    noDigitAhead_fractionText hZ
  have hzone : readZone (Text.trimStart ['Z']) = some (0, []) := by decide
  rw [ofText?, toList_zuluText]
  simp only [read?, readDate_text _ (hT _), readJoint,
    readShort_digits (by omega : t.hour.val < 100) (hcolon _),
    readShort_digits (by omega : t.minute.val < 100) (hcolon _),
    readShort_digits (by omega : t.second.val < 100) hfraction, readSeparator_cons hblank,
    readFraction_fractionText t.nano.isLt (by decide) hZ, hzone, below?_val, Option.bind_eq_bind,
    Option.bind_some]
  exact ofLocal?_zero t

end SysReg.Time
