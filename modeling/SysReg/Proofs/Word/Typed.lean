import SysReg.CommandLine.Argument
import SysReg.Proofs.Snapshot.Document
import SysReg.Proofs.Text.Digits

/-!
# The grammar of typed register values

A typed text stands for a value if, without the blanks around it and the underscores in it, it is a
hexadecimal literal or a decimal numeral of a number that fits into a register.  `typed_exact` says
that these texts are read as their values, and that besides them only those are read which have a
plus sign in front of their digits.

The documented grammar has no sign, and documents are read without one: `Word.Literal` is all that
is taken from a snapshot.  That the command line takes more is due to the reader of numerals that
both use, which skips a plus sign; documents look at the digits before they call it
(`signed_accepted`).
-/

namespace SysReg

namespace Word

variable {w : Word} {text : String} {cs : List Char}

/-! ## Literals -/

/-- The text is `0x` or `0X` with one or more hexadecimal digits behind it, which stand for the
value. -/
def Literal (w : Word) (cs : List Char) : Prop :=
  ∃ x digits, (x = 'x' ∨ x = 'X') ∧ cs = '0' :: x :: digits ∧ Numeral.Denotes 16 digits w.toNat

/-- The text stands for the value by the documented grammar. -/
inductive Unsigned (w : Word) (cs : List Char) : Prop where
  | hexadecimal (h : w.Literal cs)
  | decimal (h : Numeral.Denotes 10 cs w.toNat)

/-- The text stands for the value but for a plus sign in front of its digits. -/
inductive Signed (w : Word) : List Char → Prop where
  | hexadecimal {x : Char} {digits : List Char} (hx : x = 'x' ∨ x = 'X')
      (h : Numeral.Denotes 16 digits w.toNat) : Signed w ('0' :: x :: '+' :: digits)
  | decimal {digits : List Char} (h : Numeral.Denotes 10 digits w.toNat) :
      Signed w ('+' :: digits)

lemma ofNumeral_eq_ok_iff {base : Nat} (hb : 0 < base) :
    ofNumeral base cs = .ok w ↔ Numeral.Denotes base cs w.toNat ∨
      ∃ digits, cs = '+' :: digits ∧ Numeral.Denotes base digits w.toNat := by
  have hcount : 0 < count := by decide
  have hread : ofNumeral base cs = .ok w ↔ Numeral.readBelow base count cs = .ok w.toNat := by
    refine ⟨fun h => ?_, ofNumeral_eq_ok⟩
    rw [ofNumeral] at h
    cases hn : Numeral.readBelow base count cs with
    | error fault => simp [hn, Except.map] at h
    | ok n =>
      rw [hn] at h
      have hlt : n < 2 ^ 64 := ((Numeral.readBelow_eq_ok_iff hb hcount).1 hn).1
      rw [← Except.ok.inj h, BitVec.toNat_ofNat, Nat.mod_eq_of_lt hlt]
  rw [hread, Numeral.readBelow_eq_ok_iff hb hcount, and_iff_right w.toNat_lt_count]

/-- Behind `0x` there are hexadecimal digits, and no decimal numeral begins so. -/
lemma unsigned_or_signed_iff_of_prefixed {x : Char} {digits : List Char} (hx : x = 'x' ∨ x = 'X') :
    w.Unsigned ('0' :: x :: digits) ∨ w.Signed ('0' :: x :: digits) ↔
      Numeral.Denotes 16 digits w.toNat ∨
        ∃ rest, digits = '+' :: rest ∧ Numeral.Denotes 16 rest w.toNat := by
  have hletter : Numeral.digitValue? x = none := by
    rcases hx with rfl | rfl <;> decide
  constructor
  · rintro ((⟨x', digits', hx', heq, h⟩ | h) | h)
    · cases heq
      exact .inl h
    · exact absurd (List.mem_cons_of_mem _ List.mem_cons_self) (h.not_mem hletter)
    · cases h with
      | hexadecimal _ h => exact .inr ⟨_, rfl, h⟩
  · rintro (h | ⟨rest, rfl, h⟩)
    · exact .inl (.hexadecimal ⟨x, digits, hx, rfl, h⟩)
    · exact .inr (.hexadecimal hx h)

/-- Without `0x` in front, only a decimal numeral stands for a value. -/
lemma unsigned_or_signed_iff_of_not_prefixed
    (h : ∀ x digits, x = 'x' ∨ x = 'X' → cs ≠ '0' :: x :: digits) :
    w.Unsigned cs ∨ w.Signed cs ↔ Numeral.Denotes 10 cs w.toNat ∨
      ∃ rest, cs = '+' :: rest ∧ Numeral.Denotes 10 rest w.toNat := by
  constructor
  · rintro ((⟨x, digits, hx, heq, -⟩ | hdecimal) | hsigned)
    · exact absurd heq (h x digits hx)
    · exact .inl hdecimal
    · cases hsigned with
      | hexadecimal hx _ => exact absurd rfl (h _ _ hx)
      | decimal hdecimal => exact .inr ⟨_, rfl, hdecimal⟩
  · rintro (hdecimal | ⟨rest, rfl, hdecimal⟩)
    · exact .inl (.decimal hdecimal)
    · exact .inr (.decimal hdecimal)

/-- The documented grammar has no plus sign anywhere. -/
lemma Unsigned.plus_not_mem (h : w.Unsigned cs) : '+' ∉ cs := by
  cases h with
  | decimal h => exact h.not_mem (by decide)
  | hexadecimal h =>
    obtain ⟨x, digits, hx, rfl, h⟩ := h
    have hdigits : '+' ∉ digits := h.not_mem (by decide)
    rcases hx with rfl | rfl <;> simpa using hdigits

/-! ## Typed values -/

lemma ofTyped_eq_ok_iff :
    ofTyped text = .ok w ↔ w.Unsigned (ungrouped text) ∨ w.Signed (ungrouped text) := by
  rw [ofTyped, mapError_eq_ok_iff]
  split
  · next digits heq =>
    rw [heq, unsigned_or_signed_iff_of_prefixed (.inl rfl), ofNumeral_eq_ok_iff (by decide)]
  · next digits heq =>
    rw [heq, unsigned_or_signed_iff_of_prefixed (.inr rfl), ofNumeral_eq_ok_iff (by decide)]
  · next hlower hupper =>
    have hplain : ∀ x digits, x = 'x' ∨ x = 'X' → ungrouped text ≠ '0' :: x :: digits := by
      rintro x digits (rfl | rfl)
      · exact hlower digits
      · exact hupper digits
    rw [unsigned_or_signed_iff_of_not_prefixed hplain, ofNumeral_eq_ok_iff (by decide)]

/-! ## Stored values -/

lemma hexBody?_eq_some_iff {digits : List Char} : Document.hexBody? cs = some digits ↔
    ∃ x, (x = 'x' ∨ x = 'X') ∧ cs = '0' :: x :: digits := by
  constructor
  · intro h
    rw [Document.hexBody?.eq_def] at h
    split at h
    · cases h
      exact ⟨'x', .inl rfl, rfl⟩
    · cases h
      exact ⟨'X', .inr rfl, rfl⟩
    · cases h
  · rintro ⟨x, rfl | rfl, rfl⟩ <;> rfl

/-- A document holds literals without a sign, since its reader looks at the digits first. -/
lemma wordOfText_eq_ok_iff : Document.wordOfText text = .ok w ↔ w.Literal text.toList := by
  constructor
  · intro h
    rw [Document.wordOfText] at h
    split at h
    · cases h
    · next digits hbody =>
      obtain ⟨x, hx, htext⟩ := hexBody?_eq_some_iff.1 hbody
      split at h
      · cases h
      · next hdigits =>
        have hhex : ∀ c ∈ digits, Numeral.isHexDigit c = true := by
          simp only [Bool.or_eq_true, Bool.not_eq_true', not_or, Bool.not_eq_false] at hdigits
          exact List.all_eq_true.1 hdigits.2
        rcases (ofNumeral_eq_ok_iff (by decide)).1 (mapError_eq_ok_iff.1 h) with h | ⟨rest, rfl, -⟩
        · exact ⟨x, digits, hx, htext, h⟩
        · exact absurd (hhex '+' List.mem_cons_self) (by decide)
  · rintro ⟨x, digits, hx, htext, h⟩
    have hempty : digits.isEmpty = false := List.isEmpty_eq_false_iff.2 h.nonempty
    have hhex : digits.all Numeral.isHexDigit = true := by
      rw [List.all_eq_true]
      intro c hc
      obtain ⟨d, -, hd⟩ := h.exists_digitValue? hc
      rw [Numeral.isHexDigit, hd]
      rfl
    have hnumeral : ofNumeral 16 digits = .ok w := (ofNumeral_eq_ok_iff (by decide)).2 (.inl h)
    rw [Document.wordOfText, hexBody?_eq_some_iff.2 ⟨x, hx, htext⟩]
    simp [hempty, hhex, hnumeral, Except.mapError]

/-! ## Exactness -/

/-- **A typed text is a value exactly by the documented grammar, but for a plus sign.**  Without the
blanks around it and the underscores in it, it is a hexadecimal literal or a decimal numeral of the
value, or becomes one if a plus sign in front of its digits is dropped; every other text is refused.
A text in a document is a value exactly if it is such a literal as it stands, without a sign. -/
theorem typed_exact (text : String) :
    (∀ w : Word, ofTyped text = .ok w ↔ w.Unsigned (ungrouped text) ∨ w.Signed (ungrouped text)) ∧
    ((∃ fault, ofTyped text = .error fault) ↔
      ∀ w : Word, ¬w.Unsigned (ungrouped text) ∧ ¬w.Signed (ungrouped text)) ∧
    ∀ w : Word, Document.wordOfText text = .ok w ↔ w.Literal text.toList := by
  refine ⟨fun w => ofTyped_eq_ok_iff, ?_, fun w => wordOfText_eq_ok_iff⟩
  rw [exists_eq_error_iff, not_exists]
  refine forall_congr' fun w => ?_
  rw [ofTyped_eq_ok_iff, not_or]

/-- A decimal numeral and a hexadecimal literal are read with a plus sign in them, although neither
stands for a value by the documented grammar; a document that holds the second one is refused. -/
theorem signed_accepted :
    ofTyped "+5" = .ok 5 ∧ (∀ w : Word, ¬w.Unsigned (ungrouped "+5")) ∧
    ofTyped "0x+10" = .ok 16 ∧ (∀ w : Word, ¬w.Unsigned (ungrouped "0x+10")) ∧
    Document.wordOfText "0x+10" = .error (.valueDigits "0x+10") := by
  have hdecimal : '+' ∈ ungrouped "+5" := by decide +kernel
  have hliteral : '+' ∈ ungrouped "0x+10" := by decide +kernel
  refine ⟨by decide +kernel, fun w h => h.plus_not_mem hdecimal, by decide +kernel,
    fun w h => h.plus_not_mem hliteral, by decide +kernel⟩

end Word
end SysReg
