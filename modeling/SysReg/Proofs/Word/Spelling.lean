import SysReg.CommandLine.Argument
import SysReg.Proofs.Access.Debugger
import SysReg.Proofs.Snapshot.Document

/-!
# Every spelling of a register value is read back

Values are read from snapshot documents, from the command line and from what a debugger prints.  The
three readers differ in what they let stand before, between and behind the digits.
`Word.spellings_read_back` states for each that it takes the value from all that it is spelled as:
both hexadecimal spellings everywhere, the decimal one on the command line.
-/

namespace SysReg

/-! ## Typed spellings -/

namespace Text

/-- The second text is the first with underscores put in, at any places and any number of them. -/
inductive Grouped : List Char → List Char → Prop
  | nil : Grouped [] []
  | char (c : Char) {text grouped : List Char} : Grouped text grouped →
      Grouped (c :: text) (c :: grouped)
  | underscore {text grouped : List Char} : Grouped text grouped → Grouped text ('_' :: grouped)

/-- The text has neither blanks nor underscores, so that nothing in it is passed over. -/
def Plain (cs : List Char) : Prop :=
  ∀ c ∈ cs, isBlank c = false ∧ c ≠ '_'

namespace Grouped

variable {text grouped : List Char}

lemma filter_underscore (h : Grouped text grouped) (hplain : Plain text) :
    grouped.filter (· != '_') = text := by
  induction h with
  | nil => rfl
  | char c _ ih =>
    rw [Plain, List.forall_mem_cons] at hplain
    rw [List.filter_cons_of_pos (by simpa using hplain.1.2), ih hplain.2]
  | underscore _ ih => rw [List.filter_cons_of_neg (by decide), ih hplain]

lemma isBlank_eq_false (h : Grouped text grouped) (hplain : Plain text) :
    ∀ c ∈ grouped, isBlank c = false := by
  induction h with
  | nil => exact nofun
  | char c _ ih =>
    rw [Plain, List.forall_mem_cons] at hplain
    exact List.forall_mem_cons.2 ⟨hplain.1.1, ih hplain.2⟩
  | underscore _ ih => exact List.forall_mem_cons.2 ⟨by decide, ih hplain⟩

end Grouped
end Text

namespace Word

variable {w : Word}

/-- The ways in which a value is written. -/
def spellings (w : Word) : List String :=
  w.hexSpellings ++ [Numeral.decimal w.toNat]

lemma plain_of_mem_spellings {spelling : String} (h : spelling ∈ w.spellings) :
    Text.Plain spelling.toList := by
  rcases List.mem_append.1 h with h | h
  · obtain ⟨digits, htext, hdigits⟩ := exists_speltBy h
    rw [htext, Text.Plain, List.forall_mem_cons, List.forall_mem_cons]
    refine ⟨by decide, by decide, fun c hc => ?_⟩
    have hhex := hdigits.hex c hc
    exact ⟨Text.isBlank_of_isHexDigit hhex, by rintro rfl; exact absurd hhex (by decide)⟩
  · rw [List.mem_singleton.1 h, Numeral.toList_decimal]
    intro c hc
    have hdigit := Numeral.isDigit_of_mem_decimal hc
    exact ⟨Text.isBlank_of_isDigit hdigit, by rintro rfl; exact absurd hdigit (by decide)⟩

/-- Blanks around a spelling and underscores in it leave nothing behind. -/
lemma ungrouped_of_grouped {spelling before grouped after : List Char}
    (hplain : Text.Plain spelling) (hgrouped : Text.Grouped spelling grouped)
    (hbefore : ∀ c ∈ before, Text.isBlank c = true)
    (hafter : ∀ c ∈ after, Text.isBlank c = true) :
    ungrouped (String.ofList (before ++ grouped ++ after)) = spelling := by
  have hblank := hgrouped.isBlank_eq_false hplain
  have houter : Text.NoOuterBlank grouped :=
    ⟨fun c hc => hblank c (List.mem_of_mem_head? hc),
      fun c hc => hblank c (List.mem_of_mem_getLast? hc)⟩
  rw [ungrouped, String.toList_ofList, Text.trim_append_append hbefore hafter houter,
    hgrouped.filter_underscore hplain]

lemma ofTyped_of_ungrouped {text spelling : String} (hspelling : spelling ∈ w.spellings)
    (h : ungrouped text = spelling.toList) : ofTyped text = .ok w := by
  rcases List.mem_append.1 hspelling with hhex | hdecimal
  · obtain ⟨digits, htext, hdigits⟩ := exists_speltBy hhex
    rw [ofTyped, h, htext]
    simp only [hdigits.value]
    rfl
  · rw [List.mem_singleton.1 hdecimal, Numeral.toList_decimal] at h
    -- A decimal numeral holds no letter, so it is not taken for a hexadecimal one.
    have hletter (c : Char) (cs : List Char) (hc : c.isDigit = false) :
        Nat.toDigits 10 w.toNat ≠ '0' :: c :: cs := fun heq =>
      Numeral.not_mem_decimal hc (heq ▸ List.mem_cons_of_mem _ List.mem_cons_self)
    rw [ofTyped, h]
    split
    · next heq => exact absurd heq (hletter 'x' _ (by decide))
    · next heq => exact absurd heq (hletter 'X' _ (by decide))
    · rw [ofNumeral_decimal]
      rfl

/-! ## Printed spellings -/

/-- The answer of a debugger is a line of its own. -/
lemma lines_answer (e : Encoding) {hex : String} (h : hex ∈ w.hexSpellings)
    {lineEnd : List Char} (hend : lineEnd ∈ Text.lineEnds) :
    Text.lines ((e.canonical ++ " = " ++ hex).toList ++ lineEnd) =
      [(e.canonical ++ " = " ++ hex).toList] := by
  have hplain := plain_of_mem_spellings (List.mem_append_left _ h)
  have hne : hex.toList ≠ [] := by
    obtain ⟨digits, htext, -⟩ := exists_speltBy h
    exact htext ▸ List.cons_ne_nil _ _
  have hnot {c : Char} (hc : Text.isBlank c = true) : c ∉ hex.toList := fun hmem => by
    rw [(hplain c hmem).1] at hc
    exact absurd hc (by decide)
  refine Text.lines_append_end ?_ ?_ ?_ hend
  · simp [String.toList_append, hnot (c := '\n') (by decide),
      Encoding.not_mem_canonical (c := '\n') (by decide) (by decide) e]
  · simp [String.toList_append]
  · rw [String.toList_append, List.getLast?_append_of_ne_nil _ hne]
    exact fun hlast => hnot (by decide) (List.mem_of_mem_getLast? hlast)

/-- The answer of a debugger may go on with a description, but need not. -/
lemma prints_answer (e : Encoding) {hex : String} (h : hex ∈ w.hexSpellings) :
    Debugger.Prints e w (e.canonical ++ " = " ++ hex).toList :=
  ⟨hex, h, [], nofun, by simp [String.toList_append]⟩

/-! ## All readers -/

/-- Every reader takes the value from each of the texts that spell it. -/
structure ReadBack (w : Word) : Prop where
  /-- The value that a snapshot document holds. -/
  stored : ∃ source,
    Json.Source.ofText (Json.optionalString ((some w).map padded)).text.toList = (source, true) ∧
      Document.readOptional Document.readWord source = .ok (some w)
  /-- Both hexadecimal spellings in such a document. -/
  spelled : ∀ hex ∈ w.hexSpellings, Document.wordOfText hex = .ok w
  /-- Every spelling on the command line, with blanks around it and underscores in it. -/
  typed : ∀ spelling ∈ w.spellings, ∀ before grouped after : List Char,
    (∀ c ∈ before, Text.isBlank c = true) → (∀ c ∈ after, Text.isBlank c = true) →
      Text.Grouped spelling.toList grouped →
        ofTyped (String.ofList (before ++ grouped ++ after)) = .ok w
  /-- The answer of a debugger as its whole output, whatever way the line ends. -/
  printed : ∀ e : Encoding, ∀ hex ∈ w.hexSpellings, ∀ lineEnd ∈ Text.lineEnds,
    Debugger.valueIn? ((e.canonical ++ " = " ++ hex).toList ++ lineEnd) e.canonical = some w
  /-- The answer of a debugger among other lines, of which none in front is the register's own. -/
  printedAmong : ∀ (e : Encoding) (output line : List Char) (before after : List (List Char)),
    Text.lines output = before ++ line :: after → Debugger.Prints e w line →
      (∀ l ∈ before, Debugger.isOwnLine e.canonical.toList l = false) →
        Debugger.valueIn? output e.canonical = some w

/-- **Every spelling of a value is read back as the value, by every reader of it.**  Documents hold
sixteen digits and are read with any number of them; the command line accepts the decimal spelling
as well, whatever blanks stand around it and however its digits are grouped; from the output of a
debugger the value is taken whether it is printed alone or among other lines. -/
theorem spellings_read_back (w : Word) : w.ReadBack where
  stored :=
    ⟨_, Json.ofText_toList_text _, Document.readOptional_tree Document.readWord_tree (some w)⟩
  spelled _ := Document.wordOfText_of_mem_hexSpellings
  typed _ hspelling _ _ _ hbefore hafter hgrouped :=
    ofTyped_of_ungrouped hspelling
      (ungrouped_of_grouped (plain_of_mem_spellings hspelling) hgrouped hbefore hafter)
  printed e _ hhex _ hend :=
    Debugger.valueIn?_of_prints [] (lines_answer e hhex hend) nofun (prints_answer e hhex)
  printedAmong _ _ _ before _ hlines hprints hbefore :=
    Debugger.valueIn?_of_prints before hlines hbefore hprints

/-- The greatest value, typed in groups of three digits, and printed behind the echo of the command
and in front of a description. -/
theorem spellings_read_back_greatest :
    ofTyped " 18_446_744_073_709_551_615\n" = .ok (BitVec.allOnes 64) ∧
      Debugger.valueIn?
        "(lldb) register read s3_0_c15_c0_0\ns3_0_c15_c0_0 = 0xffffffffffffffff (set)\n".toList
        "s3_0_c15_c0_0" = some (BitVec.allOnes 64) := by
  have hread := spellings_read_back (BitVec.allOnes 64)
  constructor
  · have htext : " 18_446_744_073_709_551_615\n" =
        String.ofList ([' '] ++ "18_446_744_073_709_551_615".toList ++ ['\n']) := by
      decide +kernel
    have hdecimal : Numeral.decimal (BitVec.allOnes 64).toNat = "18446744073709551615" := by
      decide +kernel
    have hgrouped : Text.Grouped "18446744073709551615".toList
        "18_446_744_073_709_551_615".toList := by
      simp only [String.reduceToList]
      repeat constructor
    have hspelling : "18446744073709551615" ∈ spellings (BitVec.allOnes 64) :=
      hdecimal ▸ List.mem_append_right _ List.mem_cons_self
    rw [htext]
    exact hread.typed _ hspelling _ _ _ (List.forall_mem_singleton.2 rfl)
      (List.forall_mem_singleton.2 rfl) hgrouped
  · have hname : (Encoding.truncating 3 0 15 0 0).canonical = "s3_0_c15_c0_0" := by
      decide +kernel
    have hprints : Debugger.Prints (.truncating 3 0 15 0 0) (BitVec.allOnes 64)
        "s3_0_c15_c0_0 = 0xffffffffffffffff (set)".toList :=
      ⟨compact _, List.mem_cons_of_mem _ List.mem_cons_self, ' ' :: "(set)".toList,
        by rintro c ⟨⟩; rfl, by decide +kernel⟩
    rw [← hname]
    exact hread.printedAmong _ _ _ ["(lldb) register read s3_0_c15_c0_0".toList] []
      (by decide +kernel) hprints (List.forall_mem_singleton.2 (by decide +kernel))

end Word
end SysReg
