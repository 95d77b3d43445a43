import SysReg.Proofs.Encoding.Spelling
import SysReg.Proofs.Text.Blank

/-!
# Which texts are encodings

Beside the canonical spelling an encoding has its call form, with any blanks around its numerals.
A text in either notation is recognised in any ASCII case and with any blanks around it, and nothing
else is (`ofNotation_exact`).  The two notations do not meet: what begins like a call has no digit
after its first letter.
-/

namespace SysReg.Encoding

variable {e : Encoding} {text : String}

/-! ## The call form -/

lemma callBody?_eq_some_iff {text body : List Char} :
    callBody? text = some body ↔ Text.trim text = callOpening ++ (body ++ [')']) := by
  unfold callBody?
  split
  · next rest hrest =>
    rw [Text.dropPrefix?_eq_some_iff.1 hrest, List.append_cancel_left_eq]
    constructor
    · intro h
      split at h
      · next hlast =>
        obtain ⟨front, rfl⟩ := List.getLast?_eq_some_iff.1 hlast
        rw [List.dropLast_concat] at h
        rw [Option.some.inj h]
      · cases h
    · rintro rfl
      rw [List.getLast?_concat, if_pos rfl, List.dropLast_concat]
  · next hnone =>
    refine iff_of_false nofun fun h => ?_
    rw [Text.dropPrefix?_eq_some_iff.2 h] at hnone
    cases hnone

/-- The pieces spell the components of the encoding, with blanks around them. -/
def CallPieces (e : Encoding) (pieces : List (List Char)) : Prop :=
  pieces.map Text.trim = e.parts.map (Nat.toDigits 10)

lemma CallPieces.comma_not_mem {pieces : List (List Char)} (h : e.CallPieces pieces)
    {piece : List Char} (hpiece : piece ∈ pieces) : ',' ∉ piece := by
  intro hcomma
  have hmem : Text.trim piece ∈ e.parts.map (Nat.toDigits 10) := h ▸ List.mem_map_of_mem hpiece
  obtain ⟨n, -, hn⟩ := List.mem_map.1 hmem
  rcases Text.isBlank_or_mem_trim hcomma with hblank | htrim
  · exact absurd hblank (by decide)
  · rw [← hn] at htrim
    exact Numeral.not_mem_decimal (by decide) htrim

lemma CallPieces.splitOn {pieces : List (List Char)} (h : e.CallPieces pieces) :
    ([','].intercalate pieces).splitOn ',' = pieces := by
  refine List.splitOn_intercalate ',' (fun _ => h.comma_not_mem) ?_
  rintro rfl
  cases h

/-- The call form is read exactly from five pieces that spell the components. -/
lemma ofCallForm_eq_ok_iff : ofCallForm text = .ok e ↔ e.isSystemRegister = true ∧
    ∃ pieces, e.CallPieces pieces ∧
      Text.trim text.toList = callOpening ++ ([','].intercalate pieces ++ [')']) := by
  unfold ofCallForm
  constructor
  · intro h
    split at h
    · cases h
    · next body hbody =>
      split at h
      · next op0 op1 crn crm op2 hsplit =>
        simp only [bind_eq_ok_iff] at h
        obtain ⟨v0, h0, v1, h1, v2, h2, v3, h3, v4, h4, hparts⟩ := h
        obtain ⟨c0, c1, c2, c3, c4⟩ := ofIntegers_eq_ok_iff.1 hparts
        refine ⟨isSystemRegister_of_ofIntegers hparts, body.splitOn ',', ?_, ?_⟩
        · rw [CallPieces, hsplit, eq_toDigits_of_readNumber h0 c0, eq_toDigits_of_readNumber h1 c1,
            eq_toDigits_of_readNumber h2 c2, eq_toDigits_of_readNumber h3 c3,
            eq_toDigits_of_readNumber h4 c4]
          rfl
        · rw [List.intercalate_splitOn, callBody?_eq_some_iff.1 hbody]
      · cases h
  · rintro ⟨hsystem, pieces, hpieces, htrim⟩
    have hmap : pieces.map Text.trim = [Nat.toDigits 10 e.op0, Nat.toDigits 10 e.op1,
        Nat.toDigits 10 e.crn, Nat.toDigits 10 e.crm, Nat.toDigits 10 e.op2] := hpieces
    rw [callBody?_eq_some_iff.2 htrim]
    simp only [hpieces.splitOn, hmap, readNumber_component .op0 e.op0,
      readNumber_component .op1 e.op1, readNumber_component .crn e.crn,
      readNumber_component .crm e.crm, readNumber_component .op2 e.op2]
    exact ofIntegers_components hsystem

/-! ## Either notation -/

/-- A text without outer blanks and ASCII capitals stands for the encoding. -/
def Denotes (e : Encoding) (text : String) : Prop :=
  text = e.canonical ∨ ∃ pieces, e.CallPieces pieces ∧
    text.toList = callOpening ++ ([','].intercalate pieces ++ [')'])

/-- A canonical spelling holds no bracket, so it is not taken for a call. -/
lemma isCallForm_canonical (e : Encoding) : isCallForm e.canonical = false := by
  rw [isCallForm, ← Bool.not_eq_true, Text.startsWith_iff]
  rintro ⟨rest, h⟩
  have hbracket : '(' ∈ e.canonical.toList := h ▸ List.mem_append_left rest (by decide)
  exact not_mem_canonical (by decide) (by decide) e hbracket

lemma noOuterBlank_normalized (text : String) : Text.NoOuterBlank (normalized text).toList := by
  rw [normalized, String.toList_ofList, Text.noOuterBlank_asciiLower_iff]
  exact Text.noOuterBlank_trim _

/-- Either notation is read exactly from the texts that stand for the encoding. -/
lemma ofNotation_eq_ok_iff : ofNotation text = .ok e ↔
    e.isSystemRegister = true ∧ e.Denotes (normalized text) := by
  have htrim := Text.trim_eq_self (noOuterBlank_normalized text)
  unfold ofNotation
  constructor
  · intro h
    split at h
    · obtain ⟨hsystem, pieces, hpieces, hcall⟩ := ofCallForm_eq_ok_iff.1 h
      exact ⟨hsystem, .inr ⟨pieces, hpieces, htrim ▸ hcall⟩⟩
    · obtain ⟨hsystem, hspelt⟩ := eq_canonical_of_ofCanonical h
      exact ⟨hsystem, .inl hspelt⟩
  · rintro ⟨hsystem, hspelt | ⟨pieces, hpieces, hcall⟩⟩
    · rw [hspelt, isCallForm_canonical, if_neg Bool.false_ne_true]
      exact ofCanonical_canonical hsystem
    · have hform : isCallForm (normalized text) = true := by
        rw [isCallForm, hcall, Text.startsWith_iff]
        exact List.prefix_append _ _
      rw [if_pos hform]
      exact ofCallForm_eq_ok_iff.2 ⟨hsystem, pieces, hpieces, htrim.trans hcall⟩

/-! ## Case and outer blanks -/

lemma callOpening_eq : callOpening = ['s', 'y', 's', '_', 'r', 'e', 'g', '('] := by
  decide

/-- Five numbers in call form, be they the components of an encoding or not. -/
def callText (op0 op1 crn crm op2 : Nat) : String :=
  "sys_reg(" ++ Numeral.decimal op0 ++ ", " ++ Numeral.decimal op1 ++ ", " ++ Numeral.decimal crn ++
    ", " ++ Numeral.decimal crm ++ ", " ++ Numeral.decimal op2 ++ ")"

lemma callForm_eq (e : Encoding) : e.callForm = callText e.op0 e.op1 e.crn e.crm e.op2 :=
  rfl

/-- The pieces that the commas of the call form separate. -/
def spacedNumerals (op0 op1 crn crm op2 : Nat) : List (List Char) :=
  [Nat.toDigits 10 op0, ' ' :: Nat.toDigits 10 op1, ' ' :: Nat.toDigits 10 crn,
    ' ' :: Nat.toDigits 10 crm, ' ' :: Nat.toDigits 10 op2]

lemma toList_callText (op0 op1 crn crm op2 : Nat) : (callText op0 op1 crn crm op2).toList =
    callOpening ++ ([','].intercalate (spacedNumerals op0 op1 crn crm op2) ++ [')']) := by
  unfold callText
  rw [callOpening_eq]
  simp [spacedNumerals, String.toList_append]

lemma trim_toDigits (n : Nat) : Text.trim (Nat.toDigits 10 n) = Nat.toDigits 10 n :=
  Text.trim_eq_self (Text.noOuterBlank_toDigits n)

lemma trim_blank_toDigits (n : Nat) : Text.trim (' ' :: Nat.toDigits 10 n) = Nat.toDigits 10 n := by
  have hblank : ∀ c ∈ [' '], Text.isBlank c = true := List.forall_mem_singleton.2 rfl
  simpa using @Text.trim_append_append _ _ [] hblank nofun (Text.noOuterBlank_toDigits n)

/-- Blanks around the pieces aside, these are the numerals alone. -/
lemma map_trim_spacedNumerals (op0 op1 crn crm op2 : Nat) :
    (spacedNumerals op0 op1 crn crm op2).map Text.trim =
      numerals (fun _ => none) op0 op1 crn crm op2 := by
  simp only [spacedNumerals, List.map_cons, List.map_nil, trim_toDigits, trim_blank_toDigits]
  rfl

lemma map_toLower_toDigits (n : Nat) :
    (Nat.toDigits 10 n).map Char.toLower = Nat.toDigits 10 n := by
  conv_rhs => rw [← List.map_id (Nat.toDigits 10 n)]
  refine List.map_congr_left fun c hc => ?_
  exact Text.toLower_of_isDigit (Numeral.isDigit_of_mem_decimal hc)

lemma asciiLower_canonical (e : Encoding) :
    Text.asciiLower e.canonical.toList = e.canonical.toList := by
  simp [Text.asciiLower, canonical, String.toList_append, map_toLower_toDigits]

lemma asciiLower_callForm (e : Encoding) :
    Text.asciiLower e.callForm.toList = e.callForm.toList := by
  rw [callForm_eq, toList_callText, callOpening_eq]
  simp [Text.asciiLower, spacedNumerals, map_toLower_toDigits]

lemma noOuterBlank_canonical (e : Encoding) : Text.NoOuterBlank e.canonical.toList := by
  have hends : e.canonical.toList = 's' :: (Nat.toDigits 10 e.op0 ++ '_' ::
      (Nat.toDigits 10 e.op1 ++ '_' :: 'c' :: (Nat.toDigits 10 e.crn ++ '_' :: 'c' ::
        (Nat.toDigits 10 e.crm ++ ['_']))) ++ Nat.toDigits 10 e.op2) := by
    simp [canonical, String.toList_append]
  rw [hends]
  refine Text.noOuterBlank_cons_append (by decide) _ Nat.toDigits_ne_nil fun c hc => ?_
  exact Text.isBlank_of_isDigit (Numeral.isDigit_of_mem_decimal hc)

/-- A call ends in its bracket and begins with its letter, so that it has no blanks to lose. -/
lemma noOuterBlank_call (body : List Char) :
    Text.NoOuterBlank (callOpening ++ (body ++ [')'])) := by
  rw [callOpening_eq, List.cons_append, ← List.append_assoc]
  exact Text.noOuterBlank_cons_append (by decide) _ (List.cons_ne_nil _ _)
    (List.forall_mem_singleton.2 rfl)

lemma noOuterBlank_callForm (e : Encoding) : Text.NoOuterBlank e.callForm.toList := by
  rw [callForm_eq, toList_callText]
  exact noOuterBlank_call _

lemma normalized_eq_of_disguises {spelling : String} (h : Text.Disguises text spelling)
    (hlower : Text.asciiLower spelling.toList = spelling.toList)
    (houter : Text.NoOuterBlank spelling.toList) : normalized text = spelling := by
  obtain ⟨before, inner, after, htext, hbefore, hafter, hcase⟩ := h
  have hinner : Text.NoOuterBlank inner := by
    rw [← Text.noOuterBlank_asciiLower_iff, hcase, hlower]
    exact houter
  rw [normalized, htext, Text.trim_append_append hbefore hafter hinner, hcase, hlower,
    String.ofList_toList]

/-- Both spellings stand for the encoding, in any ASCII case and with any blanks around them. -/
lemma denotes_of_disguises (h : Text.Disguises text e.canonical ∨ Text.Disguises text e.callForm) :
    e.Denotes (normalized text) := by
  rcases h with h | h
  · exact .inl (normalized_eq_of_disguises h e.asciiLower_canonical e.noOuterBlank_canonical)
  · rw [normalized_eq_of_disguises h e.asciiLower_callForm e.noOuterBlank_callForm]
    exact .inr ⟨_, map_trim_spacedNumerals _ _ _ _ _, toList_callText _ _ _ _ _⟩

/-- **The two notations are recognised, and nothing else.**  A text is read as an encoding exactly
if the encoding is that of a system register and the text, trimmed and in lower case, is its
canonical spelling or a call of its five numerals with blanks around them.  So both spellings of an
encoding are read as the encoding, whatever their case and the blanks around them. -/
theorem ofNotation_exact (text : String) (e : Encoding) :
    (ofNotation text = .ok e ↔ (e.op0 = 2 ∨ e.op0 = 3) ∧ e.Denotes (normalized text)) ∧
      ((e.op0 = 2 ∨ e.op0 = 3) → Text.Disguises text e.canonical ∨ Text.Disguises text e.callForm →
        ofNotation text = .ok e) := by
  rw [← isSystemRegister_iff]
  refine ⟨ofNotation_eq_ok_iff, fun hsystem hdisguises => ?_⟩
  exact ofNotation_eq_ok_iff.2 ⟨hsystem, denotes_of_disguises hdisguises⟩

/-- A call in capitals between a wide blank and the end of a line. -/
theorem ofNotation_capitals :
    (Encoding.truncating 3 7 15 7 4).op0 = 3 ∧
      Text.Disguises "\u2003SYS_REG(3, 7, 15, 7, 4)\n" (Encoding.truncating 3 7 15 7 4).callForm ∧
      ofNotation "\u2003SYS_REG(3, 7, 15, 7, 4)\n" = .ok (.truncating 3 7 15 7 4) := by
  have hdisguises : Text.Disguises "\u2003SYS_REG(3, 7, 15, 7, 4)\n"
      (Encoding.truncating 3 7 15 7 4).callForm :=
    ⟨['\u2003'], "SYS_REG(3, 7, 15, 7, 4)".toList, ['\n'], by decide,
      List.forall_mem_singleton.2 rfl, List.forall_mem_singleton.2 rfl, by decide⟩
  exact ⟨rfl, hdisguises, (ofNotation_exact _ _).2 (.inr rfl) (.inr hdisguises)⟩

end SysReg.Encoding
