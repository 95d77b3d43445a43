import Mathlib.Data.List.Chain
import SysReg.Proofs.Json.Token
import SysReg.Proofs.Text.Digits
import SysReg.Proofs.Text.Lines

/-!
# The grammar of tokens

What a token of a document looks like, without an automaton: brackets and marks, three words, numbers
with their optional parts, and strings as pieces between quotes.  Any blanks may stand between tokens
(`Lexes`).

The automaton cuts a text into the tokens that it spells, as long as no number and no word follows
another one directly (`tokens_of_lexes`), and wherever it comes to its end without a fault the text
spells what was cut from it (`lexes_tokens`).
-/

namespace SysReg.Json

/-! ## Numbers -/

/-- One decimal digit or more. -/
def Digits (cs : List Char) : Prop :=
  cs ≠ [] ∧ ∀ c ∈ cs, c.isDigit = true

/-- The digits before the fraction: no zero stands in front of another digit. -/
inductive Whole : List Char → Prop where
  | zero : Whole ['0']
  | digits {cs : List Char} (h : Digits cs) (hzero : cs.head? ≠ some '0') : Whole cs

/-- A fraction, or none. -/
inductive Fraction : List Char → Prop where
  | absent : Fraction []
  | digits {cs : List Char} (h : Digits cs) : Fraction ('.' :: cs)

/-- An exponent, with a sign or without one, or none. -/
inductive Exponent : List Char → Prop where
  | absent : Exponent []
  | digits {mark : Char} {sign cs : List Char} (hmark : mark ∈ ['e', 'E'])
      (hsign : sign ∈ [[], ['+'], ['-']]) (h : Digits cs) : Exponent (mark :: (sign ++ cs))

/-- A number: perhaps a minus sign, the whole part, and perhaps a fraction and an exponent. -/
inductive Number : List Char → Prop where
  | parts {sign whole fraction exponent : List Char} (hsign : sign ∈ [[], ['-']])
      (hwhole : Whole whole) (hfraction : Fraction fraction) (hexponent : Exponent exponent) :
      Number (sign ++ (whole ++ (fraction ++ exponent)))

lemma isDigits_iff {cs : List Char} : isDigits cs = true ↔ Digits cs := by
  rw [isDigits, Digits, Bool.and_eq_true, List.all_eq_true, Bool.not_eq_true',
    List.isEmpty_eq_false_iff]

lemma not_digits_cons {c : Char} {cs : List Char} (h : c.isDigit = false) : ¬Digits (c :: cs) :=
  fun hdigits => Bool.false_ne_true (h.symm.trans (hdigits.2 c List.mem_cons_self))

lemma isExponent_iff {cs : List Char} : isExponent cs = true ↔ Exponent cs := by
  constructor
  · intro h
    unfold isExponent at h
    split at h
    · exact .absent
    · next cs => exact @Exponent.digits 'e' ['+'] cs (by decide) (by decide) (isDigits_iff.1 h)
    · next cs => exact @Exponent.digits 'e' ['-'] cs (by decide) (by decide) (isDigits_iff.1 h)
    · next cs => exact @Exponent.digits 'E' ['+'] cs (by decide) (by decide) (isDigits_iff.1 h)
    · next cs => exact @Exponent.digits 'E' ['-'] cs (by decide) (by decide) (isDigits_iff.1 h)
    · next cs _ _ => exact @Exponent.digits 'e' [] cs (by decide) (by decide) (isDigits_iff.1 h)
    · next cs _ _ => exact @Exponent.digits 'E' [] cs (by decide) (by decide) (isDigits_iff.1 h)
    · exact absurd h Bool.false_ne_true
  · rintro (_ | ⟨hmark, hsign, hdigits⟩)
    · rfl
    · next mark sign cs =>
      -- Digits do not begin with a sign, so without one they are not mistaken for one.
      have hplus : ∀ rest, cs = '+' :: rest → False :=
        fun rest h => not_digits_cons (by decide) (h ▸ hdigits)
      have hminus : ∀ rest, cs = '-' :: rest → False :=
        fun rest h => not_digits_cons (by decide) (h ▸ hdigits)
      simp only [List.mem_cons, List.not_mem_nil, or_false] at hmark hsign
      have hread := isDigits_iff.2 hdigits
      rcases hmark with rfl | rfl <;> rcases hsign with rfl | rfl | rfl
      · exact (isExponent.eq_6 cs hplus hminus).trans hread
      · exact hread
      · exact hread
      · exact (isExponent.eq_7 cs hplus hminus).trans hread
      · exact hread
      · exact hread

/-- What stands behind the digits of a number is no digit. -/
lemma Exponent.head_not_digit {cs : List Char} (h : Exponent cs) :
    ∀ c ∈ cs.head?, c.isDigit = false := by
  cases h with
  | absent => nofun
  | digits hmark =>
    intro c hc
    obtain rfl := Option.some.inj hc
    simp only [List.mem_cons, List.not_mem_nil, or_false] at hmark
    rcases hmark with rfl | rfl <;> rfl

lemma isFraction_iff {cs : List Char} :
    isFraction cs = true ↔
      ∃ fraction exponent, Fraction fraction ∧ Exponent exponent ∧ cs = fraction ++ exponent := by
  constructor
  · intro h
    unfold isFraction at h
    split at h
    · next cs =>
      rw [Bool.and_eq_true, isDigits_iff, isExponent_iff] at h
      refine ⟨_, _, .digits h.1, h.2, ?_⟩
      rw [List.cons_append, List.takeWhile_append_dropWhile]
    · exact ⟨[], cs, .absent, isExponent_iff.1 h, rfl⟩
  · rintro ⟨fraction, exponent, hfraction, hexponent, rfl⟩
    cases hfraction with
    | absent =>
      have hdot : ∀ rest, exponent = '.' :: rest → False := by
        rintro rest rfl
        cases hexponent with
        | digits hmark => exact absurd hmark (by decide)
      exact (isFraction.eq_2 exponent hdot).trans (isExponent_iff.2 hexponent)
    | @digits digits hdigits =>
      obtain ⟨htake, hdrop⟩ :=
        Text.takeWhile_and_dropWhile_append hdigits.2 hexponent.head_not_digit
      rw [List.cons_append, isFraction, htake, hdrop, isDigits_iff.2 hdigits,
        isExponent_iff.2 hexponent, Bool.and_self]

lemma Fraction.head_not_digit {fraction exponent : List Char} (hfraction : Fraction fraction)
    (hexponent : Exponent exponent) : ∀ c ∈ (fraction ++ exponent).head?, c.isDigit = false := by
  cases hfraction with
  | absent => exact hexponent.head_not_digit
  | digits =>
    intro c hc
    obtain rfl := Option.some.inj hc
    rfl

lemma isMagnitude_iff {cs : List Char} :
    isMagnitude cs = true ↔ ∃ whole fraction exponent, Whole whole ∧ Fraction fraction ∧
      Exponent exponent ∧ cs = whole ++ (fraction ++ exponent) := by
  constructor
  · intro h
    unfold isMagnitude at h
    split at h
    · next cs =>
      obtain ⟨fraction, exponent, hfraction, hexponent, rfl⟩ := isFraction_iff.1 h
      exact ⟨['0'], fraction, exponent, .zero, hfraction, hexponent, rfl⟩
    · next hzero =>
      rw [Bool.and_eq_true, isDigits_iff, isFraction_iff] at h
      obtain ⟨hdigits, fraction, exponent, hfraction, hexponent, hrest⟩ := h
      refine ⟨_, fraction, exponent, .digits hdigits fun hhead => ?_, hfraction, hexponent, ?_⟩
      · obtain ⟨rest, htake⟩ := List.head?_eq_some_iff.1 hhead
        rw [← List.takeWhile_append_dropWhile (p := Char.isDigit) (l := cs), htake] at hzero
        exact hzero _ rfl
      · rw [← hrest, List.takeWhile_append_dropWhile]
  · rintro ⟨whole, fraction, exponent, hwhole, hfraction, hexponent, rfl⟩
    have hrest : isFraction (fraction ++ exponent) = true :=
      isFraction_iff.2 ⟨fraction, exponent, hfraction, hexponent, rfl⟩
    cases hwhole with
    | zero => exact hrest
    | digits hdigits hzero =>
      obtain ⟨htake, hdrop⟩ := Text.takeWhile_and_dropWhile_append hdigits.2
        (hfraction.head_not_digit hexponent)
      have hhead : ∀ rest, whole ++ (fraction ++ exponent) = '0' :: rest → False := by
        intro rest h
        obtain ⟨c, cs, rfl⟩ := List.exists_cons_of_ne_nil hdigits.1
        exact hzero (congrArg some (List.cons.inj h).1)
      rw [isMagnitude.eq_2 _ hhead, htake, hdrop, isDigits_iff.2 hdigits, hrest, Bool.and_self]

/-- The number characters that spell a number are those of the grammar. -/
lemma isNumber_iff {cs : List Char} : isNumber cs = true ↔ Number cs := by
  constructor
  · intro h
    unfold isNumber at h
    split at h
    · next cs =>
      obtain ⟨whole, fraction, exponent, hwhole, hfraction, hexponent, rfl⟩ := isMagnitude_iff.1 h
      exact @Number.parts ['-'] _ _ _ (by decide) hwhole hfraction hexponent
    · obtain ⟨whole, fraction, exponent, hwhole, hfraction, hexponent, rfl⟩ := isMagnitude_iff.1 h
      exact @Number.parts [] _ _ _ (by decide) hwhole hfraction hexponent
  · rintro ⟨hsign, hwhole, hfraction, hexponent⟩
    next sign whole fraction exponent =>
    have hmagnitude : isMagnitude (whole ++ (fraction ++ exponent)) = true :=
      isMagnitude_iff.2 ⟨whole, fraction, exponent, hwhole, hfraction, hexponent, rfl⟩
    have hminus : ∀ rest, whole ++ (fraction ++ exponent) = '-' :: rest → False := by
      intro rest h
      cases hwhole with
      | zero => exact absurd (List.cons.inj h).1 (by decide)
      | digits hdigits =>
        obtain ⟨c, cs, rfl⟩ := List.exists_cons_of_ne_nil hdigits.1
        exact not_digits_cons (by decide) ((List.cons.inj h).1 ▸ hdigits)
    simp only [List.mem_cons, List.not_mem_nil, or_false] at hsign
    rcases hsign with rfl | rfl
    · exact (isNumber.eq_2 _ hminus).trans hmagnitude
    · exact hmagnitude

lemma isNumberChar_of_isDigit {c : Char} (h : c.isDigit = true) : isNumberChar c = true := by
  simp only [isNumberChar, h, Bool.true_or]

namespace Number

variable {cs : List Char}

lemma isNumberChar (h : Number cs) : ∀ c ∈ cs, isNumberChar c = true := by
  have hdigits {cs : List Char} (h : Digits cs) : ∀ c ∈ cs, Json.isNumberChar c = true :=
    fun c hc => isNumberChar_of_isDigit (h.2 c hc)
  obtain ⟨hsign, hwhole, hfraction, hexponent⟩ := h
  simp only [List.forall_mem_append]
  refine ⟨?_, ?_, ?_, ?_⟩
  · simp only [List.mem_cons, List.not_mem_nil, or_false] at hsign
    rcases hsign with rfl | rfl
    · exact List.forall_mem_nil _
    · exact List.forall_mem_singleton.2 rfl
  · cases hwhole with
    | zero => exact List.forall_mem_singleton.2 rfl
    | digits h => exact hdigits h
  · cases hfraction with
    | absent => nofun
    | digits h => exact List.forall_mem_cons.2 ⟨by decide, hdigits h⟩
  · cases hexponent with
    | absent => nofun
    | digits hmark hsign h =>
      simp only [List.mem_cons, List.not_mem_nil, or_false] at hmark hsign
      simp only [List.forall_mem_cons, List.forall_mem_append]
      refine ⟨?_, ?_, hdigits h⟩
      · rcases hmark with rfl | rfl <;> rfl
      · rcases hsign with rfl | rfl | rfl
        · exact List.forall_mem_nil _
        · exact List.forall_mem_singleton.2 rfl
        · exact List.forall_mem_singleton.2 rfl

/-- The first character of a number opens a run of number characters. -/
lemma exists_startToken (h : Number cs) :
    ∃ c rest, cs = c :: rest ∧ startToken c = (none, some (.number [c])) := by
  obtain ⟨hsign, hwhole, hfraction, hexponent⟩ := h
  simp only [List.mem_cons, List.not_mem_nil, or_false] at hsign
  rcases hsign with rfl | rfl
  · cases hwhole with
    | zero => exact ⟨_, _, rfl, rfl⟩
    | digits hdigits =>
      obtain ⟨c, rest, rfl⟩ := List.exists_cons_of_ne_nil hdigits.1
      exact ⟨c, _, rfl, startToken_digit (hdigits.2 c List.mem_cons_self)⟩
  · exact ⟨_, _, rfl, rfl⟩

end Number

/-! ## Strings -/

/-- The pieces of a string between its quotes, with what they make of its content: characters, letters
behind a backslash, and code units in four hexadecimal digits of either case. -/
inductive StringBody : Content → List Char → Prop where
  | empty : StringBody .empty []
  | plain {content : Content} {body : List Char} {c : Char} (h : StringBody content body)
      (hquote : c ≠ '"') (hbackslash : c ≠ '\\') (hcontrol : 32 ≤ c.toNat) :
      StringBody (content.push c) (body ++ [c])
  | short {content : Content} {body : List Char} {letter c : Char} (h : StringBody content body)
      (hletter : escaped? letter = some c) : StringBody (content.push c) (body ++ ['\\', letter])
  | unit {content : Content} {body digits : List Char} {n : Nat} (h : StringBody content body)
      (hlength : digits.length = 4) (hvalue : Numeral.Denotes 16 digits n) :
      StringBody (content.pushUnit n) (body ++ '\\' :: 'u' :: digits)

/-- Digits of an escape, of which as many are met as are missing. -/
lemma lexFrom_digits {content : Content} {digits : List Char} {values : List Nat}
    (hvalues : Numeral.Values 16 digits values) (hne : digits ≠ []) (value : Nat)
    (rest : List Char) :
    lexFrom (.digits content digits.length value) (digits ++ rest) =
      lexFrom (.string (content.pushUnit (Numeral.continued 16 value values))) rest := by
  induction hvalues generalizing value with
  | nil => exact absurd rfl hne
  | @cons c d cs ds hd hrest ih =>
    rw [List.cons_append, lexFrom, digitStep, hd.1]
    cases hrest with
    | nil => rfl
    | cons => exact ih (List.cons_ne_nil _ _) (16 * value + d)

/-- The automaton reads the pieces of a string one after the other. -/
lemma lexFrom_body {content : Content} {body : List Char} (h : StringBody content body)
    (rest : List Char) :
    lexFrom (.string .empty) (body ++ rest) = lexFrom (.string content) rest := by
  induction h generalizing rest with
  | empty => rfl
  | plain _ hquote hbackslash hcontrol ih =>
    rw [List.append_assoc, ih, List.singleton_append, lexFrom, if_neg hquote, stringStep,
      if_neg hbackslash, if_neg (Nat.not_lt.2 hcontrol)]
  | @short content body letter c _ hletter ih =>
    have hunit : letter ≠ 'u' := by
      rintro rfl
      cases hletter
    rw [List.append_assoc, ih]
    change lexFrom (.string content) ('\\' :: letter :: rest) = _
    rw [lexFrom, if_neg (by decide), stringStep, if_pos rfl]
    simp only
    rw [lexFrom, escapeStep, if_neg hunit, hletter]
    rfl
  | @unit content body digits n _ hlength hvalue ih =>
    obtain ⟨hne, values, hvalues, rfl⟩ := hvalue
    rw [List.append_assoc, ih]
    change lexFrom (.string content) ('\\' :: 'u' :: (digits ++ rest)) = _
    rw [lexFrom, if_neg (by decide), stringStep, if_pos rfl]
    simp only
    rw [lexFrom, escapeStep, if_pos rfl]
    simp only
    rw [← Numeral.continued_zero, ← hlength]
    exact lexFrom_digits hvalues hne 0 rest

/-! ## Tokens -/

/-- The texts that spell a token. -/
inductive Lexeme : Token → List Char → Prop where
  | openArray : Lexeme .openArray ['[']
  | closeArray : Lexeme .closeArray [']']
  | openObject : Lexeme .openObject ['\x7b']
  | closeObject : Lexeme .closeObject ['\x7d']
  | comma : Lexeme .comma [',']
  | colon : Lexeme .colon [':']
  | null : Lexeme .null ['n', 'u', 'l', 'l']
  | true : Lexeme (.bool true) ['t', 'r', 'u', 'e']
  | false : Lexeme (.bool false) ['f', 'a', 'l', 's', 'e']
  | number {literal : List Char} (h : Number literal) : Lexeme (.number literal) literal
  | string {content : Content} {body : List Char} (h : StringBody content body) :
      Lexeme (.string content.finish) ('"' :: (body ++ ['"']))

/-- The texts that spell tokens one after the other, with any blanks around them. -/
inductive Lexes : List Token → List Char → Prop where
  | done : Lexes [] []
  | blank {ts : List Token} {c : Char} {text : List Char} (h : c ∈ [' ', '\n', '\t', '\r'])
      (hrest : Lexes ts text) : Lexes ts (c :: text)
  | token {token : Token} {ts : List Token} {lexeme text : List Char} (h : Lexeme token lexeme)
      (hrest : Lexes ts text) : Lexes (token :: ts) (lexeme ++ text)

/-- The token is a word or a number, whose end is not to be seen from its last character. -/
def Token.isBare : Token → Bool
  | null | bool _ | number _ => true
  | _ => false

/-- No word and no number follows another one directly. -/
def Separated (ts : List Token) : Prop :=
  ts.IsChain fun a b => ¬(a.isBare = true ∧ b.isBare = true)

variable {token : Token} {ts : List Token} {lexeme text : List Char}

lemma startToken_blank {c : Char} (h : c ∈ [' ', '\n', '\t', '\r']) :
    startToken c = (none, some .start) := by
  simp only [List.mem_cons, List.not_mem_nil, or_false] at h
  rcases h with rfl | rfl | rfl | rfl <;> rfl

/-- Where no word and no number follows, the one before has ended. -/
lemma Lexes.endsToken (h : Lexes ts text) (hhead : ∀ t ∈ ts.head?, t.isBare = false) :
    EndsToken text := by
  cases h with
  | done => exact endsToken_nil
  | blank h =>
    refine endsToken_cons ?_ _
    simp only [List.mem_cons, List.not_mem_nil, or_false] at h
    rcases h with rfl | rfl | rfl | rfl <;> decide
  | token h =>
    have hbare := hhead _ rfl
    cases h with
    | openArray | closeArray | openObject | closeObject | comma | colon | string =>
      exact endsToken_cons (by decide) _
    | null | true | false | number => exact absurd hbare.symm Bool.false_ne_true

lemma tokens_lexeme (h : Lexeme token lexeme) (hend : token.isBare = true → EndsToken text) :
    tokens (lexeme ++ text) = token :: tokens text := by
  cases h with
  | openArray | closeArray | openObject | closeObject | comma | colon =>
    exact tokens_single _ rfl text
  | null | true | false => exact tokens_word rfl (by decide) (by decide) (hend rfl)
  | number h =>
    obtain ⟨c, rest, rfl, hstart⟩ := h.exists_startToken
    have hrest : ∀ d ∈ rest, isNumberChar d = true :=
      (List.forall_mem_cons.1 h.isNumberChar).2
    rw [List.cons_append, tokens_cons, lexFrom.between, hstart]
    simp only [Option.toList_none, List.nil_append]
    rw [lexFrom_number hrest (hend rfl), List.reverse_singleton, List.singleton_append,
      numberToken, if_pos (isNumber_iff.2 h)]
  | @string content body h =>
    have hopen : startToken '"' = (none, some (.string .empty)) := rfl
    rw [List.cons_append, tokens_cons, lexFrom.between, hopen, List.append_assoc]
    simp only [Option.toList_none, List.nil_append]
    rw [lexFrom_body h, List.singleton_append, lexFrom, if_pos rfl, tokens]

/-- A text is cut into the tokens that it spells. -/
theorem tokens_of_lexes (h : Lexes ts text) (hseparated : Separated ts) : tokens text = ts := by
  induction h with
  | done => rw [tokens, lexFrom]
  | blank h _ ih => rw [tokens_blank (startToken_blank h), ih hseparated]
  | @token token ts lexeme text h hrest ih =>
    rw [tokens_lexeme h fun hbare => hrest.endsToken fun t ht => ?_, ih hseparated.tail]
    obtain ⟨rest, rfl⟩ := List.head?_eq_some_iff.1 ht
    rw [Separated, List.isChain_cons_cons] at hseparated
    exact Bool.eq_false_iff.2 fun hnext => hseparated.1 ⟨hbare, hnext⟩

/-! ## What the automaton has met -/

/-- The text of the token at hand, up to the place where the automaton stands. -/
inductive Met : LexState → List Char → Prop where
  | start : Met .start []
  | word (reversed : List Char) : Met (.word reversed) reversed.reverse
  | number (reversed : List Char) : Met (.number reversed) reversed.reverse
  | string {content : Content} {body : List Char} (h : StringBody content body) :
      Met (.string content) ('"' :: body)
  | escape {content : Content} {body : List Char} (h : StringBody content body) :
      Met (.escape content) ('"' :: (body ++ ['\\']))
  | digits {content : Content} {body digits : List Char} {values : List Nat} {missing : Nat}
      (h : StringBody content body) (hvalues : Numeral.Values 16 digits values)
      (hmissing : 0 < missing) (hlength : digits.length + missing = 4) :
      Met (.digits content missing (Numeral.continued 16 0 values))
        ('"' :: (body ++ '\\' :: 'u' :: digits))

/-- What a character between tokens is. -/
lemma startToken_cases (c : Char) :
    (c ∈ [' ', '\n', '\t', '\r'] ∧ startToken c = (none, some .start)) ∨
    (∃ token, Lexeme token [c] ∧ startToken c = (some token, some .start)) ∨
    (∃ state, Met state [c] ∧ startToken c = (none, some state)) ∨
    startToken c = (some .fault, none) := by
  unfold startToken
  split
  case h_1 | h_2 | h_3 | h_4 => exact .inl ⟨by decide, rfl⟩
  case h_5 => exact .inr (.inl ⟨_, .openArray, rfl⟩)
  case h_6 => exact .inr (.inl ⟨_, .closeArray, rfl⟩)
  case h_7 => exact .inr (.inl ⟨_, .openObject, rfl⟩)
  case h_8 => exact .inr (.inl ⟨_, .closeObject, rfl⟩)
  case h_9 => exact .inr (.inl ⟨_, .comma, rfl⟩)
  case h_10 => exact .inr (.inl ⟨_, .colon, rfl⟩)
  case h_11 => exact .inr (.inr (.inl ⟨_, .string .empty, rfl⟩))
  case h_12 =>
    split_ifs
    · exact .inr (.inr (.inl ⟨_, .number [c], rfl⟩))
    · exact .inr (.inr (.inl ⟨_, .word [c], rfl⟩))
    · exact .inr (.inr (.inr rfl))

lemma lexeme_wordToken {word : List Char} (h : wordToken word ≠ .fault) :
    Lexeme (wordToken word) word := by
  revert h
  rw [wordToken]
  split_ifs with hnull htrue hfalse
  · exact fun _ => hnull ▸ .null
  · exact fun _ => htrue ▸ .true
  · exact fun _ => hfalse ▸ .false
  · exact fun h => absurd rfl h

lemma lexeme_numberToken {literal : List Char} (h : numberToken literal ≠ .fault) :
    Lexeme (numberToken literal) literal := by
  revert h
  rw [numberToken]
  split_ifs with hnumber
  · exact fun _ => .number (isNumber_iff.1 hnumber)
  · exact fun h => absurd rfl h

/-- A string goes on with a character, unless it ends or the automaton stops there. -/
lemma Met.stringStep {content : Content} {met : List Char} {c : Char} {state : LexState}
    (h : Met (.string content) met) (hquote : c ≠ '"')
    (hstep : stringStep content c = some state) : Met state (met ++ [c]) := by
  cases h with
  | string h =>
    rw [Json.stringStep] at hstep
    split_ifs at hstep with hbackslash hcontrol
    · cases hstep
      exact hbackslash ▸ .escape h
    · cases hstep
      exact .string (.plain h hquote hbackslash (Nat.le_of_not_lt hcontrol))

lemma Met.escapeStep {content : Content} {met : List Char} {c : Char} {state : LexState}
    (h : Met (.escape content) met) (hstep : escapeStep content c = some state) :
    Met state (met ++ [c]) := by
  cases h with
  | @escape _ body h =>
    rw [Json.escapeStep] at hstep
    split_ifs at hstep with hunit
    · cases hstep
      subst hunit
      rw [List.cons_append, List.append_assoc]
      exact .digits h .nil (by decide) rfl
    · obtain ⟨e, he, rfl⟩ := Option.map_eq_some_iff.1 hstep
      rw [List.cons_append, List.append_assoc]
      exact .string (.short h he)

lemma Met.digitStep {content : Content} {missing value : Nat} {met : List Char} {c : Char}
    {state : LexState} (h : Met (.digits content missing value) met)
    (hstep : digitStep content missing value c = some state) : Met state (met ++ [c]) := by
  cases h with
  | @digits _ body digits values _ h hvalues hmissing hlength =>
    obtain ⟨d, hd, rfl⟩ := Option.map_eq_some_iff.1 hstep
    have hnext : Numeral.Values 16 (digits ++ [c]) (values ++ [d]) :=
      List.rel_append hvalues (.cons ⟨hd, Numeral.digitValue?_lt hd⟩ .nil)
    have hvalue : 16 * Numeral.continued 16 0 values + d =
        Numeral.continued 16 0 (values ++ [d]) := by
      rw [Numeral.continued, Numeral.continued, List.foldl_append]
      rfl
    have hmet : '"' :: (body ++ '\\' :: 'u' :: digits) ++ [c] =
        '"' :: (body ++ '\\' :: 'u' :: (digits ++ [c])) := by
      simp only [List.cons_append, List.append_assoc]
    rw [hmet, hvalue]
    split_ifs with hlast
    · refine .string (.unit h ?_ ⟨List.append_ne_nil_of_right_ne_nil _ (List.cons_ne_nil _ _),
        _, hnext, Numeral.continued_zero _ _⟩)
      rw [List.length_append, List.length_singleton]
      omega
    · refine .digits h hnext (by omega) ?_
      rw [List.length_append, List.length_singleton]
      omega

section Character

variable {c : Char} {cs met : List Char}
  (ih : ∀ state met, Met state met → .fault ∉ lexFrom state cs →
    Lexes (lexFrom state cs) (met ++ cs))

include ih

/-- A character between tokens: its token is spelled as it stands, if what follows it is. -/
lemma lexes_between (h : .fault ∉ lexFrom.between c cs) :
    Lexes (lexFrom.between c cs) (c :: cs) := by
  rw [lexFrom.between] at h ⊢
  rcases startToken_cases c with ⟨hblank, hstart⟩ | ⟨token, hlexeme, hstart⟩ |
    ⟨state, hmet, hstart⟩ | hstart <;> rw [hstart] at h ⊢
  · exact .blank hblank (ih .start [] .start h)
  · exact .token hlexeme (ih .start [] .start fun hmem => h (List.mem_cons_of_mem _ hmem))
  · exact ih state [c] hmet h
  · exact absurd List.mem_cons_self h

/-- A character that ends a token and stands between tokens itself. -/
lemma lexes_end (h : .fault ∉ token :: lexFrom.between c cs)
    (hlexeme : token ≠ .fault → Lexeme token met) :
    Lexes (token :: lexFrom.between c cs) (met ++ c :: cs) := by
  rw [List.mem_cons, not_or] at h
  exact .token (hlexeme (Ne.symm h.1)) (lexes_between ih h.2)

/-- A character with which a token goes on, if the token can hold it. -/
lemma lexes_continue {next : Option LexState}
    (hts : ts = match next with
      | some state => lexFrom state cs
      | none => [.fault])
    (h : .fault ∉ ts) (hnext : ∀ state, next = some state → Met state (met ++ [c])) :
    Lexes ts (met ++ c :: cs) := by
  subst hts
  cases next with
  | none => exact absurd List.mem_cons_self h
  | some state =>
    rw [List.append_cons]
    exact ih state _ (hnext state rfl) h

end Character

/-- Where the automaton comes to the end without a fault, the text spells the tokens, together with
what was met before. -/
lemma lexes_lexFrom {state : LexState} {met : List Char} (hmet : Met state met)
    (h : .fault ∉ lexFrom state text) : Lexes (lexFrom state text) (met ++ text) := by
  induction text generalizing state met with
  | nil =>
    cases hmet with
    | start => exact lexFrom.eq_1 ▸ .done
    | word reversed =>
      rw [lexFrom, List.mem_singleton] at h
      rw [lexFrom]
      exact .token (lexeme_wordToken (Ne.symm h)) .done
    | number reversed =>
      rw [lexFrom, List.mem_singleton] at h
      rw [lexFrom]
      exact .token (lexeme_numberToken (Ne.symm h)) .done
    | string | escape | digits =>
      rw [lexFrom] at h
      exact absurd List.mem_cons_self h
  | cons c cs ih =>
    replace ih := fun state met => @ih state met
    cases state with
    | start =>
      cases hmet
      rw [lexFrom] at h ⊢
      exact lexes_between ih h
    | word reversed =>
      cases hmet
      rw [lexFrom] at h ⊢
      split_ifs at h ⊢ with hlower
      · rw [List.append_cons, ← List.reverse_cons]
        exact ih _ _ (.word _) h
      · exact lexes_end ih h lexeme_wordToken
    | number reversed =>
      cases hmet
      rw [lexFrom] at h ⊢
      split_ifs at h ⊢ with hnumber
      · rw [List.append_cons, ← List.reverse_cons]
        exact ih _ _ (.number _) h
      · exact lexes_end ih h lexeme_numberToken
    | string content =>
      rw [lexFrom] at h ⊢
      split_ifs at h ⊢ with hquote
      · cases hmet with
        | string hbody =>
          rw [List.mem_cons, not_or] at h
          subst hquote
          rw [List.append_cons]
          exact .token (.string hbody) (ih _ _ .start h.2)
      · exact lexes_continue ih rfl h fun state => hmet.stringStep hquote
    | escape content =>
      rw [lexFrom] at h ⊢
      exact lexes_continue ih rfl h fun state => hmet.escapeStep
    | digits content missing value =>
      rw [lexFrom] at h ⊢
      exact lexes_continue ih rfl h fun state => hmet.digitStep

/-- A text without a fault spells the tokens into which it is cut. -/
theorem lexes_tokens (h : .fault ∉ tokens text) : Lexes (tokens text) text :=
  lexes_lexFrom .start h

end SysReg.Json
