import Mathlib.Data.List.TakeWhile
import Mathlib.Tactic.SplitIfs
import SysReg.Json.Token
import SysReg.Json.Value
import SysReg.Proofs.Text.Numeral

/-!
# Tokens of a written document

`tokens_layout` cuts the text of a value, laid out at any level, into the tokens that the value
spells, whatever follows it.  What follows must not go on with a number or a word, which
`EndsToken` says; the layout itself only ever puts commas, brackets and line ends behind a value.

A string is the one piece whose characters change on the way: `lexFrom_escape` reads one escaped
character, of any code point, and the string is an induction over its characters.
-/

namespace SysReg.Json

/-! ## The tokens of a value -/

mutual

/-- The tokens of a value. -/
def spelling : Json → List Token
  | null => [.null]
  | bool b => [.bool b]
  | number n => [.number (Nat.toDigits 10 n)]
  | string s => [.string (some s.toList)]
  | array [] => [.openArray, .closeArray]
  | array (item :: items) =>
    .openArray :: (spelling item ++ (spellingItems items ++ [.closeArray]))
  | object [] => [.openObject, .closeObject]
  | object ((key, value) :: members) =>
    .openObject :: .string (some key.toList) :: .colon ::
      (spelling value ++ (spellingMembers members ++ [.closeObject]))

/-- The tokens of the elements of an array after its first. -/
def spellingItems : List Json → List Token
  | [] => []
  | item :: items => .comma :: (spelling item ++ spellingItems items)

/-- The tokens of the members of an object after its first. -/
def spellingMembers : List (String × Json) → List Token
  | [] => []
  | (key, value) :: members =>
    .comma :: .string (some key.toList) :: .colon :: (spelling value ++ spellingMembers members)

end

/-! ## Between tokens -/

/-- Neither a number nor a word goes on with the text. -/
def EndsToken (rest : List Char) : Prop :=
  ∀ c ∈ rest.head?, isNumberChar c = false ∧ c.isLower = false

lemma endsToken_nil : EndsToken [] := by
  intro c hc
  cases hc

lemma endsToken_cons {c : Char} (h : isNumberChar c = false ∧ c.isLower = false) (cs : List Char) :
    EndsToken (c :: cs) := by
  intro a ha
  rw [List.head?_cons, Option.mem_some_iff] at ha
  exact ha ▸ h

lemma endsToken_newline (level : Nat) (rest : List Char) : EndsToken (newline level ++ rest) :=
  endsToken_cons (by decide) _

lemma tokens_cons (c : Char) (cs : List Char) : tokens (c :: cs) = lexFrom.between c cs := by
  rw [tokens, lexFrom]

/-- A character that is a token by itself. -/
lemma tokens_single {c : Char} (token : Token) (h : startToken c = (some token, some .start))
    (cs : List Char) : tokens (c :: cs) = token :: tokens cs := by
  rw [tokens_cons, lexFrom.between, h]
  rfl

lemma tokens_blank {c : Char} (h : startToken c = (none, some .start)) (cs : List Char) :
    tokens (c :: cs) = tokens cs := by
  rw [tokens_cons, lexFrom.between, h]
  rfl

lemma tokens_newline (level : Nat) (rest : List Char) :
    tokens (newline level ++ rest) = tokens rest := by
  have hspaces : ∀ k, tokens (List.replicate k ' ' ++ rest) = tokens rest := by
    intro k
    induction k with
    | zero => rfl
    | succ k ih =>
      rw [List.replicate_succ, List.cons_append, tokens_blank rfl, ih]
  rw [newline, List.cons_append, tokens_blank rfl, hspaces]

/-! ## Numbers -/

lemma startToken_digit {c : Char} (h : c.isDigit = true) :
    startToken c = (none, some (.number [c])) := by
  unfold startToken
  split
  all_goals first | exact absurd h (by decide) | rw [h, Bool.true_or, if_pos rfl]

/-- A run of number characters, in which the reversed part was met already. -/
lemma lexFrom_number {reversed ds rest : List Char} (hd : ∀ c ∈ ds, isNumberChar c = true)
    (hrest : EndsToken rest) :
    lexFrom (.number reversed) (ds ++ rest) =
      numberToken (reversed.reverse ++ ds) :: tokens rest := by
  induction ds generalizing reversed with
  | nil =>
    cases rest with
    | nil => simp [lexFrom, tokens]
    | cons c cs =>
      have hc : isNumberChar c = false := (hrest c rfl).1
      simp [lexFrom, hc, tokens_cons]
  | cons d ds ih =>
    have hhead : isNumberChar d = true := hd d List.mem_cons_self
    rw [List.cons_append, lexFrom, if_pos hhead, ih fun c hc => hd c (List.mem_cons_of_mem _ hc)]
    simp

lemma isNumber_toDigits (n : Nat) : isNumber (Nat.toDigits 10 n) = true := by
  rcases Nat.eq_zero_or_pos n with rfl | hn
  · decide
  · have hd : ∀ c ∈ Nat.toDigits 10 n, c.isDigit = true := fun _ => Numeral.isDigit_of_mem_decimal
    have hzero := Numeral.head?_toDigits_ne_zero (b := 10) (by decide) (by decide) hn
    have htake : (Nat.toDigits 10 n).takeWhile Char.isDigit = Nat.toDigits 10 n :=
      List.takeWhile_eq_self_iff.2 hd
    have hdrop : (Nat.toDigits 10 n).dropWhile Char.isDigit = [] :=
      List.dropWhile_eq_nil_iff.2 hd
    have hminus : '-' ∉ Nat.toDigits 10 n := Numeral.not_mem_decimal (by decide)
    have hall : isDigits (Nat.toDigits 10 n) = true := by
      simpa [isDigits] using hd
    generalize Nat.toDigits 10 n = ds at hzero htake hdrop hminus hall
    unfold isNumber
    split
    · exact absurd List.mem_cons_self hminus
    · unfold isMagnitude
      split
      · exact absurd rfl hzero
      · rw [htake, hdrop, hall]
        rfl

lemma tokens_number (n : Nat) {rest : List Char} (hrest : EndsToken rest) :
    tokens (Nat.toDigits 10 n ++ rest) = .number (Nat.toDigits 10 n) :: tokens rest := by
  have hd : ∀ c ∈ Nat.toDigits 10 n, c.isDigit = true := fun _ => Numeral.isDigit_of_mem_decimal
  have htoken : numberToken (Nat.toDigits 10 n) = .number (Nat.toDigits 10 n) := by
    rw [numberToken, if_pos (isNumber_toDigits n)]
  obtain ⟨d, ds, hds⟩ := List.exists_cons_of_ne_nil (Nat.toDigits_ne_nil (n := n) (b := 10))
  rw [hds] at hd htoken ⊢
  have hnumber : ∀ c ∈ ds, isNumberChar c = true := by
    intro c hc
    simp [isNumberChar, hd c (List.mem_cons_of_mem _ hc)]
  rw [List.cons_append, tokens_cons, lexFrom.between, startToken_digit (hd d List.mem_cons_self)]
  simp only [Option.toList_none, List.nil_append]
  rw [lexFrom_number hnumber hrest]
  simp [htoken]

/-! ## Words -/

lemma lexFrom_word {reversed cs rest : List Char} (hl : ∀ c ∈ cs, c.isLower = true)
    (hrest : EndsToken rest) :
    lexFrom (.word reversed) (cs ++ rest) = wordToken (reversed.reverse ++ cs) :: tokens rest := by
  induction cs generalizing reversed with
  | nil =>
    cases rest with
    | nil => simp [lexFrom, tokens]
    | cons c cs =>
      have hc : c.isLower = false := (hrest c rfl).2
      simp [lexFrom, hc, tokens_cons]
  | cons d ds ih =>
    have hhead : d.isLower = true := hl d List.mem_cons_self
    rw [List.cons_append, lexFrom, if_pos hhead, ih fun c hc => hl c (List.mem_cons_of_mem _ hc)]
    simp

/-- A word is one token if its first letter opens a word and the others are letters. -/
lemma tokens_word {c : Char} {cs rest : List Char} {token : Token}
    (hstart : startToken c = (none, some (.word [c]))) (hl : cs.all Char.isLower = true)
    (hword : wordToken (c :: cs) = token) (hrest : EndsToken rest) :
    tokens (c :: cs ++ rest) = token :: tokens rest := by
  rw [List.cons_append, tokens_cons, lexFrom.between, hstart]
  simp only [Option.toList_none, List.nil_append]
  rw [lexFrom_word (List.all_eq_true.1 hl) hrest, List.reverse_singleton, List.singleton_append,
    hword]

/-! ## Strings -/

/-- A control character is escaped by its code in four hexadecimal digits. -/
lemma lexFrom_control {c : Char} (hc : c.toNat < 32) (acc rest : List Char) :
    lexFrom (.string ⟨some acc, none⟩)
        (['\\', 'u', '0', '0', Nat.digitChar (c.toNat / 16), Nat.digitChar (c.toNat % 16)] ++
          rest) =
      lexFrom (.string ⟨some (c :: acc), none⟩) rest := by
  have hzero : Numeral.digitValue? '0' = some 0 := by decide
  have hhigh := Numeral.digitValue?_digitChar (by omega : c.toNat / 16 < 16)
  have hlow := Numeral.digitValue?_digitChar (by omega : c.toNat % 16 < 16)
  have hcode : 16 * (c.toNat / 16) + c.toNat % 16 = c.toNat := by omega
  have hunit : (⟨some acc, none⟩ : Content).pushUnit c.toNat = ⟨some (c :: acc), none⟩ := by
    simp only [Content.pushUnit]
    rw [if_neg (by omega), if_neg (by omega)]
    simp [Char.ofNat_toNat]
  simp [lexFrom, stringStep, escapeStep, digitStep, hzero, hhigh, hlow, hcode, hunit]

/-- A letter after a backslash stands for a character. -/
lemma lexFrom_short {c letter : Char} (h : escaped? letter = some c) (acc rest : List Char) :
    lexFrom (.string ⟨some acc, none⟩) (['\\', letter] ++ rest) =
      lexFrom (.string ⟨some (c :: acc), none⟩) rest := by
  have hu : letter ≠ 'u' := by
    rintro rfl
    cases h
  simp [lexFrom, stringStep, escapeStep, hu, h, Content.push]

/-- One character of a string is read back from the way in which it is escaped. -/
lemma lexFrom_escape (c : Char) (acc rest : List Char) :
    lexFrom (.string ⟨some acc, none⟩) (escape c ++ rest) =
      lexFrom (.string ⟨some (c :: acc), none⟩) rest := by
  unfold escape
  split_ifs with h1 h2 h3 h4 h5 h6 h7 hcontrol
  · exact lexFrom_short (by rw [h1]; rfl) acc rest
  · exact lexFrom_short (by rw [h2]; rfl) acc rest
  · exact lexFrom_short (by rw [h3]; rfl) acc rest
  · exact lexFrom_short (by rw [h4]; rfl) acc rest
  · exact lexFrom_short (by rw [h5]; rfl) acc rest
  · exact lexFrom_short (by rw [h6]; rfl) acc rest
  · exact lexFrom_short (by rw [h7]; rfl) acc rest
  · exact lexFrom_control hcontrol acc rest
  · simp [lexFrom, stringStep, Content.push, h1, h2, hcontrol]

lemma lexFrom_escaped (cs acc rest : List Char) :
    lexFrom (.string ⟨some acc, none⟩) (cs.flatMap escape ++ rest) =
      lexFrom (.string ⟨some (cs.reverse ++ acc), none⟩) rest := by
  induction cs generalizing acc with
  | nil => rfl
  | cons c cs ih =>
    rw [List.flatMap_cons, List.append_assoc, lexFrom_escape, ih]
    simp

/-- A text in quotes is one token with the text as its content. -/
lemma tokens_quote (cs rest : List Char) :
    tokens (quote cs ++ rest) = .string (some cs) :: tokens rest := by
  have hopen : startToken '"' = (none, some (.string .empty)) := rfl
  rw [quote, List.cons_append, List.cons_append, tokens_cons, lexFrom.between, hopen,
    List.append_assoc]
  simp only [Option.toList_none, List.nil_append, Content.empty]
  rw [lexFrom_escaped]
  simp [lexFrom, Content.finish, tokens]

/-! ## Values -/

lemma endsToken_layoutItems (level : Nat) (items : List Json) {rest : List Char}
    (hrest : EndsToken rest) : EndsToken (layoutItems level items ++ rest) := by
  cases items with
  | nil => exact hrest
  | cons item items => exact endsToken_cons (by decide) _

lemma endsToken_layoutMembers (level : Nat) (members : List (String × Json)) {rest : List Char}
    (hrest : EndsToken rest) : EndsToken (layoutMembers level members ++ rest) := by
  cases members with
  | nil => exact hrest
  | cons member members => exact endsToken_cons (by decide) _

/-- A key and the colon after it. -/
lemma tokens_key (key : List Char) (rest : List Char) :
    tokens (quote key ++ ':' :: ' ' :: rest) = .string (some key) :: .colon :: tokens rest := by
  rw [tokens_quote, tokens_single .colon rfl, tokens_blank rfl]

mutual

/-- The laid out text of a value is cut into the tokens of the value. -/
theorem tokens_layout (level : Nat) (j : Json) {rest : List Char} (hrest : EndsToken rest) :
    tokens (layout level j ++ rest) = spelling j ++ tokens rest := by
  match j with
  | null => exact tokens_word rfl (by decide) (by decide) hrest
  | bool true => exact tokens_word rfl (by decide) (by decide) hrest
  | bool false => exact tokens_word rfl (by decide) (by decide) hrest
  | number n => exact tokens_number n hrest
  | string s => exact tokens_quote s.toList rest
  | array [] =>
    simp only [layout, spelling, List.cons_append, List.nil_append]
    rw [tokens_single .openArray rfl, tokens_single .closeArray rfl]
  | array (item :: items) =>
    have hclose := endsToken_newline level (']' :: rest)
    simp only [layout, spelling, List.cons_append, List.nil_append, List.append_assoc]
    rw [tokens_single .openArray rfl, tokens_newline,
      tokens_layout (level + 1) item (endsToken_layoutItems _ _ hclose),
      tokens_layoutItems (level + 1) items hclose, tokens_newline,
      tokens_single .closeArray rfl]
  | object [] =>
    simp only [layout, spelling, List.cons_append, List.nil_append]
    rw [tokens_single .openObject rfl, tokens_single .closeObject rfl]
  | object ((key, value) :: members) =>
    have hclose := endsToken_newline level ('\x7d' :: rest)
    simp only [layout, spelling, List.cons_append, List.nil_append, List.append_assoc]
    rw [tokens_single .openObject rfl, tokens_newline, tokens_key,
      tokens_layout (level + 1) value (endsToken_layoutMembers _ _ hclose),
      tokens_layoutMembers (level + 1) members hclose, tokens_newline,
      tokens_single .closeObject rfl]

lemma tokens_layoutItems (level : Nat) (items : List Json) {rest : List Char}
    (hrest : EndsToken rest) :
    tokens (layoutItems level items ++ rest) = spellingItems items ++ tokens rest := by
  match items with
  | [] => rfl
  | item :: items =>
    simp only [layoutItems, spellingItems, List.cons_append, List.append_assoc]
    rw [tokens_single .comma rfl, tokens_newline,
      tokens_layout level item (endsToken_layoutItems _ _ hrest),
      tokens_layoutItems level items hrest]

lemma tokens_layoutMembers (level : Nat) (members : List (String × Json)) {rest : List Char}
    (hrest : EndsToken rest) :
    tokens (layoutMembers level members ++ rest) = spellingMembers members ++ tokens rest := by
  match members with
  | [] => rfl
  | (key, value) :: members =>
    simp only [layoutMembers, spellingMembers, List.cons_append, List.nil_append,
      List.append_assoc]
    rw [tokens_single .comma rfl, tokens_newline, tokens_key,
      tokens_layout level value (endsToken_layoutMembers _ _ hrest),
      tokens_layoutMembers level members hrest]

end

end SysReg.Json
