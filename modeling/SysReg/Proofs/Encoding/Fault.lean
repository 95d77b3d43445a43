import SysReg.Proofs.Encoding.Recognition

/-!
# Faults of a notation

A text that is no encoding is refused for its first fault, where the number of its pieces comes
first, then the spelling of every piece, then the bounds of every number.  `Judges` says what this
comes to for given pieces, in terms of the integers that the pieces spell, and both strict readers
are shown to judge their texts so (`faults_exact`).

The integers are unbounded here, while a fault reports one in 64 bits.  What it reports is the
nearest integer of these (`Reports`), so that a number is never taken for another one that would
lie in the bounds.

Behind the relation stands the reading of a list in order: pieces are read with the list law for
the first element that fails (`mapM_eq_error_iff`), once for their spelling and once more for their
bounds.
-/

namespace SysReg

/-! ## Single components -/

/-- The integer `v` is what a fault reports for `n`: `n` itself in 64 bits, or else the nearest
bound of these. -/
structure Reports (n v : Int) : Prop where
  exactly : -0x8000000000000000 ≤ n → n ≤ 0x7fffffffffffffff → v = n
  above : 0x7fffffffffffffff < n → v = 0x7fffffffffffffff
  below : n < -0x8000000000000000 → v = -0x8000000000000000

lemma reports_iff {n v : Int} : Reports n v ↔ v = Encoding.saturate n := by
  unfold Encoding.saturate
  constructor
  · rintro ⟨hexactly, habove, hbelow⟩
    omega
  · rintro rfl
    constructor <;> omega

namespace Component

variable {c : Component} {n v : Int} {fault : EncodingError}

/-- The number is out of bounds, and the fault says on which side and reports it. -/
inductive Rejects (c : Component) (n : Int) : EncodingError → Prop where
  | negative {v : Int} (hn : n < 0) (hv : Reports n v) : Rejects c n (.negative c v)
  | outOfRange {v : Int} (hn : 0 ≤ n) (hbounds : ¬c.Admits n) (hv : Reports n v) :
      Rejects c n (.outOfRange c v)

lemma greatest_lt (c : Component) : c.greatest < 16 := by
  cases c <;> decide

/-- Bringing a number into 64 bits takes it neither into the bounds of a component nor out of
them. -/
lemma admits_saturate_iff : c.Admits (Encoding.saturate n) ↔ c.Admits n := by
  have hgreatest := c.greatest_lt
  unfold Admits Encoding.saturate
  omega

lemma check_eq_error_iff : c.check v = .error fault ↔
    (v < 0 ∧ fault = .negative c v) ∨ (0 ≤ v ∧ ¬c.Admits v ∧ fault = .outOfRange c v) := by
  by_cases hadmits : c.Admits v
  · obtain ⟨k, hk⟩ := exists_check_eq_ok_iff.2 hadmits
    have hv : ¬v < 0 := by
      unfold Admits at hadmits
      omega
    simp [hk, hadmits, hv]
  · have hbounds : ¬(c.least ≤ v.toNat ∧ v.toNat ≤ c.greatest) ∨ v < 0 := by
      unfold Admits at hadmits
      omega
    by_cases hv : v < 0
    · simp [check, hv, Int.not_le.2 hv, eq_comm]
    · rw [check, if_neg hv, dif_neg (hbounds.resolve_right hv)]
      simp [hv, hadmits, Int.not_lt.1 hv, eq_comm]

/-- A number is refused as the integer that it reports, and for the bounds that the number itself
misses. -/
lemma check_saturate_eq_error_iff :
    c.check (Encoding.saturate n) = .error fault ↔ c.Rejects n fault := by
  have hsign : Encoding.saturate n < 0 ↔ n < 0 := by
    unfold Encoding.saturate
    omega
  rw [check_eq_error_iff, admits_saturate_iff, hsign, ← Int.not_lt, hsign, Int.not_lt]
  constructor
  · rintro (⟨hn, rfl⟩ | ⟨hn, hbounds, rfl⟩)
    · exact .negative hn (reports_iff.2 rfl)
    · exact .outOfRange hn hbounds (reports_iff.2 rfl)
  · rintro (⟨hn, hv⟩ | ⟨hn, hbounds, hv⟩)
    · exact .inl ⟨hn, congrArg _ (reports_iff.1 hv)⟩
    · exact .inr ⟨hn, hbounds, congrArg _ (reports_iff.1 hv)⟩

end Component

/-! ## Single pieces -/

namespace Encoding

variable {c : Component} {letter : Char} {text : List Char} {v : Int} {fault : EncodingError}

/-- What is no decimal spelling of an integer is refused, and quoted. -/
lemma readNumber_eq_error_iff :
    readNumber c text = .error fault ↔
      (∀ n, text ≠ (Numeral.signedDecimal n).toList) ∧
        fault = .invalidNumber c (String.ofList text) := by
  have hfault {fault : EncodingError} (h : readNumber c text = .error fault) :
      fault = .invalidNumber c (String.ofList text) := by
    unfold readNumber at h
    split at h <;> split at h <;> cases h <;> rfl
  constructor
  · intro h
    refine ⟨fun n hn => ?_, hfault h⟩
    exact nomatch h.symm.trans (readNumber_eq_ok_iff.2 ⟨n, hn, rfl⟩)
  · rintro ⟨hnone, rfl⟩
    cases h : readNumber c text with
    | error fault => rw [hfault h]
    | ok v =>
      obtain ⟨n, hn, -⟩ := readNumber_eq_ok_iff.1 h
      exact absurd hn (hnone n)

/-- A lettered number is refused for its letter, or for what follows it. -/
lemma readLettered_eq_error_iff : readLettered c letter text = .error fault ↔
    (text.head? ≠ some letter ∧ fault = .missingLetter c letter (String.ofList text)) ∨
      ∃ rest, text = letter :: rest ∧ readNumber c rest = .error fault := by
  cases text with
  | nil => simp [readLettered, eq_comm]
  | cons first rest =>
    by_cases hfirst : first = letter
    · simp [readLettered, hfirst]
    · simp [readLettered, hfirst, Ne.symm hfirst, eq_comm]

lemma readLettered_eq_ok_iff : readLettered c letter text = .ok v ↔
    ∃ rest, text = letter :: rest ∧ readNumber c rest = .ok v := by
  refine ⟨eq_cons_of_readLettered, ?_⟩
  rintro ⟨rest, rfl, hrest⟩
  rwa [readLettered, if_pos rfl]

end Encoding

/-- A piece of a notation: the component that it stands for, the letter in front if there has to be
one, and the text. -/
structure Piece where
  component : Component
  letter? : Option Char
  text : List Char

namespace Piece

variable {p : Piece} {n v : Int} {fault : EncodingError}

/-- The piece is the integer in decimal, behind its letter. -/
def Spells (p : Piece) (n : Int) : Prop :=
  p.text = p.letter?.toList ++ (Numeral.signedDecimal n).toList

/-- The piece lacks its letter, or what follows it is not the decimal spelling of an integer. -/
inductive Misspells (p : Piece) : EncodingError → Prop where
  | letter {letter : Char} (hletter : p.letter? = some letter) (h : p.text.head? ≠ some letter) :
      Misspells p (.missingLetter p.component letter (String.ofList p.text))
  | number {digits : List Char} (htext : p.text = p.letter?.toList ++ digits)
      (h : ∀ n, digits ≠ (Numeral.signedDecimal n).toList) :
      Misspells p (.invalidNumber p.component (String.ofList digits))

/-- Reads the integer of a piece. -/
def read (p : Piece) : Except EncodingError Int :=
  match p.letter? with
  | some letter => Encoding.readLettered p.component letter p.text
  | none => Encoding.readNumber p.component p.text

/-- A piece is read exactly if it spells an integer, which is brought into 64 bits. -/
lemma read_eq_ok_iff : p.read = .ok v ↔ ∃ n, p.Spells n ∧ v = Encoding.saturate n := by
  obtain ⟨c, _ | letter, text⟩ := p
  · exact Encoding.readNumber_eq_ok_iff
  · rw [read, Encoding.readLettered_eq_ok_iff]
    simp only [Spells, Encoding.readNumber_eq_ok_iff]
    constructor
    · rintro ⟨rest, rfl, n, rfl, rfl⟩
      exact ⟨n, rfl, rfl⟩
    · rintro ⟨n, rfl, rfl⟩
      exact ⟨_, rfl, n, rfl, rfl⟩

lemma exists_read_eq_ok_iff : (∃ v, p.read = .ok v) ↔ ∃ n, p.Spells n := by
  simp only [read_eq_ok_iff]
  exact ⟨fun ⟨_, n, hn, _⟩ => ⟨n, hn⟩, fun ⟨n, hn⟩ => ⟨_, n, hn, rfl⟩⟩

lemma exists_mapM_read_eq_ok_iff {ps : List Piece} :
    (∃ values, ps.mapM read = .ok values) ↔ ∀ q ∈ ps, ∃ n, q.Spells n := by
  constructor
  · rintro ⟨values, hvalues⟩ q hq
    obtain ⟨v, -, hv⟩ := exists_mem_of_forall₂ (mapM_eq_ok_iff.1 hvalues) hq
    exact exists_read_eq_ok_iff.1 ⟨v, hv⟩
  · intro h
    obtain ⟨values, hvalues, -⟩ := exists_mapM_eq_ok (R := fun _ _ => True) fun q hq =>
      (exists_read_eq_ok_iff.2 (h q hq)).imp fun v hv => ⟨hv, trivial⟩
    exact ⟨values, hvalues⟩

/-- A byte is read as it is spelt. -/
lemma read_of_spells {k : Nat} (h : p.Spells k) (hk : k < 256) : p.read = .ok k := by
  refine read_eq_ok_iff.2 ⟨k, h, ?_⟩
  unfold Encoding.saturate
  omega

/-- A piece that is read as a number in its bounds spells this number: what lies outside 64 bits is
not brought into these bounds. -/
lemma spells_of_read {k : Fin p.component.size} (hread : p.read = .ok v)
    (hcheck : p.component.check v = .ok k) : p.Spells k.val := by
  have hk : k.val < 16 := Nat.lt_of_lt_of_le k.isLt p.component.size_le
  obtain ⟨n, hn, rfl⟩ := read_eq_ok_iff.1 hread
  obtain ⟨hsaturate, -⟩ := Encoding.check_eq_ok_iff.1 hcheck
  have hnk : n = k.val := by
    unfold Encoding.saturate at hsaturate
    omega
  rwa [← hnk]

/-- A piece is refused exactly for its misspelling. -/
lemma read_eq_error_iff : p.read = .error fault ↔ p.Misspells fault := by
  obtain ⟨c, _ | letter, text⟩ := p
  · rw [read, Encoding.readNumber_eq_error_iff]
    constructor
    · rintro ⟨hnone, rfl⟩
      exact .number rfl hnone
    · rintro (⟨⟨⟩, -⟩ | ⟨rfl, hnone⟩)
      exact ⟨hnone, rfl⟩
  · rw [read, Encoding.readLettered_eq_error_iff]
    simp only [Encoding.readNumber_eq_error_iff]
    constructor
    · rintro (⟨hhead, rfl⟩ | ⟨rest, rfl, hnone, rfl⟩)
      · exact .letter rfl hhead
      · exact .number rfl hnone
    · rintro (⟨⟨⟩, hhead⟩ | ⟨htext, hnone⟩)
      · exact .inl ⟨hhead, rfl⟩
      · exact .inr ⟨_, htext, hnone, rfl⟩

/-- Reads the integer of a piece and looks whether it lies in its bounds. -/
def check (p : Piece) : Except EncodingError Nat := do
  let v ← p.read
  let k ← p.component.check v
  return k

lemma exists_check_eq_ok_iff : (∃ k, p.check = .ok k) ↔ ∃ n, p.Spells n ∧ p.component.Admits n := by
  simp only [check, bind_eq_ok_iff, read_eq_ok_iff]
  constructor
  · rintro ⟨-, v, ⟨n, hn, rfl⟩, k, hk, -⟩
    exact ⟨n, hn, Component.admits_saturate_iff.1 (Component.exists_check_eq_ok_iff.1 ⟨k, hk⟩)⟩
  · rintro ⟨n, hn, hadmits⟩
    obtain ⟨k, hk⟩ :=
      Component.exists_check_eq_ok_iff.2 (Component.admits_saturate_iff.2 hadmits)
    exact ⟨k, _, ⟨n, hn, rfl⟩, k, hk, rfl⟩

/-- A piece that spells an integer is refused exactly for the bounds that this misses. -/
lemma check_eq_error_iff (h : p.Spells n) :
    p.check = .error fault ↔ p.component.Rejects n fault := by
  rw [check, read_eq_ok_iff.2 ⟨n, h, rfl⟩, ← Component.check_saturate_eq_error_iff]
  simp only [bind_eq_error_iff, Except.ok.injEq, exists_eq_left', reduceCtorEq, false_or]
  refine or_iff_left ?_
  rintro ⟨k, -, hk⟩
  cases hk

end Piece

/-! ## All pieces -/

namespace Encoding

/-- The texts as pieces of the five components, each behind its letter. -/
def piecesOf (letter? : Component → Option Char) (texts : List (List Char)) : List Piece :=
  List.zipWith (fun c text => ⟨c, letter? c, text⟩) Component.all texts

/-- What the texts between the separators of a notation come to.  There have to be five; then the
first misspelt one counts, and then the first that is out of bounds. -/
inductive Judges (letter? : Component → Option Char) (text : String) (texts : List (List Char)) :
    Except EncodingError Encoding → Prop where
  | count (hcount : texts.length ≠ 5) :
      Judges letter? text texts (.error (.componentCount text texts.length))
  | misspelt {before after : List Piece} {p : Piece} {fault : EncodingError}
      (hcount : texts.length = 5) (hpieces : piecesOf letter? texts = before ++ p :: after)
      (hbefore : ∀ q ∈ before, ∃ n, q.Spells n) (hp : p.Misspells fault) :
      Judges letter? text texts (.error fault)
  | rejected {before after : List Piece} {p : Piece} {n : Int} {fault : EncodingError}
      (hcount : texts.length = 5) (hspelt : ∀ q ∈ piecesOf letter? texts, ∃ m, q.Spells m)
      (hpieces : piecesOf letter? texts = before ++ p :: after)
      (hbefore : ∀ q ∈ before, ∃ n, q.Spells n ∧ q.component.Admits n) (hp : p.Spells n)
      (hn : p.component.Rejects n fault) :
      Judges letter? text texts (.error fault)
  | read {e : Encoding} (hcount : texts.length = 5) (hsystem : e.op0 = 2 ∨ e.op0 = 3)
      (hpieces : List.Forall₂ Piece.Spells (piecesOf letter? texts) (e.parts.map Int.ofNat)) :
      Judges letter? text texts (.ok e)

/-- Reads the texts between the separators. -/
def readPieces (letter? : Component → Option Char) (text : String) :
    List (List Char) → Except EncodingError Encoding
  | [op0, op1, crn, crm, op2] => do
    let op0 ← (Piece.mk .op0 (letter? .op0) op0).read
    let op1 ← (Piece.mk .op1 (letter? .op1) op1).read
    let crn ← (Piece.mk .crn (letter? .crn) crn).read
    let crm ← (Piece.mk .crm (letter? .crm) crm).read
    let op2 ← (Piece.mk .op2 (letter? .op2) op2).read
    ofIntegers op0 op1 crn crm op2
  | texts => .error (.componentCount text texts.length)

lemma ofCanonical_eq_readPieces (text : String) :
    ofCanonical text = readPieces Component.letter? text (text.toList.splitOn '_') := by
  unfold ofCanonical readPieces
  rfl

lemma ofCallForm_eq_readPieces {text : String} {body : List Char}
    (h : callBody? text.toList = some body) :
    ofCallForm text = readPieces (fun _ => none) text ((body.splitOn ',').map Text.trim) := by
  unfold ofCallForm readPieces
  rw [h]
  rfl

variable {letter? : Component → Option Char} {texts : List (List Char)} {fault : EncodingError}
  {e : Encoding}

/-- Five pieces are first read one after the other, and then looked at one after the other. -/
lemma readPieces_eq_error_iff {text : String} (h : texts.length = 5) :
    readPieces letter? text texts = .error fault ↔
      (piecesOf letter? texts).mapM Piece.read = .error fault ∨
        (∃ values, (piecesOf letter? texts).mapM Piece.read = .ok values) ∧
          (piecesOf letter? texts).mapM Piece.check = .error fault := by
  match texts, h with
  | [op0, op1, crn, crm, op2], _ =>
  simp only [readPieces, piecesOf, Component.all, List.zipWith, List.mapM_cons, List.mapM_nil,
    Piece.check, ofIntegers]
  generalize (Piece.mk .op0 (letter? .op0) op0).read = r0
  generalize (Piece.mk .op1 (letter? .op1) op1).read = r1
  generalize (Piece.mk .crn (letter? .crn) crn).read = r2
  generalize (Piece.mk .crm (letter? .crm) crm).read = r3
  generalize (Piece.mk .op2 (letter? .op2) op2).read = r4
  -- A piece that is not read ends both sides; after all are, the bounds are looked at in order.
  rcases r0 with _ | v0
  · simp [bind, Except.bind]
  rcases r1 with _ | v1
  · simp [bind, Except.bind]
  rcases r2 with _ | v2
  · simp [bind, Except.bind]
  rcases r3 with _ | v3
  · simp [bind, Except.bind]
  rcases r4 with _ | v4
  · simp [bind, Except.bind]
  simp [bind_eq_error_iff, bind_eq_ok_iff, pure, Except.pure]

/-- Five pieces are read as the encoding whose components they spell. -/
lemma readPieces_eq_ok_iff {text : String} (h : texts.length = 5) :
    readPieces letter? text texts = .ok e ↔ (e.op0 = 2 ∨ e.op0 = 3) ∧
      List.Forall₂ Piece.Spells (piecesOf letter? texts) (e.parts.map Int.ofNat) := by
  rw [← isSystemRegister_iff]
  match texts, h with
  | [op0, op1, crn, crm, op2], _ =>
  simp only [readPieces, bind_eq_ok_iff]
  constructor
  · rintro ⟨v0, h0, v1, h1, v2, h2, v3, h3, v4, h4, h⟩
    obtain ⟨c0, c1, c2, c3, c4⟩ := ofIntegers_eq_ok_iff.1 h
    exact ⟨isSystemRegister_of_ofIntegers h,
      .cons (Piece.spells_of_read h0 c0) (.cons (Piece.spells_of_read h1 c1)
        (.cons (Piece.spells_of_read h2 c2) (.cons (Piece.spells_of_read h3 c3)
          (.cons (Piece.spells_of_read h4 c4) .nil))))⟩
  · rintro ⟨hsystem, _ | ⟨h0, _ | ⟨h1, _ | ⟨h2, _ | ⟨h3, _ | ⟨h4, -⟩⟩⟩⟩⟩⟩
    exact ⟨_, Piece.read_of_spells h0 (by omega), _, Piece.read_of_spells h1 (by omega),
      _, Piece.read_of_spells h2 (by omega), _, Piece.read_of_spells h3 (by omega),
      _, Piece.read_of_spells h4 (by omega), ofIntegers_components hsystem⟩

/-- The pieces are read as they are judged. -/
lemma readPieces_eq_iff {text : String} {result : Except EncodingError Encoding} :
    readPieces letter? text texts = result ↔ Judges letter? text texts result := by
  by_cases hcount : texts.length = 5
  · cases result with
    | ok e =>
      rw [readPieces_eq_ok_iff hcount]
      constructor
      · rintro ⟨hsystem, hpieces⟩
        exact .read hcount hsystem hpieces
      · rintro (_ | _ | _ | ⟨-, hsystem, hpieces⟩)
        exact ⟨hsystem, hpieces⟩
    | error fault =>
      rw [readPieces_eq_error_iff hcount, Piece.exists_mapM_read_eq_ok_iff, mapM_eq_error_iff,
        mapM_eq_error_iff]
      constructor
      · rintro (⟨before, p, after, hpieces, hbefore, hp⟩ |
          ⟨hspelt, before, p, after, hpieces, hbefore, hp⟩)
        · exact .misspelt hcount hpieces
            (fun q hq => Piece.exists_read_eq_ok_iff.1 (hbefore q hq))
            (Piece.read_eq_error_iff.1 hp)
        · obtain ⟨n, hn⟩ := hspelt p (hpieces ▸ List.mem_append_right before List.mem_cons_self)
          exact .rejected hcount hspelt hpieces
            (fun q hq => Piece.exists_check_eq_ok_iff.1 (hbefore q hq)) hn
            ((Piece.check_eq_error_iff hn).1 hp)
      · rintro (h | ⟨-, hpieces, hbefore, hp⟩ | ⟨-, hspelt, hpieces, hbefore, hn, hp⟩)
        · exact absurd hcount h
        · exact .inl ⟨_, _, _, hpieces,
            fun q hq => Piece.exists_read_eq_ok_iff.2 (hbefore q hq), Piece.read_eq_error_iff.2 hp⟩
        · exact .inr ⟨hspelt, _, _, _, hpieces,
            fun q hq => Piece.exists_check_eq_ok_iff.2 (hbefore q hq),
            (Piece.check_eq_error_iff hn).2 hp⟩
  · have hread : readPieces letter? text texts = .error (.componentCount text texts.length) := by
      unfold readPieces
      split
      · exact absurd rfl hcount
      · rfl
    rw [hread]
    constructor
    · rintro rfl
      exact .count hcount
    · rintro (_ | ⟨h, _⟩ | ⟨h, _⟩ | ⟨h, _⟩)
      · rfl
      all_goals exact absurd h hcount

/-- What a text comes to in the canonical notation. -/
def JudgesCanonical (text : String) : Except EncodingError Encoding → Prop :=
  Judges Component.letter? text (text.toList.splitOn '_')

/-- What a text comes to in call form.  Blanks around the whole and around each piece do not count,
and no piece has a letter in front. -/
inductive JudgesCall (text : String) : Except EncodingError Encoding → Prop where
  | wrapper (h : ∀ body, Text.trim text.toList ≠ callOpening ++ (body ++ [')'])) :
      JudgesCall text (.error (.missingWrapper text))
  | pieces {body : List Char} {result : Except EncodingError Encoding}
      (htext : Text.trim text.toList = callOpening ++ (body ++ [')']))
      (hpieces : Judges (fun _ => none) text ((body.splitOn ',').map Text.trim) result) :
      JudgesCall text result

lemma ofCallForm_eq_iff {text : String} {result : Except EncodingError Encoding} :
    ofCallForm text = result ↔ JudgesCall text result := by
  cases hbody : callBody? text.toList with
  | none =>
    have hnone (body : List Char) : Text.trim text.toList ≠ callOpening ++ (body ++ [')']) :=
      fun htext => nomatch hbody.symm.trans (callBody?_eq_some_iff.2 htext)
    have hread : ofCallForm text = .error (.missingWrapper text) := by
      rw [ofCallForm, hbody]
    rw [hread]
    constructor
    · rintro rfl
      exact .wrapper hnone
    · rintro (_ | ⟨htext, -⟩)
      · rfl
      · exact absurd htext (hnone _)
  | some body =>
    rw [ofCallForm_eq_readPieces hbody, readPieces_eq_iff]
    constructor
    · exact .pieces (callBody?_eq_some_iff.1 hbody)
    · rintro (hnone | ⟨htext, hpieces⟩)
      · exact absurd (callBody?_eq_some_iff.1 hbody) (hnone _)
      · cases hbody.symm.trans (callBody?_eq_some_iff.2 htext)
        exact hpieces

/-! ## Bytes -/

/-- A number in the bounds of a component is the value that its low bits make. -/
lemma check_eq_within {c : Component} {n : Nat} (k : Fin c.size) (hk : k.val = n % c.size) :
    c.check n = c.within n c.least c.greatest >>= fun _ => .ok k := by
  by_cases hbounds : c.least ≤ n ∧ n ≤ c.greatest
  · have hfits : n < c.size := Nat.lt_of_le_of_lt hbounds.2 c.greatest_lt_size
    have hvalue : n = k.val := by rw [hk, Nat.mod_eq_of_lt hfits]
    have hwithin : c.within n c.least c.greatest = .ok () := by
      rw [Component.within, if_neg (by omega), if_neg (by omega)]
    rw [hwithin, hvalue]
    exact c.check_val k (hvalue ▸ hbounds.1)
  · have hwithin : c.within n c.least c.greatest = .error (.outOfRange c n) := by
      rw [Component.within, if_neg (by omega), if_pos (by omega)]
    have hgreatest : c.greatest = c.size - 1 := rfl
    rw [hwithin, Component.check_eq_error (by omega)]
    rfl

/-- Bytes are held to the bounds that integers are held to, and what then fits its bits is not
truncated. -/
lemma ofBytes_eq_ofIntegers (op0 op1 crn crm op2 : UInt8) : ofBytes op0 op1 crn crm op2 =
    ofIntegers op0.toNat op1.toNat crn.toNat crm.toNat op2.toNat := by
  have hop0 := check_eq_within (c := .op0) (n := op0.toNat) (Fin.ofNat 4 op0.toNat) rfl
  have hop1 := check_eq_within (c := .op1) (n := op1.toNat) (Fin.ofNat 8 op1.toNat) rfl
  have hcrn := check_eq_within (c := .crn) (n := crn.toNat) (Fin.ofNat 16 crn.toNat) rfl
  have hcrm := check_eq_within (c := .crm) (n := crm.toNat) (Fin.ofNat 16 crm.toNat) rfl
  have hop2 := check_eq_within (c := .op2) (n := op2.toNat) (Fin.ofNat 8 op2.toNat) rfl
  simp only [ofIntegers, hop0, hop1, hcrn, hcrm, hop2, bind_assoc]
  rfl

/-- The numerals of five bytes, each behind its letter, are read as the bytes. -/
lemma readPieces_numerals (text : String) (op0 op1 crn crm op2 : UInt8) :
    readPieces letter? text
        (numerals letter? op0.toNat op1.toNat crn.toNat crm.toNat op2.toNat) =
      ofBytes op0 op1 crn crm op2 := by
  have hread (c : Component) (n : UInt8) :
      (Piece.mk c (letter? c) ((letter? c).toList ++ Nat.toDigits 10 n.toNat)).read =
        .ok n.toNat := by
    refine Piece.read_of_spells ?_ n.toNat_lt
    rw [Piece.Spells, Numeral.toList_signedDecimal_natCast]
  simp only [numerals, Component.all, List.zipWith, readPieces, hread, ofBytes_eq_ofIntegers]
  rfl

/-- Five numbers in call form are the numerals between its brackets. -/
lemma callBody?_callText (op0 op1 crn crm op2 : Nat) :
    callBody? (callText op0 op1 crn crm op2).toList =
      some ([','].intercalate (spacedNumerals op0 op1 crn crm op2)) := by
  rw [callBody?_eq_some_iff, toList_callText, Text.trim_eq_self (noOuterBlank_call _)]

lemma splitOn_spacedNumerals (op0 op1 crn crm op2 : Nat) :
    ([','].intercalate (spacedNumerals op0 op1 crn crm op2)).splitOn ',' =
      spacedNumerals op0 op1 crn crm op2 := by
  have hdigits (n : Nat) : ',' ∉ Nat.toDigits 10 n := Numeral.not_mem_decimal (by decide)
  have hpieces : ∀ piece ∈ spacedNumerals op0 op1 crn crm op2, ',' ∉ piece := by
    simp [spacedNumerals, hdigits]
  exact List.splitOn_intercalate ',' hpieces (List.cons_ne_nil _ _)

/-- **A fault is the first one, and no number is clamped or wrapped.**  Both strict readers judge
every text by its pieces: their number first, then the first that is misspelt, and then the first
whose integer lies outside the bounds of its component, however long it is.  Five bytes are held to
the same bounds as five integers, and their numerals in either notation come to what the bytes
themselves come to. -/
theorem faults_exact :
    (∀ text result, ofCanonical text = result ↔ JudgesCanonical text result) ∧
      (∀ text result, ofCallForm text = result ↔ JudgesCall text result) ∧
      ∀ op0 op1 crn crm op2 : UInt8,
        ofBytes op0 op1 crn crm op2 =
            ofIntegers op0.toNat op1.toNat crn.toNat crm.toNat op2.toNat ∧
          ofCanonical (canonicalText op0.toNat op1.toNat crn.toNat crm.toNat op2.toNat) =
            ofBytes op0 op1 crn crm op2 ∧
          ofCallForm (callText op0.toNat op1.toNat crn.toNat crm.toNat op2.toNat) =
            ofBytes op0 op1 crn crm op2 := by
  refine ⟨fun text result => ?_, fun text result => ofCallForm_eq_iff,
    fun op0 op1 crn crm op2 => ⟨ofBytes_eq_ofIntegers .., ?_, ?_⟩⟩
  · rw [ofCanonical_eq_readPieces]
    exact readPieces_eq_iff
  · rw [ofCanonical_eq_readPieces, splitOn_canonicalText, readPieces_numerals]
  · rw [ofCallForm_eq_readPieces (callBody?_callText ..), splitOn_spacedNumerals,
      map_trim_spacedNumerals, readPieces_numerals]

/-- A misspelling counts before a number out of bounds, although it comes after it. -/
example : ofCanonical "s9_x_c0_c0_0" = .error (.invalidNumber .op1 "x") := by
  decide

/-- The number is `2 ^ 64`, which is out of bounds, and is not cut to zero. -/
example : ofCanonical "s3_0_c0_c0_18446744073709551616" =
    .error (.outOfRange .op2 0x7fffffffffffffff) := by
  decide

end Encoding
end SysReg
