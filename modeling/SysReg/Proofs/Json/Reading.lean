import SysReg.Proofs.Json.Grammar
import SysReg.Proofs.Json.Source

/-!
# What is read as a document

A text spells a value if it spells the tokens of the value (`Spells`).  Reading is exact: a text is
read to its end as a value if, and only if, it spells the value (`spells_iff`).  So it spells one value
at most, and blanks and the ways of writing a string make no difference.

One direction is the construction of the tree from the tokens of a value.  The other one follows the
construction backwards: whatever place it has reached, the tokens that it took are those of the open
containers and of the value met last (`Reached`), one token at a time (`reached_step`).
-/

namespace SysReg.Json.Source

/-- The text spells the value. -/
def Spells (value : Source) (text : List Char) : Prop :=
  Lexes value.spelling text

/-! ## Texts are cut into the tokens of a value -/

lemma separated_cons {token : Token} {ts : List Token} (hbare : token.isBare = false)
    (h : Separated ts) : Separated (token :: ts) := by
  cases ts with
  | nil => exact List.isChain_singleton token
  | cons next ts =>
    refine List.isChain_cons_cons.2 ⟨fun hboth => ?_, h⟩
    exact Bool.false_ne_true (hbare.symm.trans hboth.1)

/-- Behind the tokens there may stand any that do not begin with a word or a number. -/
def Closed (tokens : List Token) : Prop :=
  ∀ rest : List Token, (∀ t ∈ rest.head?, t.isBare = false) → Separated rest →
    Separated (tokens ++ rest)

/-- Between parts with commas no two words or numbers meet. -/
lemma closed_listing {parts : List (List Token)} (h : ∀ part ∈ parts, Closed part) :
    Closed (listing parts) := by
  intro rest hhead hrest
  have hcommas (parts : List (List Token)) (h : ∀ part ∈ parts, Closed part) :
      (∀ t ∈ (parts.flatMap (.comma :: ·) ++ rest).head?, t.isBare = false) ∧
        Separated (parts.flatMap (.comma :: ·) ++ rest) := by
    induction parts with
    | nil => exact ⟨hhead, hrest⟩
    | cons part parts ih =>
      rw [List.forall_mem_cons] at h
      obtain ⟨hnext, hparts⟩ := ih h.2
      rw [List.flatMap_cons, List.append_assoc, List.cons_append]
      exact ⟨fun t ht => Option.some.inj ht ▸ rfl, separated_cons rfl (h.1 _ hnext hparts)⟩
  cases parts with
  | nil => exact hrest
  | cons part parts =>
    rw [List.forall_mem_cons] at h
    rw [listing, List.append_assoc]
    exact h.1 _ (hcommas parts h.2).1 (hcommas parts h.2).2

/-- In brackets no two words or numbers meet either. -/
lemma closed_brackets {opening closing : Token} (hopening : opening.isBare = false)
    (hclosing : closing.isBare = false) {tokens : List Token} (h : Closed tokens) :
    Closed (opening :: (tokens ++ [closing])) := by
  intro rest _ hrest
  rw [List.cons_append, List.append_assoc, List.singleton_append]
  exact separated_cons hopening
    (h _ (fun t ht => Option.some.inj ht ▸ hclosing) (separated_cons hclosing hrest))

lemma closed_single (token : Token) : Closed [token] := by
  intro rest hhead hrest
  cases rest with
  | nil => exact List.isChain_singleton token
  | cons next rest =>
    refine List.isChain_cons_cons.2 ⟨fun hboth => ?_, hrest⟩
    exact Bool.false_ne_true ((hhead next rfl).symm.trans hboth.2)

lemma closed_spelling (value : Source) : Closed value.spelling := by
  induction value using Source.induction with
  | null | bool | number | string | broken => exact closed_single _
  | array items ih =>
    rw [spelling, spellings_eq_map]
    refine closed_brackets rfl rfl (closed_listing ?_)
    rwa [List.forall_mem_map]
  | object members ih =>
    rw [spelling, memberSpellings_eq_map]
    refine closed_brackets rfl rfl (closed_listing ?_)
    rw [List.forall_mem_map]
    exact fun member hmem rest hhead hrest =>
      separated_cons rfl (separated_cons rfl (ih member hmem rest hhead hrest))

lemma separated_spelling (value : Source) : Separated value.spelling := by
  have hclosed := closed_spelling value [] nofun .nil
  rwa [List.append_nil] at hclosed

lemma fault_mem_listing_iff {parts : List (List Token)} :
    .fault ∈ listing parts ↔ ∃ part ∈ parts, .fault ∈ part := by
  cases parts with
  | nil => simp [listing]
  | cons part parts => simp [listing]

/-- A fault is spelled in the values that were not read to their end, and in no others. -/
lemma fault_not_mem_spelling_iff {value : Source} :
    .fault ∉ value.spelling ↔ value.isWhole = true := by
  induction value using Source.induction with
  | null | bool | number | string => exact iff_of_true (by simp [spelling]) rfl
  | array items ih =>
    have hmem : .fault ∈ (array items).spelling ↔ ∃ item ∈ items, .fault ∈ item.spelling := by
      simp [spelling, spellings_eq_map, fault_mem_listing_iff]
    rw [isWhole_array_iff, hmem]
    simp only [not_exists, not_and]
    exact forall₂_congr ih
  | object members ih =>
    have hmem : .fault ∈ (object members).spelling ↔
        ∃ member ∈ members, .fault ∈ member.2.spelling := by
      simp [spelling, memberSpellings_eq_map, memberSpelling, fault_mem_listing_iff]
    rw [isWhole_object_iff, hmem]
    simp only [not_exists, not_and]
    exact forall₂_congr ih
  | broken => exact iff_of_false (by simp [spelling]) Bool.false_ne_true

lemma fault_not_mem_of_lexes {ts : List Token} {text : List Char} (h : Lexes ts text) :
    .fault ∉ ts := by
  induction h with
  | done => exact List.not_mem_nil
  | blank _ _ ih => exact ih
  | token h _ ih =>
    rw [List.mem_cons, not_or]
    refine ⟨?_, ih⟩
    rintro rfl
    cases h

/-! ## The tokens that were taken -/

/-- Parts with a comma behind each. -/
def taken (parts : List (List Token)) : List Token :=
  parts.flatMap (· ++ [.comma])

lemma taken_cons (part : List Token) (parts : List (List Token)) :
    taken (part :: parts) = part ++ .comma :: taken parts := by
  rw [taken, List.flatMap_cons, List.append_assoc]
  rfl

lemma taken_concat (parts : List (List Token)) (last : List Token) :
    taken (parts ++ [last]) = taken parts ++ (last ++ [.comma]) := by
  rw [taken, List.flatMap_append, List.flatMap_singleton, ← taken]

lemma listing_concat (parts : List (List Token)) (last : List Token) :
    listing (parts ++ [last]) = taken parts ++ last := by
  have hcommas (parts : List (List Token)) :
      (parts ++ [last]).flatMap (.comma :: ·) = .comma :: (taken parts ++ last) := by
    induction parts with
    | nil => exact List.flatMap_singleton ..
    | cons part parts ih =>
      rw [List.cons_append, List.flatMap_cons, ih, taken_cons, List.append_assoc]
      rfl
  cases parts with
  | nil => exact List.append_nil last
  | cons part parts =>
    rw [List.cons_append, listing, hcommas, taken_cons, List.append_assoc]
    rfl

/-- An array is spelled by what was taken before its last element, and this element. -/
lemma spelling_array_concat (items : List Source) (last : Source) :
    (array (items ++ [last])).spelling =
      .openArray :: taken (items.map spelling) ++ last.spelling ++ [.closeArray] := by
  rw [spelling, spellings_eq_map, List.map_append, List.map_singleton, listing_concat]
  rfl

lemma spelling_object_concat (members : List (Option (List Char) × Source))
    (last : Option (List Char) × Source) :
    (object (members ++ [last])).spelling =
      .openObject :: taken (members.map memberSpelling) ++ memberSpelling last ++
        [.closeObject] := by
  rw [spelling, memberSpellings_eq_map, List.map_append, List.map_singleton, listing_concat]
  rfl

/-- The tokens that opened the containers, up to the place of the next value. -/
def opened : List Frame → List Token
  | [] => []
  | .array items :: frames =>
    opened frames ++ .openArray :: taken (items.reverse.map spelling)
  | .object members key :: frames =>
    opened frames ++
      (.openObject :: taken (members.reverse.map memberSpelling) ++ [.string key, .colon])

/-- The place is reached by the tokens. -/
inductive Reached : Place → List Token → Prop where
  | value (frames : List Frame) : Reached (frames, .value) (opened frames)
  | firstItem (frames : List Frame) :
      Reached (.array [] :: frames, .firstItem) (opened frames ++ [.openArray])
  | firstKey (old : Option (List Char)) (frames : List Frame) :
      Reached (.object [] old :: frames, .firstKey) (opened frames ++ [.openObject])
  | key (members : List (Option (List Char) × Source)) (old : Option (List Char))
      (frames : List Frame) :
      Reached (.object members old :: frames, .key)
        (opened frames ++ .openObject :: taken (members.reverse.map memberSpelling))
  | colon (members : List (Option (List Char) × Source)) (key : Option (List Char))
      (frames : List Frame) :
      Reached (.object members key :: frames, .colon)
        (opened frames ++
          (.openObject :: taken (members.reverse.map memberSpelling) ++ [.string key]))
  | more (frames : List Frame) (last : Source) :
      Reached (frames, .more last) (opened frames ++ last.spelling)

variable {frames : List Frame} {frame : Frame} {expected : Expected} {token : Token} {place : Place}
  {before : List Token}

lemma reached_valueStep (h : valueStep frames token = some place) :
    Reached place (opened frames ++ [token]) := by
  cases token <;> cases h
  · exact .firstItem frames
  · exact .firstKey none frames
  · exact .more frames .null
  · exact .more frames (.bool _)
  · exact .more frames (.number _)
  · exact .more frames (.string _)

/-- Behind a value inside a container there follows another one, or the container ends. -/
lemma reached_more {last : Source} (h : step frame frames (.more last) token = some place) :
    Reached place (opened (frame :: frames) ++ (last.spelling ++ [token])) := by
  cases frame with
  | array items =>
    have hstep : (token = .comma ∧ place = (.array (last :: items) :: frames, .value)) ∨
        (token = .closeArray ∧ place = (frames, .more (.array (last :: items).reverse))) := by
      cases items <;> cases token <;> cases h <;> simp
    rcases hstep with ⟨rfl, rfl⟩ | ⟨rfl, rfl⟩
    · have hopened := Reached.value (.array (last :: items) :: frames)
      rw [opened, List.reverse_cons, List.map_append, List.map_singleton, taken_concat] at hopened
      simpa only [opened, List.append_assoc, List.cons_append, List.nil_append] using hopened
    · have hmore := Reached.more frames (.array (last :: items).reverse)
      rw [List.reverse_cons, spelling_array_concat] at hmore
      simpa only [opened, List.append_assoc, List.cons_append, List.nil_append,
        List.reverse_cons] using hmore
  | object members key =>
    cases token <;> cases h
    · have hmore := Reached.more frames (.object ((key, last) :: members).reverse)
      rw [List.reverse_cons, spelling_object_concat] at hmore
      simpa only [opened, memberSpelling, List.append_assoc, List.cons_append, List.nil_append,
        List.reverse_cons] using hmore
    · have hkey := Reached.key ((key, last) :: members) none frames
      rw [List.reverse_cons, List.map_append, List.map_singleton, taken_concat] at hkey
      simpa only [opened, memberSpelling, List.append_assoc, List.cons_append,
        List.nil_append] using hkey

/-- One token leads from a place that is reached to another one. -/
lemma reached_step (hbefore : Reached (frame :: frames, expected) before)
    (h : step frame frames expected token = some place) : Reached place (before ++ [token]) := by
  cases hbefore with
  | value =>
    have hvalue : step frame frames .value token = valueStep (frame :: frames) token := by
      cases frame with
      | array items => cases items <;> rfl
      | object members key => rfl
    exact reached_valueStep (hvalue ▸ h)
  | firstItem =>
    by_cases hclose : token = .closeArray
    · subst hclose
      cases h
      rw [List.append_assoc]
      exact .more frames (.array [])
    · have hvalue : step (.array []) frames .firstItem token =
          valueStep (.array [] :: frames) token := by
        cases token <;> first | rfl | exact absurd rfl hclose
      exact reached_valueStep (hvalue ▸ h)
  | firstKey old =>
    cases token <;> cases h
    · rw [List.append_assoc]
      exact .more frames (.object [])
    · rw [List.append_assoc]
      exact .colon [] _ frames
  | key members old =>
    cases token <;> cases h
    rw [List.append_assoc]
    exact .colon members _ frames
  | colon members key =>
    cases token <;> cases h
    have hopened := Reached.value (.object members key :: frames)
    rw [opened] at hopened
    simpa only [List.append_assoc, List.cons_append, List.nil_append] using hopened
  | more _ last =>
    rw [List.append_assoc]
    exact reached_more h

/-- A document that ends by a fault was not read to its end. -/
lemma not_isWhole_cutShort (frames : List Frame) : (cutShort frames).isWhole = false := by
  have hclose (frame : Frame) {value : Source} (hvalue : value.isWhole = false) :
      (frame.close value).isWhole = false := by
    rw [Bool.eq_false_iff] at hvalue ⊢
    cases frame with
    | array items =>
      rw [Frame.close, Ne, isWhole_array_iff]
      exact fun h => hvalue (h value (by simp))
    | object members key =>
      rw [Frame.close, Ne, isWhole_object_iff]
      exact fun h => hvalue (h (key, value) (by simp))
  have hfold (value : Source) (hvalue : value.isWhole = false) :
      (frames.foldl (fun value frame => frame.close value) value).isWhole = false := by
    induction frames generalizing value with
    | nil => exact hvalue
    | cons frame frames ih => exact ih _ (hclose frame hvalue)
  exact hfold broken rfl

/-- A value that is built to its end is spelled by the tokens that were taken for it. -/
lemma spelling_of_build {place : Place} {before ts rest : List Token} {root : Source}
    (hbefore : Reached place before) (h : build place ts = (root, rest))
    (hwhole : root.isWhole = true) : before ++ ts = root.spelling ++ rest := by
  -- A cut document is not whole, so every token leads on, up to the end of the root.
  have hcut {frames : List Frame} (hcut : cutShort frames = root) : False := by
    rw [← hcut, not_isWhole_cutShort] at hwhole
    exact Bool.false_ne_true hwhole
  obtain ⟨frames, expected⟩ := place
  induction ts generalizing frames expected before with
  | nil =>
    cases frames with
    | nil =>
      cases hbefore with
      | value => exact (hcut (Prod.mk.inj h).1).elim
      | more _ last =>
        cases h
        rfl
    | cons frame frames => exact (hcut (Prod.mk.inj h).1).elim
  | cons token ts ih =>
    rw [List.append_cons]
    cases frames with
    | nil =>
      cases hbefore with
      | value =>
        rw [build.eq_3 .value _ _ fun _ hmore => by cases hmore] at h
        split at h
        · next place hstep => exact ih _ _ (reached_valueStep hstep) h
        · exact (@hcut [] (Prod.mk.inj h).1).elim
      | more _ last =>
        cases h
        simp only [opened, List.nil_append, List.append_assoc, List.singleton_append]
    | cons frame frames =>
      rw [build] at h
      split at h
      · next place hstep => exact ih _ _ (reached_step hbefore hstep) h
      · exact (hcut (Prod.mk.inj h).1).elim

/-! ## Texts -/

variable {value : Source} {text : List Char}

/-- **Reading is exact.**  A text is read to its end as a value, with nothing but blanks behind it, if
and only if it spells the value. -/
theorem spells_iff : value.Spells text ↔ ofText text = (value, true) ∧ value.isWhole = true := by
  constructor
  · intro h
    have hwhole : value.isWhole = true := fault_not_mem_spelling_iff.1 (fault_not_mem_of_lexes h)
    refine ⟨?_, hwhole⟩
    rw [ofText, tokens_of_lexes h (separated_spelling value), build_root hwhole]
    rfl
  · rintro ⟨htext, hwhole⟩
    obtain ⟨hroot, hrest⟩ := Prod.mk.inj htext
    have hspelling : tokens text = value.spelling := by
      have hbuild := spelling_of_build (.value []) (Prod.ext hroot (List.isEmpty_iff.1 hrest)) hwhole
      rwa [opened, List.nil_append, List.append_nil] at hbuild
    rw [Spells, ← hspelling]
    refine lexes_tokens ?_
    rw [hspelling]
    exact fault_not_mem_spelling_iff.2 hwhole

/-- The text of a value spells its tree. -/
lemma spells_text (j : Json) : (tree j).Spells j.text.toList :=
  spells_iff.2 ⟨ofText_toList_text j, isWhole_tree j⟩

/-- Blanks in front of a value make no difference. -/
lemma Spells.blank {c : Char} (h : value.Spells text) (hc : c ∈ [' ', '\n', '\t', '\r']) :
    value.Spells (c :: text) :=
  Lexes.blank hc h

end SysReg.Json.Source
