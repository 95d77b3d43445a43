import SysReg.Json.Source
import SysReg.Proofs.Json.Token

/-!
# The tree of a document

A document is built from its tokens with a stack of open containers.  The statement that goes
through an induction over values is the one for any stack and any tokens that follow: the tokens of
a value leave the stack as it was, with the value as the last one met (`build_spelling`).  With
`tokens_layout` it follows that a written value is read as its tree and that nothing is left over
(`ofText_layout`).
-/

namespace SysReg.Json

namespace Source

/-- What holds of an array if it holds of its elements, and of an object if it holds of the values of
its members, holds of every value. -/
@[elab_as_elim]
theorem induction {P : Source → Prop} (null : P .null) (bool : ∀ b, P (.bool b))
    (number : ∀ literal, P (.number literal)) (string : ∀ content, P (.string content))
    (array : ∀ items, (∀ item ∈ items, P item) → P (.array items))
    (object : ∀ members, (∀ member ∈ members, P member.2) → P (.object members))
    (broken : P .broken) (value : Source) : P value :=
  @Source.rec P (fun items => ∀ item ∈ items, P item) (fun members => ∀ m ∈ members, P m.2)
    (fun member => P member.2) null bool number string array object broken
    nofun (fun _ _ hitem hitems => List.forall_mem_cons.2 ⟨hitem, hitems⟩)
    nofun (fun _ _ hmember hmembers => List.forall_mem_cons.2 ⟨hmember, hmembers⟩)
    (fun _ _ hvalue => hvalue) value

lemma areWhole_iff {items : List Source} :
    areWhole items = true ↔ ∀ item ∈ items, item.isWhole = true := by
  induction items with
  | nil => exact iff_of_true rfl nofun
  | cons item items ih => rw [areWhole, Bool.and_eq_true, ih, List.forall_mem_cons]

lemma membersAreWhole_iff {members : List (Option (List Char) × Source)} :
    membersAreWhole members = true ↔ ∀ member ∈ members, member.2.isWhole = true := by
  induction members with
  | nil => exact iff_of_true rfl nofun
  | cons member members ih => rw [membersAreWhole, Bool.and_eq_true, ih, List.forall_mem_cons]

lemma isWhole_array_iff {items : List Source} :
    (array items).isWhole = true ↔ ∀ item ∈ items, item.isWhole = true := by
  rw [isWhole, areWhole_iff]

lemma isWhole_object_iff {members : List (Option (List Char) × Source)} :
    (object members).isWhole = true ↔ ∀ member ∈ members, member.2.isWhole = true := by
  rw [isWhole, membersAreWhole_iff]

/-! ## The tokens of a tree -/

/-- Parts with a comma between any two. -/
def listing : List (List Token) → List Token
  | [] => []
  | part :: parts => part ++ parts.flatMap (.comma :: ·)

mutual

/-- The tokens of a value. -/
def spelling : Source → List Token
  | null => [.null]
  | bool b => [.bool b]
  | number literal => [.number literal]
  | string content => [.string content]
  | array items => .openArray :: (listing (spellings items) ++ [.closeArray])
  | object members => .openObject :: (listing (memberSpellings members) ++ [.closeObject])
  | broken => [.fault]

/-- The tokens of each element of an array. -/
def spellings : List Source → List (List Token)
  | [] => []
  | item :: items => spelling item :: spellings items

/-- The tokens of each member of an object. -/
def memberSpellings : List (Option (List Char) × Source) → List (List Token)
  | [] => []
  | (key, value) :: members =>
    (.string key :: .colon :: spelling value) :: memberSpellings members

end

/-- The tokens of a member of an object. -/
def memberSpelling (member : Option (List Char) × Source) : List Token :=
  .string member.1 :: .colon :: spelling member.2

lemma spellings_eq_map (items : List Source) : spellings items = items.map spelling := by
  induction items with
  | nil => rfl
  | cons item items ih => rw [spellings, List.map_cons, ih]

lemma memberSpellings_eq_map (members : List (Option (List Char) × Source)) :
    memberSpellings members = members.map memberSpelling := by
  induction members with
  | nil => rfl
  | cons member members ih =>
    rw [memberSpellings, List.map_cons, ih]
    rfl

/-! ## Single steps -/

variable {frames : List Frame} {token : Token}

lemma build_value (place : Place) (h : valueStep frames token = some place) (ts : List Token) :
    build (frames, .value) (token :: ts) = build place ts := by
  cases frames with
  | nil => rw [build, h]; nofun
  | cons frame frames =>
    have hstep : step frame frames .value token = some place := by
      rw [← h]
      match frame with
      | .array [] | .array (_ :: _) | .object _ _ => rfl
    rw [build, hstep]

lemma build_step {frame : Frame} {expected : Expected} (place : Place)
    (h : step frame frames expected token = some place) (ts : List Token) :
    build (frame :: frames, expected) (token :: ts) = build place ts := by
  rw [build, h]

/-- The first element of an array is read as a value, since no value opens with a bracket that
closes. -/
lemma build_firstItem (value : Source) (ts : List Token) :
    build (.array [] :: frames, .firstItem) (value.spelling ++ ts) =
      build (.array [] :: frames, .value) (value.spelling ++ ts) := by
  have hhead : ∃ token tokens, value.spelling = token :: tokens ∧ token ≠ .closeArray := by
    cases value <;> exact ⟨_, _, rfl, nofun⟩
  obtain ⟨token, tokens, hspelling, hne⟩ := hhead
  have hstep : step (.array []) frames .firstItem token = step (.array []) frames .value token := by
    cases token <;> first | rfl | exact absurd rfl hne
  rw [hspelling, List.cons_append, build, build, hstep]
  rfl

/-- Key and colon of a member, the first one or one after a comma. -/
lemma build_key {members : List (Option (List Char) × Source)} {old : Option (List Char)}
    {expected : Expected} (h : expected = .firstKey ∨ expected = .key) (key : Option (List Char))
    (ts : List Token) :
    build (.object members old :: frames, expected) (.string key :: .colon :: ts) =
      build (.object members key :: frames, .value) ts := by
  rcases h with rfl | rfl
  · rw [build_step (.object members key :: frames, .colon) (by cases members <;> rfl),
      build_step (.object members key :: frames, .value) rfl]
  · rw [build_step (.object members key :: frames, .colon) rfl,
      build_step (.object members key :: frames, .value) rfl]

/-! ## Values -/

/-- The tokens of the value build it, inside any open containers. -/
def Builds (value : Source) : Prop :=
  ∀ frames ts, build (frames, .value) (value.spelling ++ ts) = build (frames, .more value) ts

/-- The elements of an array after the first. -/
lemma build_items {items : List Source} (h : ∀ item ∈ items, item.Builds) (earlier : List Source)
    (last : Source) (ts : List Token) :
    build (.array earlier :: frames, .more last)
        ((items.map spelling).flatMap (.comma :: ·) ++ .closeArray :: ts) =
      build (frames, .more (.array (earlier.reverse ++ last :: items))) ts := by
  induction items generalizing earlier last with
  | nil =>
    rw [List.map_nil, List.flatMap_nil, List.nil_append,
      build_step (frames, .more (.array (last :: earlier).reverse)) (by cases earlier <;> rfl),
      List.reverse_cons]
  | cons item items ih =>
    rw [List.forall_mem_cons] at h
    rw [List.map_cons, List.flatMap_cons, List.append_assoc, List.cons_append,
      build_step (.array (last :: earlier) :: frames, .value) (by cases earlier <;> rfl), h.1,
      ih h.2, List.reverse_cons, List.append_assoc, List.singleton_append]

/-- The members of an object after the first. -/
lemma build_members {members : List (Option (List Char) × Source)}
    (h : ∀ member ∈ members, member.2.Builds) (earlier : List (Option (List Char) × Source))
    (key : Option (List Char)) (last : Source) (ts : List Token) :
    build (.object earlier key :: frames, .more last)
        ((members.map memberSpelling).flatMap (.comma :: ·) ++ .closeObject :: ts) =
      build (frames, .more (.object (earlier.reverse ++ (key, last) :: members))) ts := by
  induction members generalizing earlier key last with
  | nil =>
    rw [List.map_nil, List.flatMap_nil, List.nil_append,
      build_step (frames, .more (.object ((key, last) :: earlier).reverse)) rfl,
      List.reverse_cons]
  | cons member members ih =>
    rw [List.forall_mem_cons] at h
    rw [List.map_cons, List.flatMap_cons, List.append_assoc, List.cons_append, memberSpelling,
      build_step (.object ((key, last) :: earlier) none :: frames, .key) rfl, List.cons_append,
      List.cons_append, build_key (.inr rfl), h.1, ih h.2, List.reverse_cons, List.append_assoc,
      List.singleton_append]

/-- The tokens of a value build it, inside any open containers. -/
theorem build_spelling {value : Source} (hwhole : value.isWhole = true) : value.Builds := by
  induction value using Source.induction with
  | null | bool | number | string => exact fun frames ts => build_value _ rfl ts
  | array items ih =>
    intro frames ts
    rw [isWhole_array_iff] at hwhole
    have hitems : ∀ item ∈ items, item.Builds := fun item hmem => ih item hmem (hwhole item hmem)
    rw [spelling, spellings_eq_map, List.cons_append, List.append_assoc,
      build_value (.array [] :: frames, .firstItem) rfl]
    cases items with
    | nil => exact build_step _ rfl ts
    | cons item items =>
      rw [List.forall_mem_cons] at hitems
      rw [List.map_cons, listing, List.append_assoc, build_firstItem, hitems.1,
        List.singleton_append, build_items hitems.2]
      rfl
  | object members ih =>
    intro frames ts
    rw [isWhole_object_iff] at hwhole
    have hmembers : ∀ member ∈ members, member.2.Builds := fun member hmem =>
      ih member hmem (hwhole member hmem)
    rw [spelling, memberSpellings_eq_map, List.cons_append, List.append_assoc,
      build_value (.object [] none :: frames, .firstKey) rfl]
    cases members with
    | nil => exact build_step _ rfl ts
    | cons member members =>
      rw [List.forall_mem_cons] at hmembers
      rw [List.map_cons, listing, List.append_assoc, memberSpelling, List.cons_append,
        List.cons_append, build_key (.inl rfl), hmembers.1, List.singleton_append,
        build_members hmembers.2]
      rfl
  | broken => exact absurd hwhole Bool.false_ne_true

/-- The tokens of a value that was read to its end are read as the value, and none is left over. -/
lemma build_root {value : Source} (hwhole : value.isWhole = true) :
    build ([], .value) value.spelling = (value, []) := by
  have hbuild := build_spelling hwhole [] []
  rwa [List.append_nil, build] at hbuild

end Source

/-! ## The tree of a value -/

open Source (isWhole_array_iff isWhole_object_iff)

mutual

/-- The tree as which a value is read. -/
def tree : Json → Source
  | null => .null
  | bool b => .bool b
  | number n => .number (Nat.toDigits 10 n)
  | string s => .string (some s.toList)
  | array items => .array (trees items)
  | object members => .object (memberTrees members)

/-- The trees of the elements of an array. -/
def trees : List Json → List Source
  | [] => []
  | item :: items => tree item :: trees items

/-- The keys of an object with the trees of their values. -/
def memberTrees : List (String × Json) → List (Option (List Char) × Source)
  | [] => []
  | (key, value) :: members => (some key.toList, tree value) :: memberTrees members

end

lemma tree_object (members : List (String × Json)) :
    tree (.object members) = .object (memberTrees members) := by
  rw [tree]

lemma tree_array (items : List Json) : tree (.array items) = .array (items.map tree) := by
  have htrees : trees items = items.map tree := by
    induction items with
    | nil => rfl
    | cons item items ih => rw [trees, List.map_cons, ih]
  rw [tree, htrees]

mutual

/-- The tree of a value is read to its end. -/
lemma isWhole_tree (j : Json) : (tree j).isWhole = true := by
  match j with
  | null | bool _ | number _ | string _ => rfl
  | array items => exact areWhole_trees items
  | object members => exact membersAreWhole_memberTrees members

lemma areWhole_trees (items : List Json) : Source.areWhole (trees items) = true := by
  match items with
  | [] => rfl
  | item :: items => rw [trees, Source.areWhole, isWhole_tree item, areWhole_trees items]; rfl

lemma membersAreWhole_memberTrees (members : List (String × Json)) :
    Source.membersAreWhole (memberTrees members) = true := by
  match members with
  | [] => rfl
  | (key, value) :: members =>
    rw [memberTrees, Source.membersAreWhole, isWhole_tree value,
      membersAreWhole_memberTrees members]
    rfl

end

mutual

/-- A value is spelled as its tree is. -/
lemma spelling_tree (j : Json) : (tree j).spelling = spelling j := by
  match j with
  | null | bool _ | number _ | string _ => rfl
  | array [] => rfl
  | array (item :: items) =>
    rw [tree, trees, Source.spelling, Source.spellings, Source.listing, spelling_tree item,
      flatMap_spellings_trees items, spelling, List.append_assoc]
  | object [] => rfl
  | object ((key, value) :: members) =>
    rw [tree, memberTrees, Source.spelling, Source.memberSpellings, Source.listing,
      spelling_tree value, flatMap_memberSpellings_memberTrees members, spelling,
      List.append_assoc]
    rfl

lemma flatMap_spellings_trees (items : List Json) :
    (Source.spellings (trees items)).flatMap (.comma :: ·) = spellingItems items := by
  match items with
  | [] => rfl
  | item :: items =>
    rw [trees, Source.spellings, List.flatMap_cons, flatMap_spellings_trees items,
      spelling_tree item, spellingItems, List.cons_append]

lemma flatMap_memberSpellings_memberTrees (members : List (String × Json)) :
    (Source.memberSpellings (memberTrees members)).flatMap (.comma :: ·) =
      spellingMembers members := by
  match members with
  | [] => rfl
  | (key, value) :: members =>
    rw [memberTrees, Source.memberSpellings, List.flatMap_cons,
      flatMap_memberSpellings_memberTrees members, spelling_tree value, spellingMembers]
    rfl

end

/-- A written value is read as its tree, and nothing is left over. -/
theorem ofText_layout (level : Nat) (j : Json) :
    Source.ofText (layout level j) = (tree j, true) := by
  have htokens : tokens (layout level j) = (tree j).spelling := by
    rw [spelling_tree]
    simpa [tokens, lexFrom] using tokens_layout level j endsToken_nil
  rw [Source.ofText, htokens, Source.build_root (isWhole_tree j)]
  rfl

/-- The text of a value is read as its tree. -/
lemma ofText_toList_text (j : Json) : Source.ofText j.text.toList = (tree j, true) := by
  rw [text, String.toList_ofList]
  exact ofText_layout 0 j

end SysReg.Json
