import SysReg.Proofs.Encoding.Spelling
import SysReg.Proofs.Result
import SysReg.Snapshot.Document

/-!
# Where the parts of a document come from

An object is read member by member.  Each key of the format has a place of its own, which takes one
value and refuses a second one, so a place that is filled in the end was filled by the one member
with its key, wherever that member stands (`FillsPlace.exists_source`).

A record and a document are objects of this kind (`Layout`), and what one member does to the parts is
said once for both (`Layout.add_eq_ok_iff`).  As places of different keys do not touch each other, the
order of the members makes no difference (`Layout.addMembers_of_perm`).

Two things follow for a document that could be read.  Its records are what the elements of its list
of registers are read as, one for each element and in their order (`exists_items_of_ofSource`), and
every encoding in them is that of a system register, since no other one passes the strict reader
(`isSystemRegister_of_readRecord`).
-/

namespace SysReg.Document

open Json (Source)

variable {α β : Type}

/-! ## Single parts -/

lemma fill_eq_ok_iff {place place' : Option α} {value : Result α} :
    fill place value = .ok place' ↔ place = none ∧ ∃ a, value = .ok a ∧ place' = some a := by
  cases place with
  | some _ => simp [fill]
  | none => cases value <;> simp [fill, Except.map, eq_comm]

lemma filled_eq_ok_iff {place : Option α} {a : α} : filled place = .ok a ↔ place = some a := by
  cases place <;> simp [filled]

lemma readItem_eq_ok_iff {items : List Source} {position : Nat} {read : Source → Result α} {a : α} :
    readItem items position read = .ok a ↔
      ∃ source, items[position]? = some source ∧ read source = .ok a := by
  unfold readItem
  cases items[position]? <;> simp

/-! ## The places of an object -/

/-- The values of the members with a key, in their order. -/
def valuesAt (members : List (Option (List Char) × Source)) (key : String) : List Source :=
  (members.filter fun m => m.1 = some key.toList).map (·.2)

lemma mem_valuesAt_iff {members : List (Option (List Char) × Source)} {key : String}
    {source : Source} :
    source ∈ valuesAt members key ↔ (some key.toList, source) ∈ members := by
  simp [valuesAt]

lemma valuesAt_cons (cs : List Char) (source : Source)
    (members : List (Option (List Char) × Source)) (key : String) :
    valuesAt ((some cs, source) :: members) key =
      if String.ofList cs = key then source :: valuesAt members key else valuesAt members key := by
  have hkey : String.ofList cs = key ↔ cs = key.toList := by
    rw [← String.toList_inj, String.toList_ofList]
  by_cases hcs : cs = key.toList
  · rw [if_pos (hkey.2 hcs)]
    simp [valuesAt, hcs]
  · rw [if_neg (mt hkey.1 hcs)]
    simp [valuesAt, hcs]

lemma addMembers_cons_eq_ok_iff {add : α → String → Source → Result α} {a b : α}
    {member : Option (List Char) × Source} {members : List (Option (List Char) × Source)} :
    addMembers add a (member :: members) = .ok b ↔ ∃ cs next, member.1 = some cs ∧
      add a (String.ofList cs) member.2 = .ok next ∧ addMembers add next members = .ok b := by
  obtain ⟨_ | cs, source⟩ := member
  · exact iff_of_false nofun nofun
  · rw [addMembers, bind_eq_ok_iff]
    simp

lemma addMembers_append (add : α → String → Source → Result α) (a : α)
    (members members' : List (Option (List Char) × Source)) :
    addMembers add a (members ++ members') =
      addMembers add a members >>= fun b => addMembers add b members' := by
  induction members generalizing a with
  | nil => rfl
  | cons member members ih =>
    obtain ⟨_ | cs, source⟩ := member
    · rfl
    · simp only [List.cons_append, addMembers, ih, bind_assoc]

/-- A member with the key fills the place with what is read from it, and no other member does. -/
def FillsPlace (add : α → String → Source → Result α) (place : α → Option β) (key : String)
    (read : Source → Result β) : Prop :=
  ∀ parts key' source parts', add parts key' source = .ok parts' →
    if key' = key then fill (place parts) (read source) = .ok (place parts')
    else place parts' = place parts

/-- A free place that values fill one after the other is filled by one value. -/
lemma exists_of_foldlM_fill {read : Source → Result β} {sources : List Source} {b : β}
    (h : sources.foldlM (fun place source => fill place (read source)) none = .ok (some b)) :
    ∃ source, sources = [source] ∧ read source = .ok b := by
  cases sources with
  | nil => cases h
  | cons source rest =>
    obtain ⟨place, hfirst, hrest⟩ := bind_eq_ok_iff.1 h
    obtain ⟨-, a, hread, rfl⟩ := fill_eq_ok_iff.1 hfirst
    cases rest with
    | nil =>
      cases hrest
      exact ⟨source, rfl, hread⟩
    | cons again rest =>
      obtain ⟨place, hagain, -⟩ := bind_eq_ok_iff.1 hrest
      cases (fill_eq_ok_iff.1 hagain).1

namespace FillsPlace

variable {add : α → String → Source → Result α} {place : α → Option β} {key : String}
  {read : Source → Result β} {parts parts' : α} {members : List (Option (List Char) × Source)}

/-- What adding the members of an object makes of a place depends on the values at its key. -/
lemma foldlM_fill (h : FillsPlace add place key read)
    (hadd : addMembers add parts members = .ok parts') :
    (valuesAt members key).foldlM (fun place source => fill place (read source)) (place parts) =
      .ok (place parts') := by
  induction members generalizing parts with
  | nil =>
    cases hadd
    rfl
  | cons member members ih =>
    obtain ⟨found, source⟩ := member
    cases found with
    | none => cases hadd
    | some cs =>
      obtain ⟨next, hfirst, hrest⟩ := bind_eq_ok_iff.1 hadd
      have hstep := h _ _ _ _ hfirst
      rw [valuesAt_cons]
      by_cases hkey : String.ofList cs = key
      · rw [if_pos hkey] at hstep ⊢
        exact bind_eq_ok_iff.2 ⟨_, hstep, ih hrest⟩
      · rw [if_neg hkey] at hstep ⊢
        rw [← hstep]
        exact ih hrest

/-- A place that was free and is filled in the end holds what is read from the one member with its
key. -/
lemma exists_source (h : FillsPlace add place key read)
    (hadd : addMembers add parts members = .ok parts') (hfree : place parts = none) {b : β}
    (hplace : place parts' = some b) :
    ∃ source, valuesAt members key = [source] ∧ read source = .ok b := by
  have hfold := h.foldlM_fill hadd
  rw [hfree, hplace] at hfold
  exact exists_of_foldlM_fill hfold

/-- A place without a member stays as it was. -/
lemma place_eq (h : FillsPlace add place key read) (hadd : addMembers add parts members = .ok parts')
    (hnone : ∀ source, (some key.toList, source) ∉ members) : place parts' = place parts := by
  have hempty : valuesAt members key = [] :=
    List.eq_nil_iff_forall_not_mem.2 fun source => mt mem_valuesAt_iff.1 (hnone source)
  have hfold := h.foldlM_fill hadd
  rw [hempty] at hfold
  exact (Except.ok.inj hfold).symm

/-- A place that was free and is filled in the end holds what is read from any member with its key. -/
lemma read_eq_ok (h : FillsPlace add place key read)
    (hadd : addMembers add parts members = .ok parts') (hfree : place parts = none) {b : β}
    (hplace : place parts' = some b) {source : Source}
    (hmem : (some key.toList, source) ∈ members) : read source = .ok b := by
  obtain ⟨only, honce, hread⟩ := h.exists_source hadd hfree hplace
  have hmem : source ∈ [only] := honce ▸ mem_valuesAt_iff.2 hmem
  rwa [List.mem_singleton.1 hmem]

end FillsPlace

/-! ## The keys of an object -/

/-- The keys of a kind of object.  Each key has a place of its own among the parts, which takes what
is read from the value there; a value at any other key is passed over. -/
structure Layout (add : α → String → Source → Result α) where
  Key : Type
  text : Key → String
  Part : Key → Type
  read : (k : Key) → Source → Result (Part k)
  place : (k : Key) → α → Option (Part k)
  put : (k : Key) → Option (Part k) → α → α
  text_injective : text.Injective
  ext {a b : α} (h : ∀ k, place k a = place k b) : a = b
  place_put (k : Key) (p : Option (Part k)) (a : α) : place k (put k p a) = p
  place_put_of_ne {j k : Key} (h : j ≠ k) (p : Option (Part k)) (a : α) :
    place j (put k p a) = place j a
  add_text (a : α) (k : Key) (source : Source) :
    add a (text k) source = do return put k (← fill (place k a) (read k source)) a
  add_of_unknown {key : String} (h : ∀ k, text k ≠ key) (a : α) (source : Source) :
    add a key source = passOver a source

lemma passOver_eq_ok_iff {a b : α} {source : Source} :
    passOver a source = .ok b ↔ source.isWhole = true ∧ b = a := by
  unfold passOver
  split
  · next hwhole => simp [hwhole, eq_comm]
  · next hwhole => exact iff_of_false nofun fun h => hwhole h.1

namespace Layout

variable {add : α → String → Source → Result α} (layout : Layout add) {a b c : α} {key : String}
  {source : Source} {members members' : List (Option (List Char) × Source)}

/-- A member at a key fills the place of the key, which has to be free. -/
lemma add_text_eq_ok_iff (k : layout.Key) :
    add a (layout.text k) source = .ok b ↔
      layout.place k a = none ∧ ∃ p, layout.read k source = .ok p ∧ b = layout.put k (some p) a := by
  rw [layout.add_text, bind_eq_ok_iff]
  constructor
  · rintro ⟨place, hfill, ⟨⟩⟩
    obtain ⟨hfree, p, hread, rfl⟩ := fill_eq_ok_iff.1 hfill
    exact ⟨hfree, p, hread, rfl⟩
  · rintro ⟨hfree, p, hread, rfl⟩
    exact ⟨some p, fill_eq_ok_iff.2 ⟨hfree, p, hread, rfl⟩, rfl⟩

/-- What one member does: it fills the free place of its key, or it is passed over. -/
lemma add_eq_ok_iff :
    add a key source = .ok b ↔
      (∃ k, layout.text k = key ∧ layout.place k a = none ∧
        ∃ p, layout.read k source = .ok p ∧ b = layout.put k (some p) a) ∨
      (∀ k, layout.text k ≠ key) ∧ source.isWhole = true ∧ b = a := by
  by_cases hknown : ∃ k, layout.text k = key
  · obtain ⟨k, rfl⟩ := hknown
    rw [layout.add_text_eq_ok_iff]
    constructor
    · exact fun h => .inl ⟨k, rfl, h⟩
    · rintro (⟨j, hj, h⟩ | ⟨hunknown, -⟩)
      · obtain rfl := layout.text_injective hj
        exact h
      · exact absurd rfl (hunknown k)
  · rw [not_exists] at hknown
    rw [layout.add_of_unknown hknown, passOver_eq_ok_iff]
    constructor
    · exact fun h => .inr ⟨hknown, h⟩
    · rintro (⟨k, hk, -⟩ | ⟨-, h⟩)
      · exact absurd hk (hknown k)
      · exact h

lemma fillsPlace (k : layout.Key) :
    FillsPlace add (layout.place k) (layout.text k) (layout.read k) := by
  intro a key source b h
  rcases layout.add_eq_ok_iff.1 h with ⟨j, rfl, hfree, p, hread, rfl⟩ | ⟨hunknown, -, rfl⟩
  · by_cases hkey : j = k
    · subst hkey
      rw [if_pos rfl, layout.place_put]
      exact fill_eq_ok_iff.2 ⟨hfree, p, hread, rfl⟩
    · rw [if_neg fun h => hkey (layout.text_injective h)]
      exact layout.place_put_of_ne (Ne.symm hkey) _ _
  · rw [if_neg (hunknown k).symm]

/-! ### Members in another order -/

/-- Places of different keys may be filled in either order. -/
lemma put_comm {j k : layout.Key} (h : j ≠ k) (p : Option (layout.Part j))
    (q : Option (layout.Part k)) (a : α) :
    layout.put j p (layout.put k q a) = layout.put k q (layout.put j p a) := by
  refine layout.ext fun i => ?_
  by_cases hj : i = j
  · subst hj
    rw [layout.place_put, layout.place_put_of_ne h, layout.place_put]
  · rw [layout.place_put_of_ne hj]
    by_cases hk : i = k
    · subst hk
      rw [layout.place_put, layout.place_put]
    · rw [layout.place_put_of_ne hk, layout.place_put_of_ne hk, layout.place_put_of_ne hj]

include layout

/-- Two members that were added one after the other can be added the other way round. -/
lemma exists_add_swapped {key' : String} {source' : Source} (h : add a key source = .ok b)
    (h' : add b key' source' = .ok c) : ∃ b', add a key' source' = .ok b' ∧
      add b' key source = .ok c := by
  simp only [layout.add_eq_ok_iff] at h h' ⊢
  rcases h with ⟨k, rfl, hfree, p, hread, rfl⟩ | ⟨hunknown, hwhole, rfl⟩
  · rcases h' with ⟨j, rfl, hfree', q, hread', rfl⟩ | ⟨hunknown', hwhole', rfl⟩
    · have hne : j ≠ k := by
        rintro rfl
        rw [layout.place_put] at hfree'
        cases hfree'
      rw [layout.place_put_of_ne hne] at hfree'
      refine ⟨_, .inl ⟨j, rfl, hfree', q, hread', rfl⟩, .inl ⟨k, rfl, ?_, p, hread, ?_⟩⟩
      · rwa [layout.place_put_of_ne hne.symm]
      · exact layout.put_comm hne _ _ _
    · exact ⟨a, .inr ⟨hunknown', hwhole', rfl⟩, .inl ⟨k, rfl, hfree, p, hread, rfl⟩⟩
  · exact ⟨c, h', .inr ⟨hunknown, hwhole, rfl⟩⟩

/-- The order of the members makes no difference to what is read. -/
lemma addMembers_of_perm (hperm : members.Perm members')
    (h : addMembers add a members = .ok b) : addMembers add a members' = .ok b := by
  induction hperm generalizing a with
  | nil => exact h
  | cons member _ ih =>
    obtain ⟨cs, next, hkey, hadd, hrest⟩ := addMembers_cons_eq_ok_iff.1 h
    exact addMembers_cons_eq_ok_iff.2 ⟨cs, next, hkey, hadd, ih hrest⟩
  | swap first second members =>
    obtain ⟨cs, next, hkey, hadd, hrest⟩ := addMembers_cons_eq_ok_iff.1 h
    obtain ⟨cs', next', hkey', hadd', hrest'⟩ := addMembers_cons_eq_ok_iff.1 hrest
    obtain ⟨between, hfirst, hsecond⟩ := layout.exists_add_swapped hadd hadd'
    exact addMembers_cons_eq_ok_iff.2 ⟨cs', between, hkey', hfirst,
      addMembers_cons_eq_ok_iff.2 ⟨cs, next', hkey, hsecond, hrest'⟩⟩
  | trans _ _ ih ih' => exact ih' (ih h)

/-- A member may as well be added after all others. -/
lemma addMembers_middle_eq_ok_iff {before after : List (Option (List Char) × Source)}
    {cs : List Char} :
    addMembers add a (before ++ (some cs, source) :: after) = .ok c ↔
      ∃ b, addMembers add a (before ++ after) = .ok b ∧
        add b (String.ofList cs) source = .ok c := by
  have hperm : (before ++ (some cs, source) :: after).Perm (before ++ after ++ [(some cs, source)]) :=
    List.perm_middle.trans (List.perm_append_singleton _ _).symm
  have hlast : addMembers add a (before ++ after ++ [(some cs, source)]) = .ok c ↔
      ∃ b, addMembers add a (before ++ after) = .ok b ∧
        add b (String.ofList cs) source = .ok c := by
    simp only [addMembers_append, bind_eq_ok_iff, addMembers_cons_eq_ok_iff]
    simp [addMembers]
  rw [← hlast]
  exact ⟨layout.addMembers_of_perm hperm, layout.addMembers_of_perm hperm.symm⟩

end Layout

/-- The keys of a record. -/
inductive RecordKey where
  | name
  | encoding
  | value
  | success
  | time
  | error

/-- The places of a record. -/
def RecordParts.layout : Layout RecordParts.add where
  Key := RecordKey
  text
    | .name => "name"
    | .encoding => "encoding"
    | .value => "value"
    | .success => "success"
    | .time => "timestamp"
    | .error => "error"
  Part
    | .name => String
    | .encoding => Encoding
    | .value => Option Word
    | .success => Bool
    | .time => Time
    | .error => Option String
  read
    | .name => readText
    | .encoding => readEncoding
    | .value => readOptional readWord
    | .success => readBool
    | .time => readTime
    | .error => readOptional readText
  place
    | .name, parts => parts.name
    | .encoding, parts => parts.encoding
    | .value, parts => parts.value
    | .success, parts => parts.success
    | .time, parts => parts.time
    | .error, parts => parts.error
  put
    | .name, p, parts => { parts with name := p }
    | .encoding, p, parts => { parts with encoding := p }
    | .value, p, parts => { parts with value := p }
    | .success, p, parts => { parts with success := p }
    | .time, p, parts => { parts with time := p }
    | .error, p, parts => { parts with error := p }
  text_injective j k h := by cases j <;> cases k <;> first | rfl | exact absurd h (by decide)
  ext {a b} h := by
    obtain ⟨name, encoding, value, success, time, error⟩ := a
    rw [RecordParts.mk.injEq]
    exact ⟨h .name, h .encoding, h .value, h .success, h .time, h .error⟩
  place_put k p a := by cases k <;> rfl
  place_put_of_ne {j k} h p a := by cases j <;> cases k <;> first | rfl | exact absurd rfl h
  add_text a k source := by cases k <;> rfl
  add_of_unknown {key} h a source := by
    unfold RecordParts.add
    split
    · exact absurd rfl (h .name)
    · exact absurd rfl (h .encoding)
    · exact absurd rfl (h .value)
    · exact absurd rfl (h .success)
    · exact absurd rfl (h .time)
    · exact absurd rfl (h .error)
    · rfl

/-- The keys of a document. -/
inductive DocumentKey where
  | version
  | label
  | filter
  | createdAt
  | records

/-- The places of a document. -/
def Parts.layout : Layout Parts.add where
  Key := DocumentKey
  text
    | .version => "format_version"
    | .label => "label"
    | .filter => "category_filter"
    | .createdAt => "created_at"
    | .records => "registers"
  Part
    | .version => Nat
    | .label => String
    | .filter => Option Category
    | .createdAt => Time
    | .records => List Record
  read
    | .version => readVersion
    | .label => readText
    | .filter => readOptional readCategory
    | .createdAt => readTime
    | .records => readRecords
  place
    | .version, parts => parts.version
    | .label, parts => parts.label
    | .filter, parts => parts.filter
    | .createdAt, parts => parts.createdAt
    | .records, parts => parts.records
  put
    | .version, p, parts => { parts with version := p }
    | .label, p, parts => { parts with label := p }
    | .filter, p, parts => { parts with filter := p }
    | .createdAt, p, parts => { parts with createdAt := p }
    | .records, p, parts => { parts with records := p }
  text_injective j k h := by cases j <;> cases k <;> first | rfl | exact absurd h (by decide)
  ext {a b} h := by
    obtain ⟨version, label, filter, createdAt, records⟩ := a
    rw [Parts.mk.injEq]
    exact ⟨h .version, h .label, h .filter, h .createdAt, h .records⟩
  place_put k p a := by cases k <;> rfl
  place_put_of_ne {j k} h p a := by cases j <;> cases k <;> first | rfl | exact absurd rfl h
  add_text a k source := by cases k <;> rfl
  add_of_unknown {key} h a source := by
    unfold Parts.add
    split
    · exact absurd rfl (h .version)
    · exact absurd rfl (h .label)
    · exact absurd rfl (h .filter)
    · exact absurd rfl (h .createdAt)
    · exact absurd rfl (h .records)
    · rfl

/-! ## Encodings -/

lemma isSystemRegister_of_readEncoding {source : Source} {e : Encoding}
    (h : readEncoding source = .ok e) : e.isSystemRegister = true := by
  obtain ⟨text, -, h⟩ := bind_eq_ok_iff.1 h
  cases hread : Encoding.ofCanonical text with
  | error fault =>
    rw [hread] at h
    cases h
  | ok found =>
    rw [hread] at h
    cases h
    exact (Encoding.eq_canonical_of_ofCanonical hread).1

/-- A record that could be read is one of a system register. -/
lemma isSystemRegister_of_readRecord {item : Source} {record : Record}
    (h : readRecord item = .ok record) : record.encoding.isSystemRegister = true := by
  unfold readRecord at h
  split at h
  · next members =>
    obtain ⟨parts, hadd, hfinish⟩ := bind_eq_ok_iff.1 h
    simp only [RecordParts.finish, bind_eq_ok_iff, filled_eq_ok_iff] at hfinish
    obtain ⟨name, -, e, hencoding, value, -, success, -, time, -, ⟨⟩⟩ := hfinish
    obtain ⟨source, -, hread⟩ :=
      (RecordParts.layout.fillsPlace .encoding).exists_source hadd rfl hencoding
    exact isSystemRegister_of_readEncoding hread
  · next items =>
    simp only [bind_eq_ok_iff] at h
    obtain ⟨name, -, e, hencoding, value, -, success, -, time, -, h⟩ := h
    obtain ⟨source, -, hread⟩ := readItem_eq_ok_iff.1 hencoding
    have hsystem := isSystemRegister_of_readEncoding hread
    -- The error may be left off the array; the encoding is the same either way.
    split at h <;> obtain ⟨error, -, h⟩ := bind_eq_ok_iff.1 h <;> split at h <;> cases h <;>
      exact hsystem
  · cases h

/-! ## The list of registers -/

/-- The elements of the list of registers of a document, which is the one member of that name of an
object and the fifth part of an array. -/
inductive Lists : Source → List Source → Prop
  | object {members : List (Option (List Char) × Source)} {items : List Source}
      (h : valuesAt members "registers" = [.array items]) : Lists (.object members) items
  | array {parts items : List Source} (h : parts[4]? = some (.array items)) :
      Lists (.array parts) items

/-- A list of records is read element by element. -/
lemma readRecords_eq_ok_iff {source : Source} {records : List Record} :
    readRecords source = .ok records ↔ ∃ items, source = .array items ∧
      List.Forall₂ (fun item record => readRecord item = .ok record) items records := by
  cases source <;> simp [readRecords, mapM_eq_ok_iff]

/-- The records of a document are those that its list of registers is read as. -/
lemma exists_items_of_ofSource {root : Source} {d : Document} (h : ofSource root = .ok d) :
    ∃ items, Lists root items ∧
      List.Forall₂ (fun item record => readRecord item = .ok record) items d.records := by
  unfold ofSource at h
  split at h
  · next members =>
    obtain ⟨parts, hadd, hfinish⟩ := bind_eq_ok_iff.1 h
    simp only [Parts.finish, bind_eq_ok_iff, filled_eq_ok_iff] at hfinish
    obtain ⟨label, -, filter, -, createdAt, -, records, hrecords, ⟨⟩⟩ := hfinish
    obtain ⟨source, honce, hread⟩ := (Parts.layout.fillsPlace .records).exists_source hadd rfl hrecords
    obtain ⟨items, rfl, hitems⟩ := readRecords_eq_ok_iff.1 hread
    exact ⟨items, .object honce, hitems⟩
  · next parts =>
    simp only [bind_eq_ok_iff] at h
    obtain ⟨version, -, label, -, filter, -, createdAt, -, records, hrecords, hlength⟩ := h
    obtain ⟨source, hsource, hread⟩ := readItem_eq_ok_iff.1 hrecords
    obtain ⟨items, rfl, hitems⟩ := readRecords_eq_ok_iff.1 hread
    split at hlength
    · cases hlength
      exact ⟨items, .array hsource, hitems⟩
    · cases hlength
  · cases h

/-- A text is read as a document if its tree is and nothing follows it. -/
lemma ofText_eq_ok_iff {text : String} {d : Document} :
    Document.ofText text = .ok d ↔
      ofSource (Source.ofText text.toList).1 = .ok d ∧ (Source.ofText text.toList).2 = true := by
  unfold Document.ofText
  simp only [bind_eq_ok_iff]
  constructor
  · rintro ⟨found, hread, h⟩
    split at h
    · next hended =>
      cases h
      exact ⟨hread, hended⟩
    · cases h
  · rintro ⟨hread, hended⟩
    exact ⟨d, hread, by rw [if_pos hended]; rfl⟩

end SysReg.Document
