import Mathlib.Logic.Relation
import Mathlib.Tactic.IntervalCases
import SysReg.Proofs.Json.Reading
import SysReg.Proofs.Snapshot.Loading

/-!
# Documents in other words

What is loaded from a document does not depend on how the document is worded.  Its members, and
those of each of its records, may stand in another order and between others at keys that mean
nothing; a record of success may have an error; and there may be any blanks (`ofText_rewording`).

A document that could be read was read to its end (`readsWhole_ofSource`), so its text spells one
tree.  The relation `Rewords` makes one change to this tree.  A change may alter a record, but only
by an error that its reading does not tell, so one change leaves what is loaded as it is
(`exists_ofSource_of_rewords`), and so do many.
-/

namespace SysReg

open Json (Source)

namespace Document

variable {α β : Type}

/-! ## What was read was whole -/

/-- Only values that were read to their end are accepted. -/
def ReadsWhole (read : Source → Result β) : Prop :=
  ∀ source b, read source = .ok b → source.isWhole = true

lemma readsWhole_readText : ReadsWhole readText := by
  intro source text h
  unfold readText at h
  split at h
  · rfl
  · cases h

lemma readsWhole_readText_bind (next : String → Result β) :
    ReadsWhole fun source => readText source >>= next := by
  intro source b h
  obtain ⟨text, htext, -⟩ := bind_eq_ok_iff.1 h
  exact readsWhole_readText source text htext

lemma readsWhole_readBool : ReadsWhole readBool := by
  intro source b h
  unfold readBool at h
  split at h
  · rfl
  · cases h

lemma readsWhole_readVersion : ReadsWhole readVersion := by
  intro source n h
  unfold readVersion at h
  split at h
  · rfl
  · cases h

lemma ReadsWhole.optional {read : Source → Result β} (h : ReadsWhole read) :
    ReadsWhole (readOptional read) := by
  intro source o ho
  unfold readOptional at ho
  split at ho
  · rfl
  · cases hread : read source with
    | ok b => exact h source b hread
    | error fault =>
      rw [hread] at ho
      cases ho

/-- The members of an object were read to their end, those at unknown keys as well. -/
lemma Layout.isWhole_object {add : α → String → Source → Result α} (layout : Layout add)
    (hread : ∀ k, ReadsWhole (layout.read k)) {a b : α}
    {members : List (Option (List Char) × Source)} (h : addMembers add a members = .ok b) :
    (Source.object members).isWhole = true := by
  rw [Source.isWhole_object_iff]
  induction members generalizing a with
  | nil => nofun
  | cons member members ih =>
    obtain ⟨cs, next, -, hadd, hrest⟩ := addMembers_cons_eq_ok_iff.1 h
    refine List.forall_mem_cons.2 ⟨?_, ih hrest⟩
    rcases layout.add_eq_ok_iff.1 hadd with ⟨k, -, -, p, hp, -⟩ | ⟨-, hwhole, -⟩
    · exact hread k _ p hp
    · exact hwhole

/-- The parts of an array were read to their end, as there are no others than those that were read. -/
lemma isWhole_array {items : List Source} {n : Nat} (hlength : items.length ≤ n)
    (h : ∀ i < n, ∀ item, items[i]? = some item → item.isWhole = true) :
    (Source.array items).isWhole = true := by
  rw [Source.isWhole_array_iff]
  intro item hmem
  obtain ⟨i, hi⟩ := List.mem_iff_getElem?.1 hmem
  have hlt : i < items.length := (List.getElem?_eq_some_iff.1 hi).1
  exact h i (hlt.trans_le hlength) item hi

lemma ReadsWhole.item {read : Source → Result β} (h : ReadsWhole read) {items : List Source} {i : Nat}
    {b : β} (hread : readItem items i read = .ok b) (item : Source) (hitem : items[i]? = some item) :
    item.isWhole = true := by
  obtain ⟨_, hfound, hb⟩ := readItem_eq_ok_iff.1 hread
  rw [hfound] at hitem
  cases hitem
  exact h item b hb

lemma readsWhole_record (k : RecordKey) : ReadsWhole (RecordParts.layout.read k) := by
  cases k with
  | name => exact readsWhole_readText
  | encoding => exact readsWhole_readText_bind _
  | value => exact (readsWhole_readText_bind _).optional
  | success => exact readsWhole_readBool
  | time => exact readsWhole_readText_bind _
  | error => exact readsWhole_readText.optional

lemma readsWhole_readRecord : ReadsWhole readRecord := by
  intro source record h
  unfold readRecord at h
  split at h
  · next members =>
    obtain ⟨parts, hadd, -⟩ := bind_eq_ok_iff.1 h
    exact RecordParts.layout.isWhole_object readsWhole_record hadd
  · next items =>
    simp only [bind_eq_ok_iff] at h
    obtain ⟨name, hname, e, hencoding, value, hvalue, success, hsuccess, time, htime, h⟩ := h
    have hparts (i : Nat) (hi : i < 5) (item : Source) (hitem : items[i]? = some item) :
        item.isWhole = true := by
      interval_cases i
      · exact readsWhole_readText.item hname item hitem
      · exact (readsWhole_readText_bind _).item hencoding item hitem
      · exact (readsWhole_readText_bind _).optional.item hvalue item hitem
      · exact readsWhole_readBool.item hsuccess item hitem
      · exact (readsWhole_readText_bind _).item htime item hitem
    split at h
    · next hshort => exact isWhole_array hshort hparts
    · obtain ⟨error, herror, h⟩ := bind_eq_ok_iff.1 h
      split at h
      · next hlength =>
        refine isWhole_array hlength fun i hi => ?_
        rcases Nat.lt_succ_iff_lt_or_eq.1 hi with hlt | rfl
        · exact hparts i hlt
        · exact readsWhole_readText.optional.item herror
      · cases h
  · cases h

lemma readsWhole_readRecords : ReadsWhole readRecords := by
  intro source records h
  obtain ⟨items, rfl, hitems⟩ := readRecords_eq_ok_iff.1 h
  rw [Source.isWhole_array_iff]
  intro item hmem
  obtain ⟨record, -, hrecord⟩ := exists_mem_of_forall₂ hitems hmem
  exact readsWhole_readRecord item record hrecord

lemma readsWhole_document (k : DocumentKey) : ReadsWhole (Parts.layout.read k) := by
  cases k with
  | version => exact readsWhole_readVersion
  | label => exact readsWhole_readText
  | filter => exact (readsWhole_readText_bind _).optional
  | createdAt => exact readsWhole_readText_bind _
  | records => exact readsWhole_readRecords

/-- A document that was read was read to its end. -/
lemma readsWhole_ofSource : ReadsWhole ofSource := by
  intro source d h
  unfold ofSource at h
  split at h
  · next members =>
    obtain ⟨parts, hadd, -⟩ := bind_eq_ok_iff.1 h
    exact Parts.layout.isWhole_object readsWhole_document hadd
  · next items =>
    simp only [bind_eq_ok_iff] at h
    obtain ⟨version, hversion, label, hlabel, filter, hfilter, createdAt, hcreatedAt, records,
      hrecords, hlength⟩ := h
    split at hlength
    · next hle =>
      refine isWhole_array hle fun i hi => ?_
      interval_cases i
      · exact readsWhole_readVersion.item hversion
      · exact readsWhole_readText.item hlabel
      · exact (readsWhole_readText_bind _).optional.item hfilter
      · exact (readsWhole_readText_bind _).item hcreatedAt
      · exact readsWhole_readRecords.item hrecords
    · cases hlength
  · cases h

/-! ## Other words -/

/-- The members of an object in other words, where some keys have a meaning: in another order, or
with one more at a key without meaning, whatever stands there.  A key is a text, so half of a
surrogate pair is none. -/
inductive RewordsMembers (known : List String) :
    List (Option (List Char) × Source) → List (Option (List Char) × Source) → Prop where
  | reordered {members members' : List (Option (List Char) × Source)} (h : members.Perm members') :
      RewordsMembers known members members'
  | extended (before after : List (Option (List Char) × Source)) {key : String} {value : Source}
      (hkey : key ∉ known) (hvalue : value.isWhole = true) :
      RewordsMembers known (before ++ after) (before ++ (some key.toList, value) :: after)

/-- The keys of a record that have a meaning. -/
def recordKeys : List String :=
  ["name", "encoding", "value", "success", "timestamp", "error"]

/-- The members of a record in other words; to a record of success without an error, one may be
added, which is a text or `null`. -/
inductive RewordsRecord :
    List (Option (List Char) × Source) → List (Option (List Char) × Source) → Prop where
  | members {members members' : List (Option (List Char) × Source)}
      (h : RewordsMembers recordKeys members members') : RewordsRecord members members'
  | error (before after : List (Option (List Char) × Source)) {value : Source}
      (hsuccess : (some "success".toList, .bool true) ∈ before ++ after)
      (hnone : ∀ value, (some "error".toList, value) ∉ before ++ after)
      (hvalue : value = .null ∨ ∃ cs, value = .string (some cs)) :
      RewordsRecord (before ++ after) (before ++ (some "error".toList, value) :: after)

/-- The keys of a document that have a meaning. -/
def documentKeys : List String :=
  ["format_version", "label", "category_filter", "created_at", "registers"]

/-- A document in other words, by one change to its members or to those of one of its records. -/
inductive Rewords : Source → Source → Prop where
  | members {members members' : List (Option (List Char) × Source)}
      (h : RewordsMembers documentKeys members members') :
      Rewords (.object members) (.object members')
  | record (before after : List (Option (List Char) × Source)) (earlier later : List Source)
      {members members' : List (Option (List Char) × Source)} (h : RewordsRecord members members') :
      Rewords
        (.object (before ++ (some "registers".toList,
          .array (earlier ++ .object members :: later)) :: after))
        (.object (before ++ (some "registers".toList,
          .array (earlier ++ .object members' :: later)) :: after))

variable {members members' : List (Option (List Char) × Source)} {root root' : Source} {d : Document}

/-- Other words for members make no difference to the parts that are met. -/
lemma Layout.addMembers_of_rewords {add : α → String → Source → Result α} (layout : Layout add)
    {known : List String} (hknown : ∀ k, layout.text k ∈ known)
    (h : RewordsMembers known members members') {a b : α}
    (hadd : addMembers add a members = .ok b) : addMembers add a members' = .ok b := by
  cases h with
  | reordered hperm => exact layout.addMembers_of_perm hperm hadd
  | extended before after hkey hvalue =>
    refine layout.addMembers_middle_eq_ok_iff.2 ⟨b, hadd, ?_⟩
    rw [String.ofList_toList]
    refine layout.add_eq_ok_iff.2 (.inr ⟨fun k hk => ?_, hvalue, rfl⟩)
    exact hkey (hk ▸ hknown k)

lemma exists_readText_optional {value : Source}
    (h : value = .null ∨ ∃ cs, value = .string (some cs)) :
    ∃ error, readOptional readText value = .ok error := by
  rcases h with rfl | ⟨cs, rfl⟩
  · exact ⟨none, rfl⟩
  · exact ⟨some (String.ofList cs), rfl⟩

/-- A record in other words may be another record, but it makes the same reading. -/
lemma exists_readRecord_of_rewords {record : Record} (h : RewordsRecord members members')
    (hread : readRecord (.object members) = .ok record) :
    ∃ record', readRecord (.object members') = .ok record' ∧ record'.reading = record.reading := by
  obtain ⟨parts, hadd, hfinish⟩ := bind_eq_ok_iff.1 hread
  cases h with
  | members h =>
    have hknown (k : RecordKey) : RecordParts.layout.text k ∈ recordKeys := by
      cases k <;> decide
    have hadd' := RecordParts.layout.addMembers_of_rewords hknown h hadd
    exact ⟨record, bind_eq_ok_iff.2 ⟨parts, hadd', hfinish⟩, rfl⟩
  | @error before after value hsuccess hnone hvalue =>
    obtain ⟨error, herror⟩ := exists_readText_optional hvalue
    have hfree : parts.error = none := (RecordParts.layout.fillsPlace .error).place_eq hadd hnone
    have hadd' : addMembers RecordParts.add .empty
        (before ++ (some "error".toList, value) :: after) =
          .ok { parts with error := some error } := by
      refine RecordParts.layout.addMembers_middle_eq_ok_iff.2 ⟨parts, hadd, ?_⟩
      exact RecordParts.layout.add_eq_ok_iff.2 (.inl ⟨.error, rfl, hfree, error, herror, rfl⟩)
    simp only [RecordParts.finish, bind_eq_ok_iff, filled_eq_ok_iff] at hfinish
    obtain ⟨name, hname, e, hencoding, word, hword, success, hsuccessful, time, htime, ⟨⟩⟩ := hfinish
    obtain rfl : true = success := Except.ok.inj
      ((RecordParts.layout.fillsPlace .success).read_eq_ok hadd rfl hsuccessful hsuccess)
    refine ⟨⟨name, e, word, true, time, error⟩, bind_eq_ok_iff.2 ⟨_, hadd', ?_⟩, ?_⟩
    · simp only [RecordParts.finish, bind_eq_ok_iff, filled_eq_ok_iff]
      exact ⟨name, hname, e, hencoding, word, hword, true, hsuccessful, time, htime, rfl⟩
    · cases word <;> rfl

/-- A list of records, of which one is in other words, makes the same readings. -/
lemma exists_readRecords_of_rewords {earlier later : List Source} {records : List Record}
    (h : RewordsRecord members members')
    (hread : readRecords (.array (earlier ++ .object members :: later)) = .ok records) :
    ∃ records', readRecords (.array (earlier ++ .object members' :: later)) = .ok records' ∧
      List.Forall₂ (fun record' record => record'.reading = record.reading) records' records := by
  simp only [readRecords, List.mapM_append, List.mapM_cons, bind_eq_ok_iff] at hread ⊢
  obtain ⟨before, hbefore, _, ⟨record, hrecord, after, hafter, ⟨⟩⟩, ⟨⟩⟩ := hread
  obtain ⟨record', hrecord', hreading⟩ := exists_readRecord_of_rewords h hrecord
  refine ⟨_, ⟨before, hbefore, _, ⟨record', hrecord', after, hafter, rfl⟩, rfl⟩, ?_⟩
  exact List.rel_append (List.forall₂_refl before) (.cons hreading (List.forall₂_refl after))

/-- Documents whose records make the same readings are loaded alike. -/
lemma ofDocument_congr {version : Nat} {label : String} {filter : Option Category}
    {createdAt : Time} {records records' : List Record}
    (h : List.Forall₂ (fun record' record => record'.reading = record.reading) records' records) :
    Snapshot.ofDocument ⟨version, label, filter, createdAt, records'⟩ =
      Snapshot.ofDocument ⟨version, label, filter, createdAt, records⟩ := by
  have hfold (s : Snapshot) :
      records'.foldlM Snapshot.pushRecord s = records.foldlM Snapshot.pushRecord s := by
    induction h generalizing s with
    | nil => rfl
    | cons hreading _ ih =>
      simp only [List.foldlM_cons, Snapshot.pushRecord, hreading, ih]
  unfold Snapshot.ofDocument
  rw [hfold]

/-- A change that only rewords a document leaves what is loaded from it as it is. -/
lemma exists_ofSource_of_rewords (h : Rewords root root') (hread : ofSource root = .ok d) :
    ∃ d', ofSource root' = .ok d' ∧ Snapshot.ofDocument d' = Snapshot.ofDocument d := by
  cases h with
  | members h =>
    obtain ⟨parts, hadd, hfinish⟩ := bind_eq_ok_iff.1 hread
    have hknown (k : DocumentKey) : Parts.layout.text k ∈ documentKeys := by
      cases k <;> decide
    have hadd' := Parts.layout.addMembers_of_rewords hknown h hadd
    exact ⟨d, bind_eq_ok_iff.2 ⟨parts, hadd', hfinish⟩, rfl⟩
  | record before after earlier later h =>
    obtain ⟨parts, hadd, hfinish⟩ := bind_eq_ok_iff.1 hread
    obtain ⟨others, hothers, hlist⟩ := Parts.layout.addMembers_middle_eq_ok_iff.1 hadd
    obtain ⟨hfree, records, hrecords, rfl⟩ := (Parts.layout.add_text_eq_ok_iff .records).1 hlist
    obtain ⟨records', hrecords', hreadings⟩ := exists_readRecords_of_rewords h hrecords
    have hlist' : Parts.add others "registers" (.array (earlier ++ .object _ :: later)) =
        .ok { others with records := some records' } :=
      (Parts.layout.add_text_eq_ok_iff .records).2 ⟨hfree, records', hrecords', rfl⟩
    have hadd' := Parts.layout.addMembers_middle_eq_ok_iff.2 ⟨others, hothers, hlist'⟩
    simp only [Parts.finish, bind_eq_ok_iff, filled_eq_ok_iff] at hfinish
    obtain ⟨label, hlabel, filter, hfilter, createdAt, hcreatedAt, found, hfound, ⟨⟩⟩ := hfinish
    cases hfound
    refine ⟨_, bind_eq_ok_iff.2 ⟨_, hadd', ?_⟩, ofDocument_congr hreadings⟩
    simp only [Parts.finish, bind_eq_ok_iff, filled_eq_ok_iff]
    exact ⟨label, hlabel, filter, hfilter, createdAt, hcreatedAt, records', rfl, rfl⟩

/-- Any number of such changes leave it as it is. -/
lemma exists_ofSource_of_reworded (h : Relation.ReflTransGen Rewords root root')
    (hread : ofSource root = .ok d) :
    ∃ d', ofSource root' = .ok d' ∧ Snapshot.ofDocument d' = Snapshot.ofDocument d := by
  induction h with
  | refl => exact ⟨d, hread, rfl⟩
  | tail _ hstep ih =>
    obtain ⟨between, hbetween, hload⟩ := ih
    obtain ⟨d', hd', hload'⟩ := exists_ofSource_of_rewords hstep hbetween
    exact ⟨d', hd', hload'.trans hload⟩

end Document

namespace Snapshot

/-- **Wording does not matter.**  A text that is loaded spells one tree.  Every text that spells this
tree, or one that it was reworded to by any number of changes, with any blanks, is loaded as the same
snapshot. -/
theorem ofText_rewording {text : String} {s : Snapshot} (h : ofText text = .ok s) :
    ∃ root : Source, (∀ other : Source, other.Spells text.toList ↔ other = root) ∧
      ∀ root' text', Relation.ReflTransGen Document.Rewords root root' →
        root'.Spells text'.toList → ofText text' = .ok s := by
  obtain ⟨d, hd, hload⟩ := ofText_eq_ok_iff.1 h
  obtain ⟨hread, hended⟩ := Document.ofText_eq_ok_iff.1 hd
  have hwhole := Document.readsWhole_ofSource _ d hread
  refine ⟨(Source.ofText text.toList).1, fun other => ?_, fun root' text' hreworded hspells => ?_⟩
  · rw [Source.spells_iff]
    constructor
    · rintro ⟨htext, -⟩
      rw [htext]
    · rintro rfl
      exact ⟨Prod.ext rfl hended, hwhole⟩
  · obtain ⟨d', hd', hsame⟩ := Document.exists_ofSource_of_reworded hreworded hread
    have htext := (Source.spells_iff.1 hspells).1
    refine ofText_eq_ok_iff.2 ⟨d', Document.ofText_eq_ok_iff.2 ?_, hsame.trans hload⟩
    rw [htext]
    exact ⟨hd', rfl⟩

/-- A snapshot of one register. -/
def terse : Snapshot :=
  ⟨"", none, .epoch, [⟨"HID0", .truncating 3 0 15 0 0, .epoch, .value 0⟩], List.pairwise_singleton _ _⟩

/-- What its document says, apart from the records. -/
def terseHead : List (String × Json) :=
  [("format_version", .number 1), ("label", .string ""), ("category_filter", .null),
    ("created_at", .string "1970-01-01T00:00:00Z")]

/-- What its document says in the record. -/
def terseRecord : List (String × Json) :=
  [("name", .string "HID0"), ("encoding", .string "s3_0_c15_c0_0"),
    ("value", .string "0x0000000000000000"), ("success", .bool true),
    ("timestamp", .string "1970-01-01T00:00:00Z")]

/-- The record with an error and a comment. -/
def garrulousRecord : List (String × Json) :=
  ("error", .string "none") :: terseRecord ++ [("comment", .null)]

/-- The document with this record and a comment of its own. -/
def garrulous : List (String × Json) :=
  terseHead ++ [("registers", .array [.object garrulousRecord]), ("comment", .array [.null, .object []])]

lemma json_terse : (Document.ofSnapshot terse).json =
    .object (terseHead ++ [("registers", .array [.object terseRecord])]) := by
  have hencoding : (Encoding.truncating 3 0 15 0 0).canonical = "s3_0_c15_c0_0" := by decide
  have hepoch : Time.epoch.zuluText = "1970-01-01T00:00:00Z" := by decide
  have hvalue : (0 : Word).padded = "0x0000000000000000" := by decide
  simp only [terse, terseHead, terseRecord, Document.ofSnapshot, Document.json, Record.json,
    Record.ofReading, List.map, hencoding, hepoch, hvalue, Reading.value?, Reading.detail?,
    Reading.succeeded, Option.map, Json.optionalMember, Json.optionalString, documentVersion]
  rfl

/-- In reverse and after a blank, the longer document is loaded as the same snapshot. -/
theorem ofText_rewording_garrulous : ofText terse.text = .ok terse ∧
    ofText ("\n" ++ (Json.object garrulous.reverse).text) = .ok terse := by
  have hterse : ofText terse.text = .ok terse := ofText_text (by decide)
  refine ⟨hterse, ?_⟩
  obtain ⟨root, hroot, hreworded⟩ := ofText_rewording hterse
  obtain rfl := (hroot _).1 (Source.spells_text (Document.ofSnapshot terse).json)
  rw [json_terse] at hreworded
  have hspells : (Json.tree (.object garrulous.reverse)).Spells
      ("\n" ++ (Json.object garrulous.reverse).text).toList := by
    rw [String.toList_append]
    exact (Source.spells_text _).blank (by decide)
  have hsuccess : (some "success".toList, .bool true) ∈ Json.memberTrees terseRecord := by
    simp [terseRecord, Json.memberTrees, Json.tree]
  have hnone (value : Source) : (some "error".toList, value) ∉ Json.memberTrees terseRecord := by
    simp [terseRecord, Json.memberTrees, Json.tree]
  -- The error, the comment of the record, the comment of the document, and the other order.
  have herror := Document.Rewords.record (Json.memberTrees terseHead) [] [] []
    (.error [] (Json.memberTrees terseRecord) hsuccess hnone (.inr ⟨"none".toList, rfl⟩))
  have hrecord := Document.Rewords.record (Json.memberTrees terseHead) [] [] []
    (.members (@Document.RewordsMembers.extended Document.recordKeys
      (Json.memberTrees (("error", .string "none") :: terseRecord)) [] "comment" .null
      (by decide) rfl))
  have hcomment := Document.Rewords.members (@Document.RewordsMembers.extended Document.documentKeys
    (Json.memberTrees (terseHead ++ [("registers", .array [.object garrulousRecord])])) [] "comment"
    (Json.tree (.array [.null, .object []])) (by decide) (Json.isWhole_tree _))
  have hreverse := Document.Rewords.members
    (.reordered (List.reverse_perm (Json.memberTrees garrulous)).symm)
  have hchain := (((Relation.ReflTransGen.single herror).tail hrecord).tail hcomment).tail hreverse
  exact hreworded _ _ hchain hspells

end Snapshot
end SysReg
