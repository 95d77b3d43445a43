import SysReg.Catalog.Search
import SysReg.Proofs.Catalog.Lookup
import SysReg.Proofs.Text.Blank
import SysReg.Proofs.Text.Lower

/-!
# Searching finds what matches, in order

A search goes through the registers, and through the fields of each.  `search_exact` says what it
finds: exactly the matching parts, none of them twice, in the order of the catalog and for a register
the whole before its fields.  A query that contains another one finds no more than that one does.

The last point does not hold of the hits themselves.  A register is only found by its description
while its name does not match, so a longer query may find a description where the shorter one has
found the name.  What narrows is which registers are found as a whole, and which fields (`Narrows`).

Letter case aside, a search looks for one text inside another, so a query should in any case find the
names and labels in which it stands literally.  It does not always: the query is put into lower case
on its own, and there a capital sigma at its end becomes a final one, although in the name the word
goes on.  `findsLiterally_iff` says which queries find all of their literal occurrences, whatever the
catalog: those without a sigma at their edge that could be read in two ways (`Text.Exposed`).  Of the
other queries it says which occurrences are found at any rate, namely those in which every sigma ends
a word in the name exactly if it does in the query.
-/

namespace SysReg

variable {c : Catalog} {d : Definition} {query longer text : String}

/-! ## Matching -/

/-- The text contains the query in lower case, blanks around the query aside. -/
def Matches (query text : String) : Prop :=
  needleOf query <:+: Text.lower text.toList

lemma matchesNeedle_iff : matchesNeedle (needleOf query) text = true ↔ Matches query text :=
  Text.contains_iff

lemma Matches.of_contained (h : Matches longer text) (hneedle : needleOf query <:+: needleOf longer) :
    Matches query text :=
  hneedle.trans h

lemma needleOf_eq_nil_iff : needleOf query = [] ↔ Text.trim query.toList = [] :=
  Text.lower_eq_nil_iff

/-- The parts of a register that a query finds. -/
inductive Definition.Hits (d : Definition) (query : String) : MatchedPart → Prop
  | name (h : Matches query d.name) : Hits d query .name
  /-- The description is only looked at if the name does not match. -/
  | description {text : String} (hname : ¬Matches query d.name) (htext : d.description = some text)
      (h : Matches query text) : Hits d query .description
  | field {f : Field} (hf : f ∈ d.fields) (h : Matches query f.label) : Hits d query (.field f)

/-- The field that a part is, unless it belongs to the register as a whole. -/
def MatchedPart.field? : MatchedPart → Option Field
  | .name | .description => none
  | .field f => some f

lemma Definition.mem_wholeMatch_iff {h : SearchHit} :
    h ∈ d.wholeMatch (needleOf query) ↔
      h.definition = d ∧ d.Hits query h.part ∧ h.part.field? = none := by
  obtain ⟨d', part⟩ := h
  rw [wholeMatch]
  constructor
  · intro h
    split_ifs at h with hname htext
    · cases List.mem_singleton.1 h
      exact ⟨rfl, .name (matchesNeedle_iff.1 hname), rfl⟩
    · cases List.mem_singleton.1 h
      obtain ⟨text, htext, hmatch⟩ := (Option.any_eq_true _ _).1 htext
      exact ⟨rfl, .description (mt matchesNeedle_iff.2 hname) htext (matchesNeedle_iff.1 hmatch),
        rfl⟩
    · exact absurd h List.not_mem_nil
  · rintro ⟨rfl, hhits, hwhole⟩
    cases hhits with
    | name h => simp [matchesNeedle_iff.2 h]
    | description hname htext h =>
      have hany : d'.description.any (matchesNeedle (needleOf query)) = true :=
        (Option.any_eq_true _ _).2 ⟨_, htext, matchesNeedle_iff.2 h⟩
      rw [if_neg (mt matchesNeedle_iff.1 hname), if_pos hany]
      exact List.mem_singleton_self _
    | field => cases hwhole

/-- The hits of a register are the parts of it that the query finds. -/
lemma Definition.mem_search_iff {h : SearchHit} :
    h ∈ d.search (needleOf query) ↔ h.definition = d ∧ d.Hits query h.part := by
  rw [search, List.mem_append, mem_wholeMatch_iff]
  constructor
  · rintro (⟨rfl, hhits, -⟩ | h)
    · exact ⟨rfl, hhits⟩
    · obtain ⟨f, hf, rfl⟩ := List.mem_map.1 h
      obtain ⟨hf, hmatch⟩ := List.mem_filter.1 hf
      exact ⟨rfl, .field hf (matchesNeedle_iff.1 hmatch)⟩
  · obtain ⟨d', part⟩ := h
    rintro ⟨rfl, hhits⟩
    cases hhits with
    | name h => exact .inl ⟨rfl, .name h, rfl⟩
    | description hname htext h => exact .inl ⟨rfl, .description hname htext h, rfl⟩
    | field hf h =>
      exact .inr (List.mem_map.2 ⟨_, List.mem_filter.2 ⟨hf, matchesNeedle_iff.2 h⟩, rfl⟩)

lemma Catalog.mem_search_iff {h : SearchHit} (hquery : Text.trim query.toList ≠ []) :
    h ∈ c.search query ↔ h.definition ∈ c.registers ∧ h.definition.Hits query h.part := by
  have hneedle : (needleOf query).isEmpty = false := by
    rw [List.isEmpty_eq_false_iff]
    exact mt needleOf_eq_nil_iff.1 hquery
  rw [search, hneedle, if_neg Bool.false_ne_true, List.mem_flatMap]
  simp only [Definition.mem_search_iff]
  constructor
  · rintro ⟨d, hd, rfl, hhits⟩
    exact ⟨hd, hhits⟩
  · rintro ⟨hd, hhits⟩
    exact ⟨_, hd, rfl, hhits⟩

/-! ## Order -/

/-- One hit stands before another: its register does, or it is the register as a whole and the other
one a field of it, or its field is declared first. -/
inductive SearchHit.Precedes (registers : List Definition) : SearchHit → SearchHit → Prop
  | register {d d' : Definition} (h : [d, d'].Sublist registers) (part part' : MatchedPart) :
      Precedes registers ⟨d, part⟩ ⟨d', part'⟩
  | whole {part : MatchedPart} (d : Definition) (h : part.field? = none) (f : Field) :
      Precedes registers ⟨d, part⟩ ⟨d, .field f⟩
  | field {d : Definition} {f g : Field} (h : [f, g].Sublist d.fields) :
      Precedes registers ⟨d, .field f⟩ ⟨d, .field g⟩

open SearchHit in
lemma Definition.pairwise_search (registers : List Definition) (d : Definition) (query : String) :
    (d.search (needleOf query)).Pairwise (Precedes registers) := by
  have hwhole : (d.wholeMatch (needleOf query)).Pairwise (Precedes registers) := by
    rw [wholeMatch]
    split_ifs <;> simp
  have hfields : ((d.fields.filter fun f => matchesNeedle (needleOf query) f.label).map fun f =>
      (⟨d, .field f⟩ : SearchHit)).Pairwise (Precedes registers) := by
    rw [List.pairwise_map, List.pairwise_iff_forall_sublist]
    exact fun h => .field (h.trans List.filter_sublist)
  rw [search, List.pairwise_append]
  refine ⟨hwhole, hfields, ?_⟩
  rintro ⟨d', part⟩ h other hother
  obtain ⟨rfl, -, hnone⟩ := mem_wholeMatch_iff.1 h
  obtain ⟨f, -, rfl⟩ := List.mem_map.1 hother
  exact .whole _ hnone f

open SearchHit in
lemma Catalog.pairwise_search (c : Catalog) (query : String) :
    (c.search query).Pairwise (Precedes c.registers) := by
  rw [search]
  split
  · exact .nil
  · refine List.pairwise_flatMap.2 ⟨fun d _ => d.pairwise_search c.registers query, ?_⟩
    rw [List.pairwise_iff_forall_sublist]
    rintro d d' h ⟨e, part⟩ hleft ⟨e', part'⟩ hright
    obtain ⟨rfl, -⟩ := Definition.mem_search_iff.1 hleft
    obtain ⟨rfl, -⟩ := Definition.mem_search_iff.1 hright
    exact .register h part part'

/-! ## Repetition -/

/-- What a hit is told apart by: the name of its register, and the label of its field if it is one. -/
def SearchHit.key (h : SearchHit) : String × Option String :=
  (h.definition.name, h.part.field?.map Field.label)

/-- Hits in order are told apart, since neither names nor labels are repeated in a catalog. -/
lemma SearchHit.Precedes.key_ne {h h' : SearchHit} (horder : Precedes c.registers h h')
    (hd : h.definition ∈ c.registers) : h.key ≠ h'.key := by
  have hkept := wellFormed_iff_kept.1 c.wellFormed
  cases horder with
  | register hsub part part' =>
    have hname := List.rel_of_pairwise_cons (hkept.names.sublist hsub) (List.mem_singleton_self _)
    exact fun hkey => hname (congrArg Text.fold (Prod.ext_iff.1 hkey).1)
  | @whole part d hnone f =>
    intro hkey
    have hfield : part.field?.map Field.label = some f.label := (Prod.ext_iff.1 hkey).2
    rw [hnone] at hfield
    cases hfield
  | field hsub =>
    have hlabel := List.rel_of_pairwise_cons ((hkept.labels _ hd).sublist hsub)
      (List.mem_singleton_self _)
    exact fun hkey => hlabel (Option.some.inj (Prod.ext_iff.1 hkey).2)

/-! ## Longer queries -/

/-- What the one search finds beside the other: every register that is found as a whole and every
field that is found is found by the other as well. -/
structure Narrows (hits fewer : List SearchHit) : Prop where
  /-- The register may be found by its name here and by its description there. -/
  whole : ∀ h ∈ fewer, h.part.field? = none →
    ∃ h' ∈ hits, h'.definition = h.definition ∧ h'.part.field? = none
  field : ∀ d f, ⟨d, .field f⟩ ∈ fewer → ⟨d, .field f⟩ ∈ hits

/-- What a query finds of a register as a whole, a query that it contains finds too, though perhaps
by the name. -/
lemma Definition.Hits.whole_of_contained {part : MatchedPart} (h : d.Hits longer part)
    (hwhole : part.field? = none) (hneedle : needleOf query <:+: needleOf longer) :
    ∃ part', d.Hits query part' ∧ part'.field? = none := by
  cases h with
  | name hmatch => exact ⟨_, .name (hmatch.of_contained hneedle), rfl⟩
  | description hname htext hmatch =>
    by_cases hquery : Matches query d.name
    · exact ⟨_, .name hquery, rfl⟩
    · exact ⟨_, .description hquery htext (hmatch.of_contained hneedle), rfl⟩
  | field => cases hwhole

namespace Catalog

lemma narrows_of_contained (hquery : Text.trim query.toList ≠ [])
    (hneedle : needleOf query <:+: needleOf longer) :
    Narrows (c.search query) (c.search longer) := by
  have hlonger : Text.trim longer.toList ≠ [] := by
    rw [Ne, ← needleOf_eq_nil_iff] at hquery ⊢
    intro h
    exact hquery (List.infix_nil.1 (h ▸ hneedle))
  refine ⟨fun h hmem hwhole => ?_, fun d f hmem => ?_⟩
  · obtain ⟨hd, hhits⟩ := (mem_search_iff hlonger).1 hmem
    obtain ⟨part, hhits, hnone⟩ := hhits.whole_of_contained hwhole hneedle
    exact ⟨⟨h.definition, part⟩, (mem_search_iff hquery).2 ⟨hd, hhits⟩, rfl, hnone⟩
  · obtain ⟨hd, hhits⟩ := (mem_search_iff hlonger).1 hmem
    cases hhits with
    | field hf h => exact (mem_search_iff hquery).2 ⟨hd, .field hf (h.of_contained hneedle)⟩

/-! ## Searches -/

/-- The hits are what the query finds in the catalog. -/
structure Finds (c : Catalog) (query : String) (hits : List SearchHit) : Prop where
  blank : Text.trim query.toList = [] → hits = []
  hit : Text.trim query.toList ≠ [] →
    ∀ h, h ∈ hits ↔ h.definition ∈ c.registers ∧ h.definition.Hits query h.part
  /-- The registers come in the order of the catalog, and for each of them first the register as a
  whole, then its fields in their order. -/
  ordered : hits.Pairwise (SearchHit.Precedes c.registers)
  /-- No register is found twice as a whole, and no field twice. -/
  distinct : (hits.map SearchHit.key).Nodup

/-- **A search finds what matches, in order and once.**  A blank query finds nothing.  Any other one
finds the registers whose name, or else whose description, contains it in lower case, and the fields
whose label does, in the order of the catalog and without repeats.  What is found by a query that
contains another one is found by that one. -/
theorem search_exact (c : Catalog) (query : String) :
    c.Finds query (c.search query) ∧
      ∀ longer, Text.trim query.toList ≠ [] → needleOf query <:+: needleOf longer →
        Narrows (c.search query) (c.search longer) := by
  have hblank : Text.trim query.toList = [] → c.search query = [] := by
    intro h
    rw [search, needleOf_eq_nil_iff.2 h]
    rfl
  have hordered := c.pairwise_search query
  refine ⟨⟨hblank, fun hquery h => mem_search_iff hquery, hordered, ?_⟩,
    fun longer hquery hneedle => narrows_of_contained hquery hneedle⟩
  rw [List.Nodup, List.pairwise_map]
  by_cases hquery : Text.trim query.toList = []
  · rw [hblank hquery]
    exact .nil
  · exact hordered.imp_of_mem fun hmem _ horder =>
      horder.key_ne ((mem_search_iff hquery).1 hmem).1

/-- A catalog in which a query and a longer one find the same register by different parts. -/
def timers : Catalog where
  registers := [⟨"TIMER_CTL", .truncating 3 0 15 0 0, .interrupts, some "Timer of the core",
      [.flag 0 "Clock Enable", .flag 1 "Timer Mask"]⟩,
    ⟨"CLK_SEL", .truncating 3 0 15 1 0, .other, some "Timer clock", []⟩]
  wellFormed := (Violation.ofList_eq_nil_iff _).1 (by decide)

/-- The shorter query finds the first register by its name and one of its fields, and the second by
its description; the longer one finds the first register alone, by its description. -/
theorem search_exact_timers :
    (timers.search " Tim ").map (fun h => (h.definition.name, h.part.kind)) =
        [("TIMER_CTL", "name"), ("TIMER_CTL", "field"), ("CLK_SEL", "description")] ∧
      (timers.search "TIMER of").map (fun h => (h.definition.name, h.part.kind)) =
        [("TIMER_CTL", "description")] ∧
      timers.Finds " Tim " (timers.search " Tim ") ∧
      Narrows (timers.search " Tim ") (timers.search "TIMER of") := by
  have hquery : Text.trim " Tim ".toList ≠ [] := by decide
  have hneedle : needleOf " Tim " <:+: needleOf "TIMER of" := by decide
  obtain ⟨hfinds, hnarrows⟩ := search_exact timers " Tim "
  exact ⟨by decide, by decide, hfinds, hnarrows _ hquery hneedle⟩

end Catalog

/-! ## Literal occurrences -/

/-- A text that a query stands in is not blank either. -/
lemma trim_ne_nil_of_literal (hquery : Text.trim query.toList ≠ [])
    (h : Text.trim query.toList <:+: text.toList) : Text.trim text.toList ≠ [] := by
  obtain ⟨first, rest, hfirst⟩ := List.exists_cons_of_ne_nil hquery
  have hblank : Text.isBlank first = false :=
    (Text.noOuterBlank_trim query.toList).head first (by rw [hfirst]; rfl)
  have hmem : first ∈ text.toList := h.subset (hfirst ▸ List.mem_cons_self)
  intro hall
  rw [Text.trim_eq_nil_iff.1 hall first hmem] at hblank
  cases hblank

namespace Catalog

/-- Among the names and labels of the catalog, the query finds all those of a kind. -/
structure FindsEvery (c : Catalog) (query : String) (P : List Char → Prop) : Prop where
  name : ∀ d ∈ c.registers, P d.name.toList → ⟨d, .name⟩ ∈ c.search query
  field : ∀ d ∈ c.registers, ∀ f ∈ d.fields, P f.label.toList → ⟨d, .field f⟩ ∈ c.search query

/-- The query finds all names and labels in which it stands literally, blanks around it aside. -/
def FindsLiterally (c : Catalog) (query : String) : Prop :=
  c.FindsEvery query fun text => Text.trim query.toList <:+: text

lemma FindsEvery.mono {P Q : List Char → Prop} (h : c.FindsEvery query Q)
    (hPQ : ∀ text, P text → Q text) : c.FindsEvery query P where
  name d hd hname := h.name d hd (hPQ _ hname)
  field d hd f hf hlabel := h.field d hd f hf (hPQ _ hlabel)

lemma findsEvery_standsUnturned (hquery : Text.trim query.toList ≠ []) (c : Catalog) :
    c.FindsEvery query (Text.StandsUnturned (Text.trim query.toList)) where
  name _ hd hname :=
    (mem_search_iff hquery).2 ⟨hd, .name (Text.lower_infix_of_standsUnturned hname)⟩
  field _ hd _ hf hlabel :=
    (mem_search_iff hquery).2 ⟨hd, .field hf (Text.lower_infix_of_standsUnturned hlabel)⟩

lemma findsLiterally_of_not_exposed (hquery : Text.trim query.toList ≠ [])
    (hexposed : ¬Text.Exposed (Text.trim query.toList)) (c : Catalog) : c.FindsLiterally query :=
  (findsEvery_standsUnturned hquery c).mono fun _ => Text.standsUnturned_of_not_exposed hexposed

/-- A catalog of one register, of which only the name is known. -/
def solitary (name : String) (hname : Text.trim name.toList ≠ []) : Catalog where
  registers := [⟨name, .truncating 3 0 15 0 0, .other, none, []⟩]
  wellFormed :=
    { named := List.forall_mem_singleton.2 hname
      system := List.forall_mem_singleton.2 rfl
      names := List.pairwise_singleton _ _
      encodings := List.pairwise_singleton _ _
      layouts := List.forall_mem_singleton.2 ⟨nofun, nofun, .nil, .nil⟩ }

/-- An exposed sigma of the query hides a literal occurrence in some catalog. -/
lemma exists_not_findsLiterally (hquery : Text.trim query.toList ≠ [])
    (hexposed : Text.Exposed (Text.trim query.toList)) :
    ∃ c : Catalog, ¬c.FindsLiterally query := by
  obtain ⟨before, after, hmissed⟩ := hexposed.exists_missed
  obtain ⟨name, hname⟩ : ∃ name : String, name.toList = before ++ Text.trim query.toList ++ after :=
    ⟨String.ofList _, String.toList_ofList⟩
  have hinfix : Text.trim query.toList <:+: name.toList := hname ▸ List.infix_append _ _ _
  refine ⟨solitary name (trim_ne_nil_of_literal hquery hinfix), fun hfinds => ?_⟩
  have hhit := hfinds.name _ (List.mem_singleton_self _) hinfix
  obtain ⟨-, hhits⟩ := (mem_search_iff hquery).1 hhit
  cases hhits with
  | name hmatch => exact hmissed (hname ▸ hmatch)

/-- **A query finds its literal occurrences unless a capital sigma of it is exposed.**  A query finds
every name and every label in which it stands literally, in all catalogs, exactly if it has no
exposed sigma.  In any case it finds those in which it stands without a sigma that turns. -/
theorem findsLiterally_iff (hquery : Text.trim query.toList ≠ []) :
    ((∀ c : Catalog, c.FindsLiterally query) ↔ ¬Text.Exposed (Text.trim query.toList)) ∧
      ∀ c : Catalog, c.FindsEvery query (Text.StandsUnturned (Text.trim query.toList)) := by
  refine ⟨⟨fun hall hexposed => ?_, findsLiterally_of_not_exposed hquery⟩,
    findsEvery_standsUnturned hquery⟩
  obtain ⟨c, hc⟩ := exists_not_findsLiterally hquery hexposed
  exact hc (hall c)

/-- A catalog with a word that goes on behind a sigma, and with one that ends there. -/
def greek : Catalog where
  registers := [⟨"ΒΑΣΗ", .truncating 3 0 15 0 0, .other, none, []⟩,
    ⟨"ΒΑΣ 1", .truncating 3 0 15 1 0, .other, none, []⟩]
  wellFormed := (Violation.ofList_eq_nil_iff _).1 (by decide)

/-- The query " ΒΑΣ" finds the second name, as the word ends there. -/
theorem findsLiterally_iff_greek : Text.trim " ΒΑΣ".toList ≠ [] ∧
    Text.StandsUnturned (Text.trim " ΒΑΣ".toList) "ΒΑΣ 1".toList ∧
    ∃ d ∈ greek.registers, d.name = "ΒΑΣ 1" ∧ ⟨d, .name⟩ ∈ greek.search " ΒΑΣ" := by
  have hquery : Text.trim " ΒΑΣ".toList ≠ [] := by decide
  have hstands : Text.StandsUnturned (Text.trim " ΒΑΣ".toList) "ΒΑΣ 1".toList := by
    refine ⟨[], [' ', '1'], by decide, ?_⟩
    have htrim : Text.trim " ΒΑΣ".toList = ['Β', 'Α', 'Σ'] := by decide
    rintro ⟨u, v, huv, hne⟩
    rw [htrim] at huv
    obtain ⟨rfl, rfl⟩ : u = ['Β', 'Α'] ∧ v = [] := by
      simpa [List.cons_eq_append_iff] using huv
    exact hne (by decide +kernel)
  have hd : (⟨"ΒΑΣ 1", .truncating 3 0 15 1 0, .other, none, []⟩ : Definition) ∈
      greek.registers := by decide
  exact ⟨hquery, hstands, _, hd, rfl, ((findsLiterally_iff hquery).2 greek).name _ hd hstands⟩

/-- The list is accepted and the query stands in its first name, yet it does not find it. -/
theorem not_findsLiterally : ∃ c, ofList greek.registers = .ok c ∧
    Text.trim "ΒΑΣ".toList ≠ [] ∧ ¬c.FindsLiterally "ΒΑΣ" := by
  refine ⟨greek, ofList_registers greek, by decide, fun h => ?_⟩
  have hmissed := h.name ⟨"ΒΑΣΗ", .truncating 3 0 15 0 0, .other, none, []⟩ (by decide) (by decide)
  revert hmissed
  decide +kernel

end Catalog
end SysReg
