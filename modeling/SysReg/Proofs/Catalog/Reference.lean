import SysReg.Proofs.Catalog.Lookup

/-!
# What a text refers to

Every text comes to one thing over a catalog: a register by name, a register by encoding, an
encoding that is not there, a misspelt encoding, or nothing known.  `Catalog.Resolves` has a case
for each, and resolving a text is shown to be this relation (`resolve_eq_iff`).

None of the cases looks at the text itself.  Names are compared trimmed and without regard to case,
and a notation is read from the text in normal form, so that texts which differ in ASCII case and
outer blanks only come to the same (`alike_of_resembles`).  A failure quotes the text as it was
given, and that is all in which two such texts can differ.

A command also acts on an encoding that the catalog lacks.  It reads the text again for this, after
resolving it has failed, and `target_eq_known_iff`, `target_eq_bare_iff` and `target_eq_error_iff`
tell the three outcomes apart.
-/

namespace SysReg

/-! ## Texts that differ in case and blanks -/

namespace Text

variable {cs : List Char}

/-- Blanks around a text are of no account to trimming, whatever the text begins and ends with. -/
lemma trim_between_blanks {before after : List Char} (hbefore : ∀ c ∈ before, isBlank c = true)
    (hafter : ∀ c ∈ after, isBlank c = true) : trim (before ++ cs ++ after) = trim cs := by
  obtain ⟨front, back, hfront, hback, -, hcs⟩ := exists_eq_append_trim cs
  have hall : before ++ cs ++ after = (before ++ front) ++ trim cs ++ (back ++ after) := by
    conv_lhs => rw [hcs]
    simp only [List.append_assoc]
  rw [hall]
  exact trim_append_append (List.forall_mem_append.2 ⟨hbefore, hfront⟩)
    (List.forall_mem_append.2 ⟨hback, hafter⟩) (noOuterBlank_trim cs)

/-- No letter is a blank, so that it does not matter whether case or blanks are dropped first. -/
lemma trim_asciiLower (cs : List Char) : trim (asciiLower cs) = asciiLower (trim cs) := by
  obtain ⟨front, back, hfront, hback, -, hcs⟩ := exists_eq_append_trim cs
  have hlower {blanks : List Char} (h : ∀ c ∈ blanks, isBlank c = true) :
      ∀ c ∈ asciiLower blanks, isBlank c = true :=
    List.forall_mem_map.2 fun c hc => (isBlank_toLower c).trans (h c hc)
  have hall : asciiLower cs = asciiLower front ++ asciiLower (trim cs) ++ asciiLower back := by
    conv_lhs => rw [hcs]
    simp only [asciiLower, List.map_append]
  rw [hall]
  exact trim_append_append (hlower hfront) (hlower hback)
    (noOuterBlank_asciiLower_iff.2 (noOuterBlank_trim cs))

/-- Two texts differ in ASCII case and in blanks around them, and in nothing else. -/
def Resembles (a b : String) : Prop :=
  ∃ core, Disguises a core ∧ Disguises b core

end Text

namespace Encoding

variable {a b : String}

/-- The normal form in which notations are read is also that in which names are compared. -/
lemma fold_trimmed (text : String) : Text.fold (Text.trimmed text) = normalized text := by
  rw [Text.fold, Text.trimmed, String.toList_ofList, normalized]

lemma normalized_of_disguises {text core : String} (h : Text.Disguises text core) :
    normalized text = normalized core := by
  obtain ⟨before, inner, after, htext, hbefore, hafter, hcase⟩ := h
  rw [normalized, normalized, htext, Text.trim_between_blanks hbefore hafter, String.ofList_inj,
    ← Text.trim_asciiLower, hcase, Text.trim_asciiLower]

lemma normalized_eq_of_resembles (h : Text.Resembles a b) : normalized a = normalized b := by
  obtain ⟨core, ha, hb⟩ := h
  exact (normalized_of_disguises ha).trans (normalized_of_disguises hb).symm

lemma ofNotation_congr (h : normalized a = normalized b) : ofNotation a = ofNotation b := by
  rw [ofNotation, ofNotation, h]

lemma looksLikeNotation_congr (h : normalized a = normalized b) :
    looksLikeNotation a = looksLikeNotation b := by
  rw [looksLikeNotation, looksLikeNotation, h]

end Encoding

namespace Catalog

variable {c : Catalog} {d : Definition} {e : Encoding} {text : String}

/-! ## Registers -/

/-- The text is the name of the register, blanks around it and ASCII case aside. -/
def Names (text : String) (d : Definition) : Prop :=
  Text.fold d.name = Text.fold (Text.trimmed text)

/-- What a text comes to over a catalog. -/
inductive Resolves (c : Catalog) (text : String) : Except Failure Definition → Prop where
  /-- It is the name of a register. -/
  | name {d : Definition} (hd : d ∈ c.registers) (hname : Names text d) : Resolves c text (.ok d)
  /-- It is no name, and the encoding of a register. -/
  | encoding {d : Definition} (hnames : ∀ d ∈ c.registers, ¬Names text d) (hd : d ∈ c.registers)
      (htext : Encoding.ofNotation text = .ok d.encoding) : Resolves c text (.ok d)
  /-- It is no name, and an encoding that no register has. -/
  | uncatalogued {e : Encoding} (hnames : ∀ d ∈ c.registers, ¬Names text d)
      (htext : Encoding.ofNotation text = .ok e) (hnone : ∀ d ∈ c.registers, d.encoding ≠ e) :
      Resolves c text (.error (.unresolved text))
  /-- It is no name, and looks like an encoding that it fails to be. -/
  | misspelt {fault : EncodingError} (hnames : ∀ d ∈ c.registers, ¬Names text d)
      (htext : Encoding.ofNotation text = .error fault)
      (hlooks : Encoding.looksLikeNotation text = true) :
      Resolves c text (.error (.encoding fault))
  /-- It is neither a name nor anything like an encoding. -/
  | unknown {fault : EncodingError} (hnames : ∀ d ∈ c.registers, ¬Names text d)
      (htext : Encoding.ofNotation text = .error fault)
      (hlooks : Encoding.looksLikeNotation text = false) :
      Resolves c text (.error (.unresolved text))

lemma atEncoding?_eq_none_iff :
    c.atEncoding? e = none ↔ ∀ d ∈ c.registers, d.encoding ≠ e := by
  simp [atEncoding?_eq]

lemma knows_eq_false_iff : c.knows e = false ↔ ∀ d ∈ c.registers, d.encoding ≠ e := by
  rw [knows_eq, Option.isSome_eq_false_iff, Option.isNone_iff_eq_none, atEncoding?_eq_none_iff]

lemma resolves_resolve (c : Catalog) (text : String) : c.Resolves text (c.resolve text) := by
  unfold resolve
  split
  · next d hfound =>
    obtain ⟨hd, hname⟩ := find?_eq_some_iff.1 hfound
    exact .name hd hname
  · next hnone =>
    have hnames := find?_eq_none_iff.1 hnone
    split
    · next e htext =>
      split
      · next d hat =>
        obtain ⟨hd, rfl⟩ := atEncoding?_eq_some_iff.1 hat
        exact .encoding hnames hd htext
      · next hat => exact .uncatalogued hnames htext (atEncoding?_eq_none_iff.1 hat)
    · next fault htext =>
      split
      · next hlooks => exact .misspelt hnames htext hlooks
      · next hlooks => exact .unknown hnames htext (Bool.eq_false_of_not_eq_true hlooks)

/-- Resolving a text gives what it comes to, and a text comes to one thing. -/
lemma resolve_eq_iff {result : Except Failure Definition} :
    c.resolve text = result ↔ c.Resolves text result := by
  refine ⟨fun h => h ▸ c.resolves_resolve text, fun h => ?_⟩
  cases h with
  | name hd hname => exact resolve_of_name hd hname
  | encoding hnames hd htext => exact resolve_of_encoding hd hnames htext
  | uncatalogued hnames htext hnone =>
    rw [resolve, find?_eq_none_iff.2 hnames]
    simp only [htext, atEncoding?_eq_none_iff.2 hnone]
  | misspelt hnames htext hlooks =>
    rw [resolve, find?_eq_none_iff.2 hnames]
    simp only [htext, if_pos hlooks]
  | unknown hnames htext hlooks =>
    rw [resolve, find?_eq_none_iff.2 hnames]
    simp only [htext, hlooks, if_neg Bool.false_ne_true]

/-- Two texts come to the same: one register, one misspelt encoding, or nothing known, where each
text is quoted as it was given. -/
inductive Alike (c : Catalog) (a b : String) : Prop where
  | register (d : Definition) (ha : c.resolve a = .ok d) (hb : c.resolve b = .ok d)
  | misspelt (fault : EncodingError) (ha : c.resolve a = .error (.encoding fault))
      (hb : c.resolve b = .error (.encoding fault))
  | unknown (ha : c.resolve a = .error (.unresolved a)) (hb : c.resolve b = .error (.unresolved b))

lemma alike_of_resembles {a b : String} (h : Text.Resembles a b) : c.Alike a b := by
  have hform := Encoding.normalized_eq_of_resembles h
  have hread := Encoding.ofNotation_congr hform
  have hlooks := Encoding.looksLikeNotation_congr hform
  have hname (d : Definition) : Names a d ↔ Names b d := by
    rw [Names, Names, Encoding.fold_trimmed, Encoding.fold_trimmed, hform]
  have hnameless (hnames : ∀ d ∈ c.registers, ¬Names a d) : ∀ d ∈ c.registers, ¬Names b d :=
    fun d hd hb => hnames d hd ((hname d).2 hb)
  obtain ⟨result, hresult⟩ : ∃ result, c.Resolves a result := ⟨_, c.resolves_resolve a⟩
  -- What the one text comes to, the other one comes to for the same reason.
  have ha := resolve_eq_iff.2 hresult
  cases hresult with
  | name hd hnamed =>
    exact .register _ ha (resolve_eq_iff.2 (.name hd ((hname _).1 hnamed)))
  | encoding hnames hd htext =>
    exact .register _ ha (resolve_eq_iff.2 (.encoding (hnameless hnames) hd (hread ▸ htext)))
  | uncatalogued hnames htext hnone =>
    have hb := Resolves.uncatalogued (hnameless hnames) (hread ▸ htext) hnone
    exact .unknown ha (resolve_eq_iff.2 hb)
  | misspelt hnames htext hlike =>
    have hb := Resolves.misspelt (hnameless hnames) (hread ▸ htext) (hlooks ▸ hlike)
    exact .misspelt _ ha (resolve_eq_iff.2 hb)
  | unknown hnames htext hlike =>
    have hb := Resolves.unknown (hnameless hnames) (hread ▸ htext) (hlooks ▸ hlike)
    exact .unknown ha (resolve_eq_iff.2 hb)

/-! ## Registers outside the catalog -/

lemma target_eq_known_iff : c.target text = .ok (.known d) ↔ c.resolve text = .ok d := by
  constructor
  · intro h
    unfold target at h
    split at h
    · next hresolve =>
      cases h
      exact hresolve
    · split at h <;> cases h
    · cases h
  · intro h
    rw [target, h]

lemma target_eq_bare_iff : c.target text = .ok (.bare e) ↔
    (∀ d ∈ c.registers, ¬Names text d) ∧ Encoding.ofNotation text = .ok e ∧ c.knows e = false := by
  constructor
  · intro h
    unfold target at h
    split at h
    · cases h
    · next hresolve =>
      split at h
      · next htext =>
        cases h
        -- Of the two ways to be unresolved, only one leaves an encoding to read.
        cases resolve_eq_iff.1 hresolve with
        | uncatalogued hnames htext' hnone =>
          obtain rfl := Except.ok.inj (htext'.symm.trans htext)
          exact ⟨hnames, htext, knows_eq_false_iff.2 hnone⟩
        | unknown _ htext' => cases htext'.symm.trans htext
      · cases h
    · cases h
  · rintro ⟨hnames, htext, hnone⟩
    have hresolve := resolve_eq_iff.2 (.uncatalogued hnames htext (knows_eq_false_iff.1 hnone))
    rw [target, hresolve]
    simp only [htext]

lemma target_eq_error_iff {failure : Failure} : c.target text = .error failure ↔
    c.resolve text = .error failure ∧ ∀ e, Encoding.ofNotation text ≠ .ok e := by
  constructor
  · intro h
    unfold target at h
    split at h
    · cases h
    · next hresolve =>
      split at h
      · cases h
      · next htext =>
        cases h
        exact ⟨hresolve, fun e he => nomatch htext.symm.trans he⟩
    · next other hresolve =>
      cases h
      refine ⟨hresolve, fun e he => ?_⟩
      cases resolve_eq_iff.1 hresolve with
      | uncatalogued => exact other _ rfl
      | misspelt _ htext => cases htext.symm.trans he
      | unknown _ htext => cases htext.symm.trans he
  · rintro ⟨hresolve, htext⟩
    rw [target, hresolve]
    cases hread : Encoding.ofNotation text with
    | ok e => exact absurd hread (htext e)
    | error fault => cases failure <;> rfl

/-- What a text refers to is settled by the names of the catalog, its encodings and the reading of
the text as an encoding, and is the same for texts that differ in case and outer blanks only. -/
structure Settles (c : Catalog) (text : String) : Prop where
  once : ∀ d ∈ c.registers, ∀ d' ∈ c.registers, Names text d → Names text d' → d = d'
  resolve : ∀ result, c.resolve text = result ↔ c.Resolves text result
  alike : ∀ other, Text.Resembles text other → c.Alike text other
  known : ∀ d, c.target text = .ok (.known d) ↔ c.resolve text = .ok d
  bare : ∀ e, c.target text = .ok (.bare e) ↔ (∀ d ∈ c.registers, ¬Names text d) ∧
    Encoding.ofNotation text = .ok e ∧ c.knows e = false
  refused : ∀ failure, c.target text = .error failure ↔
    c.resolve text = .error failure ∧ ∀ e, Encoding.ofNotation text ≠ .ok e

/-- **What a text refers to is determined.**  Over any catalog, a text that is the name of a
register resolves to this register; any other text resolves to the register of the encoding that it
reads as, and is refused as unresolved, or as a misspelt encoding if it looks like one.  Case and
outer blanks do not matter.  A command acts on the register that a text resolves to, or on an
encoding that the text reads as and the catalog lacks. -/
theorem settles_text (c : Catalog) (text : String) : c.Settles text where
  once _ hd _ hd' hname hname' := eq_of_fold_eq hd hd' (hname.trans hname'.symm)
  resolve _ := resolve_eq_iff
  alike _ := alike_of_resembles
  known _ := target_eq_known_iff
  bare _ := target_eq_bare_iff
  refused _ := target_eq_error_iff

/-- A spelling of the encoding of `HID0` that is the name of another register, in capitals and
before the end of a line, refers to that register like the name itself; an encoding that is not in
the catalog is a target of its own. -/
theorem settles_contested :
    Text.Resembles "S3_0_C15_C0_0\n" "s3_0_c15_c0_0" ∧
      contested.Alike "S3_0_C15_C0_0\n" "s3_0_c15_c0_0" ∧
      Encoding.ofNotation "s3_0_c15_c9_0" = .ok (.truncating 3 0 15 9 0) ∧
      contested.target "s3_0_c15_c9_0" = .ok (.bare (.truncating 3 0 15 9 0)) := by
  have hresembles : Text.Resembles "S3_0_C15_C0_0\n" "s3_0_c15_c0_0" :=
    ⟨"s3_0_c15_c0_0", ⟨[], "S3_0_C15_C0_0".toList, ['\n'], by decide, nofun,
      List.forall_mem_singleton.2 rfl, by decide⟩,
      ⟨[], "s3_0_c15_c0_0".toList, [], by decide, nofun, nofun, rfl⟩⟩
  have hread : Encoding.ofNotation "s3_0_c15_c9_0" = .ok (.truncating 3 0 15 9 0) := by decide
  refine ⟨hresembles, (settles_text contested _).alike _ hresembles, hread, ?_⟩
  refine ((settles_text contested _).bare _).2 ⟨?_, hread, by decide⟩
  unfold Names
  decide

end Catalog
end SysReg
