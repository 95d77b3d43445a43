import SysReg.Proofs.Access.Table
import SysReg.Proofs.Catalog.Integrity
import SysReg.Proofs.Encoding.Recognition

/-!
# How a text reaches a register

A text is taken as a name first.  Names of a catalog differ in more than ASCII case, so at most one
register has the name, and it is found in any case (`find?_eq_some_iff`).  A text that is no name is
taken as an encoding, and the register of an encoding is found by it as well.

Every register is thus reached by its name and by both notations of its encoding, with two provisos
(`resolve_reaches`).  Blanks around a text are taken off before it is looked up, so the name itself
must not begin or end with a blank; and where the spelling of an encoding is the name of a register,
it stands for that register.  Neither is excluded by the invariants of a catalog
(`not_resolve_reaches`).
-/

namespace SysReg

/-! ## Trimmed names -/

namespace Text

/-- Two texts that agree up to ASCII case. -/
lemma fold_eq_iff {a b : String} : fold a = fold b ↔ asciiLower a.toList = asciiLower b.toList := by
  rw [fold, fold, String.ofList_inj]

/-- What a disguised text is, blanks and case aside. -/
lemma fold_trimmed_of_disguises {text spelling : String} (h : Disguises text spelling)
    (houter : NoOuterBlank spelling.toList) : fold (trimmed text) = fold spelling := by
  obtain ⟨before, inner, after, htext, hbefore, hafter, hcase⟩ := h
  have hinner : NoOuterBlank inner := by
    rw [← noOuterBlank_asciiLower_iff, hcase, noOuterBlank_asciiLower_iff]
    exact houter
  rw [fold_eq_iff, trimmed, String.toList_ofList, htext, trim_append_append hbefore hafter hinner,
    hcase]

end Text

namespace Catalog

variable {c : Catalog} {d : Definition} {name text : String}

/-! ## Looking up -/

/-- Registers with one name, case aside, are one register. -/
lemma eq_of_fold_eq {d' : Definition} (hd : d ∈ c.registers) (hd' : d' ∈ c.registers)
    (h : Text.fold d.name = Text.fold d'.name) : d = d' := by
  have hnames := (wellFormed_iff_kept.1 c.wellFormed).names
  have hfind := find?_key_eq_some hnames hd
  rw [h, find?_key_eq_some hnames hd'] at hfind
  exact (Option.some.inj hfind).symm

/-- The register with a name, in any case, is what looking it up gives: the exact spelling is
preferred, but it cannot lead to another register. -/
lemma find?_eq_some_iff :
    c.find? name = some d ↔ d ∈ c.registers ∧ Text.fold d.name = Text.fold name := by
  rw [find?_eq]
  exact find?_key_eq_some_iff (wellFormed_iff_kept.1 c.wellFormed).names

lemma find?_eq_none_iff :
    c.find? name = none ↔ ∀ d ∈ c.registers, Text.fold d.name ≠ Text.fold name := by
  rw [Option.eq_none_iff_forall_ne_some]
  exact ⟨fun h d hd hname => h d (find?_eq_some_iff.2 ⟨hd, hname⟩), fun h d hfound =>
    h d (find?_eq_some_iff.1 hfound).1 (find?_eq_some_iff.1 hfound).2⟩

/-- A register is found by its encoding. -/
lemma atEncoding?_encoding (hd : d ∈ c.registers) : c.atEncoding? d.encoding = some d := by
  rw [atEncoding?_eq]
  exact find?_key_eq_some c.wellFormed.encodings hd

/-! ## Resolving -/

lemma resolve_of_name (hd : d ∈ c.registers)
    (hname : Text.fold d.name = Text.fold (Text.trimmed text)) : c.resolve text = .ok d := by
  rw [resolve, find?_eq_some_iff.2 ⟨hd, hname⟩]

lemma resolve_of_encoding (hd : d ∈ c.registers)
    (hnames : ∀ other ∈ c.registers, Text.fold other.name ≠ Text.fold (Text.trimmed text))
    (htext : Encoding.ofNotation text = .ok d.encoding) : c.resolve text = .ok d := by
  rw [resolve, find?_eq_none_iff.2 hnames]
  simp only [htext, atEncoding?_encoding hd]

/-- A disguised spelling of the encoding of a register stands for the register of that name, and
where there is none for the register itself. -/
lemma resolve_of_disguises (hd : d ∈ c.registers) {spelling : String}
    (hspelling : spelling = d.encoding.canonical ∨ spelling = d.encoding.callForm)
    (h : Text.Disguises text spelling) :
    (∀ other ∈ c.registers, Text.fold other.name = Text.fold spelling →
      c.resolve text = .ok other) ∧
    ((∀ other ∈ c.registers, Text.fold other.name ≠ Text.fold spelling) →
      c.resolve text = .ok d) := by
  have houter : Text.NoOuterBlank spelling.toList := by
    rcases hspelling with rfl | rfl
    · exact d.encoding.noOuterBlank_canonical
    · exact d.encoding.noOuterBlank_callForm
  have hdenotes : d.encoding.Denotes (Encoding.normalized text) := by
    apply Encoding.denotes_of_disguises
    rcases hspelling with rfl | rfl
    · exact .inl h
    · exact .inr h
  have hread : Encoding.ofNotation text = .ok d.encoding :=
    Encoding.ofNotation_eq_ok_iff.2 ⟨c.wellFormed.system d hd, hdenotes⟩
  rw [← Text.fold_trimmed_of_disguises h houter]
  exact ⟨fun other hother hname => resolve_of_name hother hname,
    fun hnames => resolve_of_encoding hd hnames hread⟩

/-- **Every register is reached by its name and by both notations of its encoding.**  A name that
neither begins nor ends with a blank stands for its register, in any ASCII case and with any blanks
around it.  A notation of its encoding does so too, unless a register bears this spelling as its
name, which then stands for that register. -/
theorem resolve_reaches (c : Catalog) {d : Definition} (hd : d ∈ c.registers) :
    (Text.NoOuterBlank d.name.toList → ∀ text, Text.Disguises text d.name →
      c.resolve text = .ok d) ∧
    ∀ spelling, spelling = d.encoding.canonical ∨ spelling = d.encoding.callForm →
      ∀ text, Text.Disguises text spelling →
        (∀ other ∈ c.registers, Text.fold other.name = Text.fold spelling →
          c.resolve text = .ok other) ∧
        ((∀ other ∈ c.registers, Text.fold other.name ≠ Text.fold spelling) →
          c.resolve text = .ok d) := by
  refine ⟨fun houter text h => ?_, fun spelling hspelling text h =>
    resolve_of_disguises hd hspelling h⟩
  exact resolve_of_name hd (Text.fold_trimmed_of_disguises h houter).symm

/-- A catalog in which a name begins with a blank, and two names are the notations of the encoding of
a third register. -/
def contested : Catalog where
  registers := [⟨" HID1", .truncating 3 0 15 1 0, .hid, none, []⟩,
    ⟨"s3_0_c15_c0_0", .truncating 3 0 15 2 0, .hid, none, []⟩,
    ⟨"sys_reg(3, 0, 15, 0, 0)", .truncating 3 0 15 3 0, .hid, none, []⟩,
    ⟨"HID0", .truncating 3 0 15 0 0, .hid, none, []⟩]
  wellFormed := (Violation.ofList_eq_nil_iff _).1 (by decide)

/-- `HID0` is reached by its name, and the spelling of its encoding reaches the register of that
name. -/
theorem resolve_reaches_contested : ∃ d ∈ contested.registers, d.name = "HID0" ∧
    contested.resolve "\thid0" = .ok d ∧ ∃ other ∈ contested.registers,
      other.name = d.encoding.canonical ∧ contested.resolve "S3_0_C15_C0_0\n" = .ok other := by
  have hd : (⟨"HID0", .truncating 3 0 15 0 0, .hid, none, []⟩ : Definition) ∈
      contested.registers := by decide
  have hother : (⟨"s3_0_c15_c0_0", .truncating 3 0 15 2 0, .hid, none, []⟩ : Definition) ∈
      contested.registers := by decide
  obtain ⟨hname, hspelling⟩ := resolve_reaches contested hd
  have hlast : Text.isBlank '0' = false := by decide
  have houter : Text.NoOuterBlank "HID0".toList :=
    Text.noOuterBlank_cons_append (by decide) ['I', 'D'] (List.cons_ne_nil _ _)
      (List.forall_mem_singleton.2 hlast)
  have htext : Text.Disguises "\thid0" "HID0" :=
    ⟨['\t'], "hid0".toList, [], by decide, List.forall_mem_singleton.2 rfl, nofun, by decide⟩
  have htext' : Text.Disguises "S3_0_C15_C0_0\n" (Encoding.truncating 3 0 15 0 0).canonical :=
    ⟨[], "S3_0_C15_C0_0".toList, ['\n'], by decide, nofun, List.forall_mem_singleton.2 rfl,
      by decide⟩
  refine ⟨_, hd, rfl, hname houter _ htext, _, hother, rfl, ?_⟩
  exact (hspelling _ (.inl rfl) _ htext').1 _ hother rfl

/-- The list is accepted, yet the register with the blank is not reached by its name, and the third
one by neither notation of its encoding. -/
theorem not_resolve_reaches : ∃ c, ofList contested.registers = .ok c ∧
    (∃ d ∈ c.registers, c.resolve d.name ≠ .ok d) ∧
    ∃ d ∈ c.registers, c.resolve d.encoding.canonical ≠ .ok d ∧
      c.resolve d.encoding.callForm ≠ .ok d := by
  refine ⟨contested, ofList_registers contested, ?_, ?_⟩
  · exact ⟨⟨" HID1", .truncating 3 0 15 1 0, .hid, none, []⟩, by decide, by decide⟩
  · exact ⟨⟨"HID0", .truncating 3 0 15 0 0, .hid, none, []⟩, by decide, by decide, by decide⟩

end Catalog
end SysReg
