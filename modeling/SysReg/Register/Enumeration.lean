import SysReg.Word

/-!
# Enumerations

A table from field values to their meanings. Each value occurs once and the entries ascend, however
the table was put together; a later entry for a value replaces the earlier one.
-/

namespace SysReg

/-- Meanings of field values, ascending. -/
structure Enumeration where
  entries : List (Word × String)
  ascending : entries.Pairwise fun a b => a.1.toNat < b.1.toNat
  deriving DecidableEq

namespace Enumeration

/-- Puts an entry in its place in an ascending table. -/
def place (value : Word) (meaning : String) : List (Word × String) → List (Word × String)
  | [] => [(value, meaning)]
  | entry :: rest =>
    if value.toNat < entry.1.toNat then (value, meaning) :: entry :: rest
    else if value = entry.1 then (value, meaning) :: rest
    else entry :: place value meaning rest

theorem mem_place {value : Word} {meaning : String} {table : List (Word × String)}
    {entry : Word × String} (h : entry ∈ place value meaning table) :
    entry = (value, meaning) ∨ entry ∈ table := by
  induction table with
  | nil => simpa [place] using h
  | cons first rest ih =>
    simp only [place] at h
    split at h
    · simpa using h
    · split at h
      · rcases List.mem_cons.1 h with h | h
        · exact .inl h
        · exact .inr (List.mem_cons_of_mem _ h)
      · rcases List.mem_cons.1 h with h | h
        · exact .inr (h ▸ List.mem_cons_self)
        · exact (ih h).imp_right (List.mem_cons_of_mem _)

theorem pairwise_place {table : List (Word × String)} (value : Word) (meaning : String)
    (h : table.Pairwise fun a b => a.1.toNat < b.1.toNat) :
    (place value meaning table).Pairwise fun a b => a.1.toNat < b.1.toNat := by
  induction table with
  | nil => simp [place]
  | cons first rest ih =>
    rw [List.pairwise_cons] at h
    simp only [place]
    split
    · next hlt =>
      refine List.pairwise_cons.2 ⟨fun entry he => ?_, List.pairwise_cons.2 h⟩
      rcases List.mem_cons.1 he with he | he
      · exact he ▸ hlt
      · exact Nat.lt_trans hlt (h.1 entry he)
    · next hnot =>
      split
      · next heq => exact List.pairwise_cons.2 ⟨fun entry he => heq ▸ h.1 entry he, h.2⟩
      · next hne =>
        refine List.pairwise_cons.2 ⟨fun entry he => ?_, ih h.2⟩
        rcases mem_place he with he | he
        · have : value.toNat ≠ first.1.toNat := fun hv => hne (BitVec.eq_of_toNat_eq hv)
          subst he
          simp only
          omega
        · exact h.1 entry he

/-- The table without entries. -/
def empty : Enumeration :=
  ⟨[], .nil⟩

/-- The table with one entry more, or with one replaced. -/
def insert (values : Enumeration) (value : Word) (meaning : String) : Enumeration :=
  ⟨place value meaning values.entries, pairwise_place value meaning values.ascending⟩

/-- The table of the given entries, inserted in order. -/
def ofList (entries : List (Word × String)) : Enumeration :=
  entries.foldl (fun values entry => values.insert entry.1 entry.2) empty

/-- The meaning of a value. -/
def get? (values : Enumeration) (value : Word) : Option String :=
  (values.entries.find? (·.1 = value)).map (·.2)

end Enumeration
end SysReg
