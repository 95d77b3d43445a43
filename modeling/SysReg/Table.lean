/-!
# Keyed tables

A table holds a value under each of some keys. Its entries are kept as a list, so that whatever is
looked up can be evaluated where the keys can be compared; nothing here depends on their order.
-/

namespace SysReg

/-- Values under keys. -/
structure Table (κ α : Type) where
  entries : List (κ × α)
  deriving DecidableEq

namespace Table

variable {κ α : Type} [DecidableEq κ]

/-- The table without entries. -/
def empty : Table κ α :=
  ⟨[]⟩

/-- The table with a value under a key, in place of an earlier one. -/
def insert (t : Table κ α) (key : κ) (value : α) : Table κ α :=
  ⟨(key, value) :: t.entries.filter fun entry => entry.1 ≠ key⟩

/-- The value under a key. -/
def get? (t : Table κ α) (key : κ) : Option α :=
  (t.entries.find? fun entry => entry.1 = key).map (·.2)

/-- Whether there is a value under a key. -/
def contains (t : Table κ α) (key : κ) : Bool :=
  t.entries.any fun entry => entry.1 = key

theorem get?_insert (t : Table κ α) (key key' : κ) (value : α) :
    (t.insert key value).get? key' = if key = key' then some value else t.get? key' := by
  unfold get? insert
  by_cases h : key = key'
  · simp [h]
  · have hfilter : ((t.entries.filter fun entry => entry.1 ≠ key).find? fun entry =>
        entry.1 = key') = t.entries.find? fun entry => entry.1 = key' := by
      rw [List.find?_filter]
      congr 1
      funext entry
      by_cases hentry : entry.1 = key'
      · simp [hentry, Ne.symm h]
      · simp [hentry]
    rw [List.find?_cons_of_neg (by simpa using h), hfilter, if_neg h]

theorem contains_eq_isSome_get? (t : Table κ α) (key : κ) : t.contains key = (t.get? key).isSome := by
  rw [get?, Option.isSome_map, contains, Bool.eq_iff_iff, List.find?_isSome, List.any_eq_true]

end Table
end SysReg
