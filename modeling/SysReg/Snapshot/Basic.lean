import SysReg.Reading

/-!
# Snapshots

A snapshot holds readings that were taken together, in the order in which they were taken, at most
one for each name. `Snapshot.push?` adds a reading and refuses a second one for a name.
-/

namespace SysReg

/-- Readings taken together. -/
structure Snapshot where
  label : String
  filter : Option Category
  createdAt : Time
  readings : List Reading
  distinct : readings.Pairwise fun a b => a.name ≠ b.name
  deriving DecidableEq

namespace Snapshot

/-- A snapshot without readings. -/
def empty (label : String) (filter : Option Category) (createdAt : Time) : Snapshot :=
  ⟨label, filter, createdAt, [], .nil⟩

/-- The reading for a name. -/
def get? (s : Snapshot) (name : String) : Option Reading :=
  s.readings.find? (·.name = name)

/-- The number of readings. -/
def size (s : Snapshot) : Nat :=
  s.readings.length

theorem get?_eq_none_iff {s : Snapshot} {name : String} :
    s.get? name = none ↔ ∀ r ∈ s.readings, r.name ≠ name := by
  simp [get?]

theorem pairwise_append_singleton {readings : List Reading} {r : Reading}
    (h : readings.Pairwise fun a b => a.name ≠ b.name) (hr : ∀ a ∈ readings, a.name ≠ r.name) :
    (readings ++ [r]).Pairwise fun a b => a.name ≠ b.name := by
  rw [List.pairwise_append]
  refine ⟨h, List.pairwise_singleton _ _, fun a ha b hb => ?_⟩
  rw [List.mem_singleton.1 hb]
  exact hr a ha

/-- The snapshot with one reading more, unless it holds a reading for that name. -/
def push? (s : Snapshot) (r : Reading) : Except Failure Snapshot :=
  if h : s.get? r.name = none then
    .ok { s with
      readings := s.readings ++ [r]
      distinct := pairwise_append_singleton s.distinct (get?_eq_none_iff.1 h) }
  else .error (.snapshot (.repeatedRegister r.name))

/-- The tally of the readings. -/
def tally (s : Snapshot) : Tally :=
  .ofList s.readings

end Snapshot
end SysReg
