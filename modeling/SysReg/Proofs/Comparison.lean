import SysReg.Comparison
import SysReg.Proofs.Access.Table
import SysReg.Proofs.Result

/-!
# Comparison of agreeing snapshots

A reading has at most one counterpart in a snapshot, the reading of its name and encoding.  Where a
second snapshot repeats all readings of a first one and goes on with other registers, the comparison
lists the first one's readings as unchanged or unreadable and adds the rest (`compare_of_agrees`).
-/

namespace SysReg

/-- Two readings of one register with one outcome. -/
structure Reading.Agrees (r r' : Reading) : Prop where
  name : r'.name = r.name
  encoding : r'.encoding = r.encoding
  outcome : r'.outcome = r.outcome

namespace Catalog

variable {s : Snapshot} {r r' : Reading}

lemma counterpart?_eq_some (hmem : r' ∈ s.readings) (hname : r'.name = r.name)
    (hencoding : r'.encoding = r.encoding) : counterpart? s r = some r' := by
  have hfind : s.get? r.name = some r' := by
    rw [Snapshot.get?, ← hname]
    exact find?_key_eq_some s.distinct hmem
  rw [counterpart?, hfind, Option.filter_some, if_pos (decide_eq_true hencoding)]

lemma counterpart?_eq_none
    (h : ∀ r' ∈ s.readings, ¬(r'.name = r.name ∧ r'.encoding = r.encoding)) :
    counterpart? s r = none := by
  rw [counterpart?, Option.filter_eq_none_iff]
  intro r' hfind
  have hname : r'.name = r.name := by simpa using List.find?_some hfind
  have hencoding : r'.encoding ≠ r.encoding := fun hencoding =>
    h r' (List.mem_of_find?_eq_some hfind) ⟨hname, hencoding⟩
  simpa using hencoding

/-- The entry of a register that was read twice with one outcome. -/
def keptEntry (r : Reading) : ComparisonEntry :=
  ⟨r.name, r.encoding, r.value?, r.value?, if r.succeeded then .unchanged else .unreadable⟩

lemma entryOf_eq_ok (c : Catalog) (hmem : r' ∈ s.readings) (h : r.Agrees r') :
    c.entryOf s r = .ok (keptEntry r) := by
  have hvalue : r'.value? = r.value? := by
    rw [Reading.value?, h.outcome, ← Reading.value?]
  have hchange : c.changeBetween r r' =
      .ok (if r.succeeded then .unchanged else .unreadable) := by
    rw [changeBetween, hvalue, Reading.succeeded]
    cases r.value? with
    | none => rfl
    | some w => simp
  rw [entryOf, counterpart?_eq_some hmem h.name h.encoding]
  change (c.changeBetween r r' >>= _) = _
  rw [hchange, hvalue]
  rfl

/-- A snapshot that repeats the readings of another one and goes on with other registers differs
from it by the registers that it goes on with. -/
lemma compare_of_agrees (c : Catalog) {a b : Snapshot} {again rest : List Reading}
    (hreadings : b.readings = again ++ rest)
    (hagain : List.Forall₂ Reading.Agrees a.readings again)
    (hrest : ∀ r ∈ rest, ∀ r' ∈ a.readings, ¬(r'.name = r.name ∧ r'.encoding = r.encoding)) :
    c.compare a b = .ok ⟨a.readings.map keptEntry ++ rest.map addedEntry⟩ := by
  have hentries : a.readings.mapM (c.entryOf b) = .ok (a.readings.map keptEntry) := by
    rw [mapM_eq_ok_iff, List.forall₂_map_right_iff, List.forall₂_same]
    intro r hr
    obtain ⟨r', hr', hagrees⟩ := exists_mem_of_forall₂ hagain hr
    exact c.entryOf_eq_ok (hreadings ▸ List.mem_append_left rest hr') hagrees
  have hkept : (again.filter fun after => (counterpart? a after).isNone) = [] := by
    rw [List.filter_eq_nil_iff]
    intro r' hr'
    obtain ⟨r, hr, hagrees⟩ := exists_mem_of_forall₂ hagain.flip hr'
    rw [counterpart?_eq_some hr hagrees.name.symm hagrees.encoding.symm]
    exact Bool.false_ne_true
  have hadded : (rest.filter fun after => (counterpart? a after).isNone) = rest := by
    rw [List.filter_eq_self]
    intro r hr
    rw [counterpart?_eq_none (hrest r hr)]
    rfl
  rw [compare, hentries, hreadings, List.filter_append, hkept, hadded, List.nil_append]
  rfl

end Catalog
end SysReg
