import SysReg.Proofs.Decoding
import SysReg.Proofs.Session.Calls

/-!
# Interrupted dumps

A dump that lacks a register was stopped by its caller, and it says so.  The converse does not hold:
the caller sees the last register as well and may stop the dump there, when nothing is left to read.
Such a dump is complete and is marked as interrupted all the same
(`complete_dump_interrupted`).  This is the only way in which the mark and the completeness of a
dump disagree (`interrupted_iff`).

Both sides are read off the attempts that the dump made: how many there are tells whether a register
is missing, and what the caller answered at the last of them is the mark.
-/

namespace SysReg

variable {σ : Type}

namespace Attempt

/-- The attempts were made on all registers, and the caller stopped them at the last one. -/
def StoppedAtEnd (selected : List Definition) (attempts : List Attempt) : Prop :=
  attempts.length = selected.length ∧ ∃ last, attempts.getLast? = some last ∧ last.stop = true

namespace Cover

variable {ds : List Definition} {attempts : List Attempt} {stopped : Bool}

lemma length_le (h : Cover ds attempts stopped) : attempts.length ≤ ds.length := by
  have hlength := congrArg List.length h.definitions
  rw [List.length_map, List.length_take] at hlength
  omega

/-- The attempts were stopped exactly if the caller answered so at the last one. -/
lemma stopped_iff (h : Cover ds attempts stopped) :
    stopped = true ↔ ∃ last, attempts.getLast? = some last ∧ last.stop = true := by
  constructor
  · intro hstopped
    obtain ⟨earlier, last, rfl, hlast, -⟩ := h.stop_last hstopped
    exact ⟨last, List.getLast?_concat, hlast⟩
  · rintro ⟨last, hmem, hlast⟩
    by_contra hnot
    rw [Bool.not_eq_true] at hnot
    have hnever := (h.stop_never hnot).2
    rw [hnever last (List.mem_of_getLast? hmem)] at hlast
    exact Bool.false_ne_true hlast

/-- Attempts that leave a register out were stopped. -/
lemma stopped_of_length_lt (h : Cover ds attempts stopped) (hshort : attempts.length < ds.length) :
    stopped = true := by
  by_contra hnot
  rw [Bool.not_eq_true] at hnot
  have hall := (h.stop_never hnot).1
  omega

lemma stopped_iff_length_lt_or (h : Cover ds attempts stopped) :
    stopped = true ↔ attempts.length < ds.length ∨ StoppedAtEnd ds attempts := by
  constructor
  · intro hstopped
    rcases Nat.lt_or_eq_of_le h.length_le with hshort | hall
    · exact .inl hshort
    · exact .inr ⟨hall, h.stopped_iff.1 hstopped⟩
  · rintro (hshort | ⟨-, hlast⟩)
    · exact h.stopped_of_length_lt hshort
    · exact h.stopped_iff.2 hlast

end Cover
end Attempt

/-- The dump holds the readings of attempts on the first of the selected registers.  It is marked as
interrupted if it lacks a register, or if the caller stopped it at the last one; so the mark says
that a register is missing, and nothing else, unless the caller stopped it there. -/
structure Dump.MarkedFor (dump : Dump) (selected : List Definition) (attempts : List Attempt) :
    Prop where
  definitions : attempts.map Attempt.definition = selected.take attempts.length
  readings : dump.snapshot.readings = attempts.map Attempt.reading
  size_le : dump.snapshot.size ≤ selected.length
  marked : dump.interrupted = true ↔
    dump.snapshot.size < selected.length ∨ Attempt.StoppedAtEnd selected attempts
  faithful : (dump.interrupted = true ↔ dump.snapshot.size < selected.length) ↔
    ¬Attempt.StoppedAtEnd selected attempts

lemma Dump.markedFor_of_cover {dump : Dump} {selected : List Definition} {attempts : List Attempt}
    (hcover : Attempt.Cover selected attempts dump.interrupted)
    (hreadings : dump.snapshot.readings = attempts.map Attempt.reading) :
    dump.MarkedFor selected attempts := by
  have hsize : dump.snapshot.size = attempts.length := by
    rw [Snapshot.size, hreadings, List.length_map]
  have hmark := hcover.stopped_iff_length_lt_or
  rw [← hsize] at hmark
  refine ⟨hcover.definitions, hreadings, hsize ▸ hcover.length_le, hmark, ?_⟩
  -- Attempts that reach the last register leave none out, so the two cases exclude each other.
  have hapart : Attempt.StoppedAtEnd selected attempts →
      ¬dump.snapshot.size < selected.length := fun hend => by
    rw [hsize, hend.1]
    exact Nat.lt_irrefl _
  rw [hmark, or_iff_left_iff_imp]
  exact ⟨fun h hend => hapart hend (h hend), fun hnot hend => absurd hend hnot⟩

namespace Session

/-- **A dump is marked as interrupted if it is incomplete, or stopped at the last register.**
Whatever the reader and the caller do, a dump comes to an end, and with a trace it does the same.
The trace holds attempts on the first of the selected registers, whose readings the dump holds; a
dump that lacks a register is marked, and so is one that has them all if the caller stopped it at
the last of them, but no other. -/
theorem interrupted_iff (s : Session) (tools : Instruments (StateM σ))
    (watch : Reading → StateM σ Bool) (c : Catalog) (label : String) (filter : Option Category)
    (w : σ) :
    ∃ s' dump w' attempts,
      (s.dumpWatched tools c label filter watch).run w = ((s', dump), w') ∧
      (s.dumpWatched tools.traced c label filter (tracedWatch watch)).run (w, []) =
        ((s', dump), w', attempts.flatMap Attempt.exchanges) ∧
      dump.MarkedFor (c.select filter) attempts := by
  obtain ⟨dump, s', ⟨w', trace⟩, htraced, hrun, -⟩ :=
    s.exists_run tools.traced (tracedWatch watch) c label filter (w, [])
  obtain ⟨attempts, hcover, hreadings, htrace⟩ := hrun.exists_attempts
  -- The trace of the clock is empty, so the run leaves nothing but the exchanges.
  obtain rfl : trace = attempts.flatMap Attempt.exchanges := htrace
  have herased := (erasesTo_dumpWatched s c label filter).run_eq htraced
  exact ⟨s', dump, w', attempts, herased, htraced, Dump.markedFor_of_cover hcover hreadings.symm⟩

/-- A caller who stops at the only register of a catalog gets a dump with every register in it,
which is marked as interrupted. -/
theorem complete_dump_interrupted :
    ∃ s' dump, (start.dumpWatched (m := StateM Unit) ⟨fun _ => pure (.ok 0), pure .epoch⟩
        Catalog.overflowing "full" none fun _ => pure true).run () = ((s', dump), ()) ∧
      dump.snapshot.size = (Catalog.overflowing.select none).length ∧
      ¬(dump.interrupted = true ↔
        dump.snapshot.size < (Catalog.overflowing.select none).length) :=
  ⟨_, _, rfl, rfl, by decide⟩

end Session
end SysReg
