import Mathlib.Tactic.Lemma
import SysReg.Text.Search

/-!
# Lines and cuts of a text

A line that a text begins with is its first line, whatever way it ends, and the first occurrence of
a character is where a text is cut.
-/

namespace SysReg.Text

variable {line : List Char}

/-! ## Cuts -/

lemma cutAt?_append {sep : Char} {before : List Char} (h : sep ∉ before) (after : List Char) :
    cutAt? sep (before ++ sep :: after) = some (before, after) := by
  induction before with
  | nil => exact if_pos rfl
  | cons c cs ih =>
    rw [List.mem_cons, not_or] at h
    rw [List.cons_append, cutAt?, if_neg (Ne.symm h.1), ih h.2]
    rfl

/-- A run of characters of a kind goes as far as the first other character. -/
lemma takeWhile_and_dropWhile_append {p : Char → Bool} {run rest : List Char}
    (hrun : ∀ c ∈ run, p c = true) (hrest : ∀ c ∈ rest.head?, p c = false) :
    (run ++ rest).takeWhile p = run ∧ (run ++ rest).dropWhile p = rest := by
  have hstop : rest.takeWhile p = [] ∧ rest.dropWhile p = rest := by
    cases rest with
    | nil => exact ⟨rfl, rfl⟩
    | cons c cs =>
      have hc : ¬p c = true := by
        rw [hrest c rfl]
        exact Bool.false_ne_true
      exact ⟨List.takeWhile_cons_of_neg hc, List.dropWhile_cons_of_neg hc⟩
  rw [List.takeWhile_append_of_pos hrun, List.dropWhile_append_of_pos hrun, hstop.1, hstop.2,
    List.append_nil]
  exact ⟨rfl, rfl⟩

/-! ## Ends of a line -/

lemma dropReturn_append_return (line : List Char) : dropReturn (line ++ ['\r']) = line := by
  rw [dropReturn, if_pos List.getLast?_concat, List.dropLast_concat]

lemma dropReturn_eq_self (h : line.getLast? ≠ some '\r') : dropReturn line = line :=
  if_neg h

/-- What may stand behind the last line of a text. -/
def lineEnds : List (List Char) :=
  [[], ['\n'], ['\r', '\n']]

/-! ## Lines -/

/-- The condition of splitting, element by element. -/
lemma beq_newline_eq_false (h : '\n' ∉ line) : ∀ c ∈ line, (c == '\n') = false := by
  intro c hc
  rw [beq_eq_false_iff_ne]
  rintro rfl
  exact h hc

lemma lines_nil : lines [] = [] := by
  decide

lemma lines_append_newline (h : '\n' ∉ line) (rest : List Char) :
    lines (line ++ '\n' :: rest) = dropReturn line :: lines rest := by
  have hsplit : (line ++ '\n' :: rest).splitOn '\n' = line :: rest.splitOn '\n' := by
    simp only [List.splitOn_eq_splitOnP]
    exact List.splitOnP_append_cons_of_forall_mem (beq_newline_eq_false h) _ (beq_self_eq_true _)
      rest
  obtain ⟨piece, pieces, hpieces⟩ := List.exists_cons_of_ne_nil (List.splitOn_ne_nil '\n' rest)
  rw [lines, lines, hsplit, hpieces]
  rfl

lemma lines_of_not_mem (h : '\n' ∉ line) (hne : line ≠ []) : lines line = [line] := by
  have hsplit : line.splitOn '\n' = [line] := by
    rw [List.splitOn_eq_splitOnP]
    exact List.splitOnP_eq_singleton (beq_newline_eq_false h)
  rw [lines, hsplit, linesOfPieces, if_neg (by simpa using hne)]

/-- A line is the only one of its text, whatever way it ends. -/
lemma lines_append_end (h : '\n' ∉ line) (hne : line ≠ []) (hreturn : line.getLast? ≠ some '\r')
    {lineEnd : List Char} (hend : lineEnd ∈ lineEnds) : lines (line ++ lineEnd) = [line] := by
  simp only [lineEnds, List.mem_cons, List.not_mem_nil, or_false] at hend
  rcases hend with rfl | rfl | rfl
  · rw [List.append_nil, lines_of_not_mem h hne]
  · rw [lines_append_newline h, dropReturn_eq_self hreturn, lines_nil]
  · have hnot : '\n' ∉ line ++ ['\r'] := by simpa using h
    have hsplit : line ++ ['\r', '\n'] = (line ++ ['\r']) ++ '\n' :: [] := by simp
    rw [hsplit, lines_append_newline hnot, dropReturn_append_return, lines_nil]

end SysReg.Text
