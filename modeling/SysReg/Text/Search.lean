/-!
# Lines and parts of a text

A line ends with a newline, or with a carriage return and a newline; the end is no part of it. The
last line may do without an end, and an end at the end of the text starts no further line.

The parts of a text: cutting a prefix off, splitting at the first occurrence of a character, and
looking for one text inside another.
-/

/-! ## Lines -/

namespace SysReg.Text

/-- The line without a carriage return at its end. -/
def dropReturn (line : List Char) : List Char :=
  if line.getLast? = some '\r' then line.dropLast else line

/-- The lines among the pieces between newlines. -/
def linesOfPieces : List (List Char) → List (List Char)
  | [] => []
  | [last] => if last.isEmpty then [] else [last]
  | line :: rest => dropReturn line :: linesOfPieces rest

/-- The lines of a text. -/
def lines (text : List Char) : List (List Char) :=
  linesOfPieces (text.splitOn '\n')

/-! ## Parts -/

/-- What follows `p`, if the text starts with it. -/
def dropPrefix? : (p text : List Char) → Option (List Char)
  | [], text => some text
  | _ :: _, [] => none
  | p :: ps, c :: cs => if p = c then dropPrefix? ps cs else none

/-- The text starts with `p`. -/
def startsWith (p text : List Char) : Bool :=
  (dropPrefix? p text).isSome

/-- What follows the first occurrence of `needle`, if there is one. -/
def after? (needle : List Char) : List Char → Option (List Char)
  | [] => dropPrefix? needle []
  | c :: cs =>
    match dropPrefix? needle (c :: cs) with
    | some rest => some rest
    | none => after? needle cs

/-- `needle` stands somewhere in the text. -/
def contains (needle text : List Char) : Bool :=
  (after? needle text).isSome

/-- The parts before and after the first occurrence of a character, if there is one. -/
def cutAt? (sep : Char) : List Char → Option (List Char × List Char)
  | [] => none
  | c :: cs => if c = sep then some ([], cs) else (cutAt? sep cs).map fun (a, b) => (c :: a, b)

theorem dropPrefix?_eq_some_iff {p text rest : List Char} :
    dropPrefix? p text = some rest ↔ text = p ++ rest := by
  induction p generalizing text with
  | nil => simp [dropPrefix?, eq_comm]
  | cons a p ih =>
    cases text with
    | nil => simp [dropPrefix?]
    | cons c cs =>
      by_cases h : a = c
      · simp [dropPrefix?, h, ih]
      · simp [dropPrefix?, h, Ne.symm h]

theorem startsWith_iff {p text : List Char} : startsWith p text = true ↔ p <+: text := by
  simp only [startsWith, Option.isSome_iff_exists, dropPrefix?_eq_some_iff]
  exact ⟨fun ⟨t, h⟩ => ⟨t, h.symm⟩, fun ⟨t, h⟩ => ⟨t, h.symm⟩⟩

/-- `contains` finds every occurrence and nothing else. -/
theorem contains_iff {needle text : List Char} : contains needle text = true ↔ needle <:+: text := by
  induction text with
  | nil =>
    cases needle <;> simp [contains, after?, dropPrefix?]
  | cons c cs ih =>
    rw [List.infix_cons_iff, ← ih, ← startsWith_iff]
    simp only [contains, startsWith, after?]
    split <;> rename_i h <;> simp [h]

end SysReg.Text
