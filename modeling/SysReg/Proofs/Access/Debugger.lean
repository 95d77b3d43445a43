import SysReg.Access.Debugger
import SysReg.Proofs.Encoding.Notation
import SysReg.Proofs.Text.Blank
import SysReg.Proofs.Text.Lines
import SysReg.Proofs.Word

/-!
# The value in a debugger's output

A debugger prints the name of a register, an equals sign, the value in hexadecimal and perhaps a
description of it.  The first line that names the register and is no echo of the command decides
(`valueIn?_of_prints`), so that neither the lines in front nor those behind matter.
-/

namespace SysReg

/-! ## Literals -/

namespace Text

/-- The first occurrence of a text is found where its first character occurs first. -/
lemma after?_append {c : Char} {needle before : List Char} (h : c ∉ before) (rest : List Char) :
    after? (c :: needle) (before ++ (c :: needle ++ rest)) = some rest := by
  induction before with
  | nil =>
    have hdrop : dropPrefix? (c :: needle) (c :: needle ++ rest) = some rest :=
      dropPrefix?_eq_some_iff.2 rfl
    rw [List.nil_append, List.cons_append, after?, ← List.cons_append, hdrop]
  | cons d ds ih =>
    rw [List.mem_cons, not_or] at h
    rw [List.cons_append, after?, dropPrefix?, if_neg h.1]
    exact ih h.2

end Text

namespace Debugger

variable {w : Word} {e : Encoding} {line : List Char}

/-- The digits of a literal end where the description of the value begins. -/
lemma hexLiteral?_of_speltBy {digits before description : List Char} (hbefore : '0' ∉ before)
    (hdigits : w.SpeltBy digits)
    (hdescription : ∀ c ∈ description.head?, Numeral.isHexDigit c = false) :
    hexLiteral? (before ++ '0' :: 'x' :: (digits ++ description)) = some w := by
  have hafter : Text.after? ['0', 'x'] (before ++ '0' :: 'x' :: (digits ++ description)) =
      some (digits ++ description) :=
    Text.after?_append hbefore _
  have htake : (digits ++ description).takeWhile Numeral.isHexDigit = digits :=
    (Text.takeWhile_and_dropWhile_append hdigits.hex hdescription).1
  obtain ⟨c, cs, hcons⟩ := List.exists_cons_of_ne_nil hdigits.nonempty
  have hvalue := hdigits.value
  rw [hcons] at htake hvalue
  rw [hexLiteral?, hafter, hcons]
  simp only [htake, hvalue]
  rfl

/-! ## Lines -/

/-- The line with which a debugger answers: the register, the value in hexadecimal, and perhaps a
description that does not go on with digits. -/
def Prints (e : Encoding) (w : Word) (line : List Char) : Prop :=
  ∃ hex ∈ w.hexSpellings, ∃ description : List Char,
    (∀ c ∈ description.head?, Numeral.isHexDigit c = false) ∧
      line = e.canonical.toList ++ ([' ', '=', ' '] ++ (hex.toList ++ description))

/-- The name of a register holds no equals sign, so the line is cut behind it. -/
lemma assigned?_of_prints (h : Prints e w line) : assigned? line = some w := by
  obtain ⟨hex, hhex, description, hdescription, hline⟩ := h
  obtain ⟨digits, htext, hdigits⟩ := Word.exists_speltBy hhex
  have hequals : '=' ∉ e.canonical.toList ++ [' '] := by
    simp [Encoding.not_mem_canonical (c := '=') (by decide) (by decide) e]
  have hsplit : line =
      (e.canonical.toList ++ [' ']) ++ '=' :: ([' '] ++ (hex.toList ++ description)) := by
    rw [hline, List.append_assoc]
    rfl
  rw [assigned?, hsplit, Text.cutAt?_append hequals]
  simp only [htext, List.cons_append]
  exact @hexLiteral?_of_speltBy w digits [' '] description (by decide) hdigits hdescription

/-- A line that begins with a canonical spelling is no echo, since an echo begins with a bracket. -/
lemma isOwnLine_append (e : Encoding) (rest : List Char) :
    isOwnLine e.canonical.toList (e.canonical.toList ++ rest) = true := by
  have hcontains : Text.contains e.canonical.toList (e.canonical.toList ++ rest) = true :=
    Text.contains_iff.2 (List.prefix_append _ _).isInfix
  have hs : e.canonical.toList = 's' :: e.canonical.toList.tail := by
    simp [Encoding.canonical, String.toList_append]
  rw [isOwnLine, hcontains, hs, List.cons_append, Text.trimStart_cons (by decide)]
  rfl

lemma isOwnLine_of_prints (h : Prints e w line) : isOwnLine e.canonical.toList line = true := by
  obtain ⟨hex, -, description, -, hline⟩ := h
  exact hline ▸ isOwnLine_append e _

/-! ## Outputs -/

/-- The value of the first of a register's own lines is taken, whatever stands around it. -/
lemma valueIn?_of_prints {output : List Char} (before : List (List Char))
    {after : List (List Char)} (hlines : Text.lines output = before ++ line :: after)
    (hbefore : ∀ l ∈ before, isOwnLine e.canonical.toList l = false) (h : Prints e w line) :
    valueIn? output e.canonical = some w := by
  have hown : (Text.lines output).filter (isOwnLine e.canonical.toList) =
      line :: after.filter (isOwnLine e.canonical.toList) := by
    have hnone : before.filter (isOwnLine e.canonical.toList) = [] :=
      List.filter_eq_nil_iff.2 fun l hl => by simp [hbefore l hl]
    rw [hlines, List.filter_append, hnone, List.nil_append,
      List.filter_cons_of_pos (isOwnLine_of_prints h)]
  simp only [valueIn?, hown, List.findSome?_cons, assigned?_of_prints h, Option.some_or]

end Debugger
end SysReg
