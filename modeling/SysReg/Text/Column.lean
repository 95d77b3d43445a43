/-!
# Columns

Tables line their columns up by padding with blanks. A text is padded to a number of characters; a
width that is taken from the texts themselves is a number of UTF-8 bytes, so a column with other
than ASCII characters comes out wider than its widest text.
-/

namespace SysReg.Text

/-- The text with blanks behind it, to at least `width` characters. -/
def padRight (width : Nat) (s : String) : String :=
  s ++ String.ofList (List.replicate (width - s.toList.length) ' ')

/-- The text with blanks in front of it, to at least `width` characters. -/
def padLeft (width : Nat) (s : String) : String :=
  String.ofList (List.replicate (width - s.toList.length) ' ') ++ s

/-- The width of a column for the given texts. -/
def columnWidth (texts : List String) : Nat :=
  (texts.map String.utf8ByteSize).foldl max 0

/-- The lines, each with its end. -/
def ofLines (lines : List String) : String :=
  String.join (lines.map (· ++ "\n"))

end SysReg.Text
