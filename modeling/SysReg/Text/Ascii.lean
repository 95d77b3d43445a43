/-!
# Case in ASCII

Names and notations ignore the case of the letters A to Z only.
-/

namespace SysReg.Text

/-- The text with the letters A to Z in lower case and all else as it is. -/
def asciiLower (cs : List Char) : List Char :=
  cs.map Char.toLower

/-- The text with the letters a to z in upper case and all else as it is. -/
def asciiUpper (cs : List Char) : List Char :=
  cs.map Char.toUpper

/-- A string in the form in which two strings agree when they differ in ASCII case only. -/
def fold (s : String) : String :=
  String.ofList (asciiLower s.toList)

end SysReg.Text
