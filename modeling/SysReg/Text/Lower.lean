import SysReg.Text.LetterCase

/-!
# Lower case of a text

The lower case of a text, character by character, except that a capital sigma becomes the final form
of the letter at the end of a word, and that one capital letter becomes two characters.
-/

namespace SysReg.Text

/-- The first character that counts for case is a cased letter. -/
def leadsWithCased (cs : List Char) : Bool :=
  match cs.dropWhile isCaseIgnorable with
  | c :: _ => isCased c
  | [] => false

/-- The lower case of a character between the characters before it, in reverse, and those after. -/
def lowerAt (before : List Char) (c : Char) (after : List Char) : List Char :=
  if c = 'Σ' then [if leadsWithCased before && !leadsWithCased after then 'ς' else 'σ']
  else if c = 'İ' then ['i', '\u0307']
  else if c.toNat < 128 then [c.toLower]
  else [lowerChar c]

/-- The lower case of a text that follows other characters, which are given in reverse. -/
def lowerFrom (before : List Char) : List Char → List Char
  | [] => []
  | c :: after => lowerAt before c after ++ lowerFrom (c :: before) after

/-- The lower case of a text. -/
def lower (cs : List Char) : List Char :=
  lowerFrom [] cs

end SysReg.Text
