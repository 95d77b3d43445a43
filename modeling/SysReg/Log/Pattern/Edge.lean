import SysReg.Log.Pattern.CharSet

/-!
# Edges

Places between characters: the ends of a text, of its lines and of its words. Whether a place is such
an edge depends only on the characters beside it.
-/

namespace SysReg.Log.Pattern

/-- A kind of place between characters. -/
inductive Edge where
  | textStart
  | textEnd
  /-- The start of a line; a carriage return may end the line before it. -/
  | lineStart (withReturn : Bool)
  /-- The end of a line, which a carriage return may end. -/
  | lineEnd (withReturn : Bool)
  /-- A place where a word starts or ends. -/
  | word
  /-- A place where no word starts or ends. -/
  | noWord
  | wordStart
  | wordEnd
  deriving DecidableEq, Repr

namespace Edge

/-- The edge is about words. -/
def isOfWord : Edge → Bool
  | word | noWord | wordStart | wordEnd => true
  | _ => false

/-- The character beside a place belongs to a word. -/
def inWord (c : Option Char) : Bool :=
  c.any CharSet.wordChars.contains

/-- The edge is at the place between two characters, of which there is none at an end of the text. -/
def isAt (before after : Option Char) : Edge → Bool
  | textStart => before.isNone
  | textEnd => after.isNone
  | lineStart false => before.isNone || before == some '\n'
  | lineStart true =>
    before.isNone || before == some '\n' || (before == some '\r' && after != some '\n')
  | lineEnd false => after.isNone || after == some '\n'
  | lineEnd true =>
    after.isNone || after == some '\r' || (after == some '\n' && before != some '\r')
  | word => inWord before != inWord after
  | noWord => inWord before == inWord after
  | wordStart => !inWord before && inWord after
  | wordEnd => inWord before && !inWord after

end Edge
end SysReg.Log.Pattern
