import SysReg.Text.Hidden
import SysReg.Text.Numeral

/-!
# Quoted texts

A text in double quotes, with every character that does not show spelled out, so that two texts that
differ also look different.
-/

namespace SysReg.Text

/-- A character as it stands inside quotes. -/
def shown (c : Char) : List Char :=
  match c with
  | '\x00' => ['\\', '0']
  | '\t' => ['\\', 't']
  | '\r' => ['\\', 'r']
  | '\n' => ['\\', 'n']
  | '\\' => ['\\', '\\']
  | '"' => ['\\', '"']
  | c =>
    if isHidden c then ['\\', 'u', '\x7b'] ++ Numeral.hexDigits c.toNat ++ ['\x7d'] else [c]

/-- A text in quotes. -/
def quoted (s : String) : String :=
  String.ofList ('"' :: s.toList.flatMap shown ++ ['"'])

end SysReg.Text
