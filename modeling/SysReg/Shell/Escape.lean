import SysReg.Text.Numeral

/-!
# Escapes

What a backslash and the characters behind it stand for in texts that are printed.
-/

namespace SysReg.Shell.Escape

/-- The characters that a letter behind a backslash stands for. -/
def letters : List (Char × Char) :=
  [('a', '\x07'), ('b', '\x08'), ('e', '\x1b'), ('f', '\x0c'), ('n', '\n'), ('r', '\x0d'), ('t', '\t'),
    ('v', '\x0b'), ('\\', '\\')]

/-- The octet of up to so many digits of a base at the start of a text, and what follows them. -/
def octetAt? (base most : Nat) (cs : List Char) : Option (Char × List Char) :=
  let digits := (cs.take most).takeWhile fun c => (Numeral.digitValue? c).any (· < base)
  if digits.isEmpty then none
  else
    let n := digits.foldl (fun n c => base * n + (Numeral.digitValue? c).getD 0) 0
    some (Char.ofNat (n % 256), cs.drop digits.length)

/-- What is behind a backslash stands for an octet, and what follows it. -/
def simpleAt? (cs : List Char) : Option (Char × List Char) :=
  match cs with
  | [] => none
  | c :: rest =>
    match letters.lookup c with
    | some d => some (d, rest)
    | none => octetAt? 8 3 cs

/-- What is behind a backslash stands for an octet, to which up to three digits behind a zero or two
behind an `x` may belong, and what follows it. -/
def fullAt? (hexadecimal : Bool) (cs : List Char) : Option (Char × List Char) :=
  match cs with
  | '0' :: rest => (octetAt? 8 3 rest).or (some ('\x00', rest))
  | 'x' :: rest => if hexadecimal then octetAt? 16 2 rest else none
  | 'E' :: rest => if hexadecimal then some ('\x1b', rest) else none
  | _ => simpleAt? cs

/-- A text with its escapes replaced, and whether one of them ends all output. The number is at least
that of the characters. -/
def replaced (escapeAt? : List Char → Option (Char × List Char)) :
    Nat → List Char → List Char × Bool
  | 0, _ | _, [] => ([], false)
  | n + 1, '\\' :: cs =>
    if cs.head? == some 'c' then ([], true)
    else
      match escapeAt? cs with
      | some (d, rest) =>
        let (others, ends) := replaced escapeAt? n rest
        (d :: others, ends)
      | none =>
        let (others, ends) := replaced escapeAt? n cs
        ('\\' :: others, ends)
  | n + 1, c :: cs =>
    let (others, ends) := replaced escapeAt? n cs
    (c :: others, ends)

/-- The text with its escapes replaced, and whether one of them ends all output. -/
def ofText (hexadecimal : Bool) (text : String) : List Char × Bool :=
  replaced (fullAt? hexadecimal) (text.length + 1) text.toList

/-- What is printed of words between blanks: with their escapes, and with an end of line unless an
escape ends all output before it. -/
def echo (withEscapes hexadecimal ended : Bool) (words : List String) : String :=
  let text := " ".intercalate words
  let ending := if ended then "\n" else ""
  if withEscapes then
    let (found, ends) := ofText hexadecimal text
    String.ofList found ++ (if ends then "" else ending)
  else text ++ ending

end SysReg.Shell.Escape
