import SysReg.Shell.Real

/-!
# Directives

How one value is put into a form: a letter says what it is, and in front of the letter stands how wide it
is to be, how exact, and what fills it up.
-/

namespace SysReg.Shell

/-- How one value is put into a form. -/
structure Directive where
  flags : List Char
  width : Nat
  precision : Option Nat
  letter : Char
  deriving DecidableEq, Repr

/-- A directive whose width and precision may be values themselves. -/
structure OpenDirective where
  flags : List Char
  /-- Or else the width is a value. -/
  width : Option Nat
  /-- Or else, if there is one, the precision is a value. -/
  precision : Option (Option Nat)
  /-- Letters that say how long a number is. -/
  modifiers : List Char
  letter : Option Char
  deriving DecidableEq, Repr

namespace OpenDirective

/-- A number at the start of a text, and what follows it. -/
def numberAt (cs : List Char) : Nat × List Char :=
  let digits := Real.digitsAt cs
  (Real.ofDigits digits, cs.drop digits.length)

/-- The directive at the start of a text, behind its percent sign, and what follows it. -/
def ofChars (modifiers : List Char) (cs : List Char) : OpenDirective × List Char :=
  let flags := cs.takeWhile fun c => ['-', '+', ' ', '0', '#', '\x27'].contains c
  let rest := cs.drop flags.length
  let (width, rest) := match rest with
    | '*' :: rest => (none, rest)
    | rest =>
      let (n, rest) := numberAt rest
      (some n, rest)
  let (precision, rest) := match rest with
    | '.' :: '*' :: rest => (some none, rest)
    | '.' :: '-' :: rest => (none, rest.dropWhile Char.isDigit)
    | '.' :: rest =>
      let (n, rest) := numberAt rest
      (some (some n), rest)
    | rest => (none, rest)
  let found := rest.takeWhile modifiers.contains
  let rest := rest.drop found.length
  (⟨flags, width, precision, found, rest.head?⟩, rest.drop 1)

/-- The text of the directive up to its letter. -/
def text (cs rest : List Char) : String :=
  String.ofList ('%' :: cs.take (cs.length - rest.length))

end OpenDirective

namespace Directive

/-- The directive with the values of its width and precision. A negative width is one that fills up on
the right, and a negative precision is none. -/
def ofOpen (d : OpenDirective) (letter : Char) (width precision : Int) : Directive where
  flags := if d.width.isNone && width < 0 then '-' :: d.flags else d.flags
  width := d.width.getD width.natAbs
  precision :=
    match d.precision with
    | none => none
    | some none => if precision < 0 then none else some precision.toNat
    | some (some n) => some n
  letter := letter

/-- Puts a text, in front of which a sign or mark stands, into the width. -/
def padded (d : Directive) (zeros : Bool) (mark : List Char) (text : List Char) : List Char :=
  let missing := d.width - (mark.length + text.length)
  if d.flags.contains '-' then mark ++ text ++ List.replicate missing ' '
  else if zeros && d.flags.contains '0' then mark ++ List.replicate missing '0' ++ text
  else List.replicate missing ' ' ++ mark ++ text

/-- The sign in front of a number. -/
def sign (d : Directive) (isNegative : Bool) : List Char :=
  if isNegative then ['-'] else if d.flags.contains '+' then ['+']
  else if d.flags.contains ' ' then [' '] else []

/-- Digits with zeros in front of them up to the precision. -/
def precise (d : Directive) (digits : List Char) : List Char :=
  List.replicate (d.precision.getD 1 - digits.length) '0' ++ digits

/-- The digits of a number, of which there are none for a zero without places. -/
def digits (d : Directive) (base n : Nat) : List Char :=
  if n == 0 && d.precision == some 0 then [] else Nat.toDigits base n

/-- An integer in decimal. -/
def signed (d : Directive) (n : Int) : List Char :=
  d.padded d.precision.isNone (d.sign (n < 0)) (d.precise (d.digits 10 n.natAbs))

/-- A natural number in the base that the letter names. -/
def unsigned (d : Directive) (n : Nat) : List Char :=
  let alternative := d.flags.contains '#'
  match d.letter with
  | 'o' =>
    let found := d.precise (d.digits 8 n)
    d.padded d.precision.isNone []
      (if alternative && found.head? != some '0' then '0' :: found else found)
  | 'x' =>
    d.padded d.precision.isNone (if alternative && n != 0 then ['0', 'x'] else [])
      (d.precise (d.digits 16 n))
  | 'X' =>
    d.padded d.precision.isNone (if alternative && n != 0 then ['0', 'X'] else [])
      ((d.precise (d.digits 16 n)).map Char.toUpper)
  | _ => d.padded d.precision.isNone [] (d.precise (d.digits 10 n))

/-- A real number. -/
def real (d : Directive) (x : Real) : List Char :=
  let found := Real.spelled d.letter.toLower d.precision (d.flags.contains '#') x
  let zeros := match x with
    | .fraction _ _ _ => true
    | _ => false
  d.padded zeros (d.sign x.isNegative) (if d.letter.isUpper then found.map Char.toUpper else found)

/-- A text, of which the precision leaves so many characters. -/
def text (d : Directive) (cs : List Char) : List Char :=
  d.padded false [] (match d.precision with
    | some most => cs.take most
    | none => cs)

/-- The first character of a text, or else none or the one with the number zero. -/
def character (d : Directive) (orZero : Bool) (cs : List Char) : List Char :=
  d.padded false [] (match cs with
    | c :: _ => [c]
    | [] => if orZero then ['\x00'] else [])

end Directive
end SysReg.Shell
