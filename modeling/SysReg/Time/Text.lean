import SysReg.Text.Blank
import SysReg.Text.Numeral
import SysReg.Text.Search
import SysReg.Time.Basic

/-!
# Texts of times

A time is written as `year-month-dayThour:minute:second`, with the shortest fraction of none, three,
six or nine digits that loses nothing, and a zone that is always that of universal time. Reading is
more liberal: blanks may stand before a number, a separator and the zone, the first two numbers of a
clock zone may be apart, and a fraction may have any number of digits, of which nine count.
-/

namespace SysReg.Time

/-! ## Writing -/

/-- A decimal numeral with zeros in front up to the given number of digits. -/
def digits (width n : Nat) : String :=
  String.ofList ((Nat.toDigits 10 n).leftpad width '0')

/-- A year: four digits from 0 to 9999, and a sign before at least four digits otherwise. -/
def yearText (year : Int) : String :=
  if year < 0 then "-" ++ digits 4 year.natAbs
  else if year ≤ 9999 then digits 4 year.natAbs
  else "+" ++ digits 4 year.natAbs

/-- The fraction of a second, as short as its last digits allow. -/
def fractionText (nano : Nat) : String :=
  if nano = 0 then ""
  else if nano % 1000000 = 0 then "." ++ digits 3 (nano / 1000000)
  else if nano % 1000 = 0 then "." ++ digits 6 (nano / 1000)
  else "." ++ digits 9 nano

/-- Date and clock, without a zone. -/
def clockText (t : Time) : String :=
  yearText t.date.year ++ "-" ++ digits 2 t.date.month ++ "-" ++ digits 2 t.date.day ++ "T" ++
    digits 2 t.hour ++ ":" ++ digits 2 t.minute ++ ":" ++ digits 2 t.second ++ fractionText t.nano

/-- The form in documents, with the zone `Z`. -/
def zuluText (t : Time) : String :=
  t.clockText ++ "Z"

/-- The form in reports, with the zone `+00:00`. -/
def offsetText (t : Time) : String :=
  t.clockText ++ "+00:00"

/-! ## Reading

Each reader takes one piece off the front of a text and leaves the rest. -/

/-- The longest run of at most `most` digits. -/
def digitRun (most : Nat) (cs : List Char) : List Char :=
  (cs.take most).takeWhile Char.isDigit

/-- A number of one up to `most` digits. -/
def readNumber (most : Nat) (cs : List Char) : Option (Nat × List Char) :=
  let run := digitRun most cs
  if run.isEmpty then none else some (Nat.ofDigitChars 10 run 0, cs.drop run.length)

/-- A number of one or two digits after blanks. -/
def readShort (cs : List Char) : Option (Nat × List Char) :=
  readNumber 2 (Text.trimStart cs)

/-- A separator after blanks. -/
def readSeparator (separator : Char) (cs : List Char) : Option (List Char) :=
  match Text.trimStart cs with
  | c :: rest => if c = separator then some rest else none
  | [] => none

/-- A year after blanks: up to four digits, or a sign and any number of them. -/
def readYear (cs : List Char) : Option (Int × List Char) :=
  match Text.trimStart cs with
  | '-' :: rest => (readNumber rest.length rest).map fun (n, rest) => (-(n : Int), rest)
  | '+' :: rest => (readNumber rest.length rest).map fun (n, rest) => ((n : Int), rest)
  | cs => (readNumber 4 cs).map fun (n, rest) => ((n : Int), rest)

/-- A date. -/
def readDate (cs : List Char) : Option (Date × List Char) := do
  let (year, cs) ← readYear cs
  let cs ← readSeparator '-' cs
  let (month, cs) ← readShort cs
  let cs ← readSeparator '-' cs
  let (day, cs) ← readShort cs
  let date ← Date.of? year month day
  return (date, cs)

/-- The letter or blank between date and clock. -/
def readJoint : List Char → Option (List Char)
  | 'T' :: cs | 't' :: cs | ' ' :: cs => some cs
  | _ => none

/-- A fraction in nanoseconds; without a point it is zero. -/
def readFraction : List Char → Option (Nat × List Char)
  | '.' :: cs =>
    let run := digitRun 9 cs
    if run.isEmpty then none
    else some (Nat.ofDigitChars 10 run 0 * Nat.pow 10 (9 - run.length),
      (cs.drop run.length).dropWhile Char.isDigit)
  | cs => some (0, cs)

/-- Two digits. -/
def readPair : List Char → Option (Nat × List Char)
  | a :: b :: cs =>
    if a.isDigit && b.isDigit then some (Nat.ofDigitChars 10 [a, b] 0, cs) else none
  | _ => none

/-- The hours and minutes of a zone, in minutes; blanks and colons may stand between them. -/
def readOffset (cs : List Char) : Option (Nat × List Char) := do
  let (hours, cs) ← readPair cs
  let (minutes, cs) ← readPair (cs.dropWhile fun c => c == ':' || Text.isBlank c)
  if minutes < 60 then some (60 * hours + minutes, cs) else none

/-- A zone: `Z`, `UTC`, or the minutes by which its clock is ahead, less than a day. -/
def readZone (cs : List Char) : Option (Int × List Char) :=
  if (cs.take 3).map Char.toUpper = ['U', 'T', 'C'] then some (0, cs.drop 3)
  else
    match cs with
    | 'Z' :: cs | 'z' :: cs => some (0, cs)
    | '+' :: cs => do
      let (minutes, cs) ← readOffset cs
      if minutes < 1440 then some ((minutes : Int), cs) else none
    | '-' :: cs | '\u2212' :: cs => do
      let (minutes, cs) ← readOffset cs
      if minutes < 1440 then some (-(minutes : Int), cs) else none
    | _ => none

/-- A number below a bound. -/
def below? (bound : Nat) (n : Nat) : Option (Fin bound) :=
  if h : n < bound then some ⟨n, h⟩ else none

/-- The time that a text names; only blanks may follow the zone. -/
def read? (text : List Char) : Option Time := do
  let (date, cs) ← readDate text
  let cs ← readJoint cs
  let (hour, cs) ← readShort cs
  let cs ← readSeparator ':' cs
  let (minute, cs) ← readShort cs
  let cs ← readSeparator ':' cs
  let (second, cs) ← readShort cs
  let (nano, cs) ← readFraction cs
  let (ahead, cs) ← readZone (Text.trimStart cs)
  if (Text.trimStart cs).isEmpty then
    ofLocal? date (← below? 24 hour) (← below? 60 minute) (← below? 61 second)
      (← below? 1000000000 nano) ahead
  else none

/-- The time that a string names. -/
def ofText? (text : String) : Option Time :=
  read? text.toList

end SysReg.Time
