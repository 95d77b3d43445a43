import SysReg.Shell.Tool.Basic
import SysReg.Time.Text

/-!
# Tools that tell about the machine

Who is at work, on what machine and when.
-/

namespace SysReg.Shell.Tool

/-- Prints a text that does not depend on operands. -/
def saying (text : String) : Tool := withOptions [] 1 (fun c a => do
  match a.operands with
  | extra :: _ => c.misuse 1 ("extra operand " ++ quoted extra)
  | [] =>
    Run.print (text ++ "\n")
    return 0) false

/-- The name of the machine. -/
def machineName : String := "localhost"

/-- Prints who is at work. -/
def whoami : Tool := saying "root"

/-- Prints the name of the machine. -/
def hostname : Tool := withOptions
  [plain 'f' "fqdn", plain 's' "short", plain 'i' "ip-address", plain 'd' "domain"] 255 (fun _ _ => do
  Run.print (machineName ++ "\n")
  return 0) false

/-- Prints the number of processors. -/
def nproc : Tool := withOptions [plain '\x03' "all", valued '\x04' "ignore"] 1 (fun _ _ => do
  Run.print "1\n"
  return 0) false

/-- Says that the input is no terminal. -/
def tty : Tool := withOptions [plain 's' "silent", plain 's' "quiet"] 2 (fun _ a => do
  if !a.has 's' then Run.print "not a tty\n"
  return 1) false

/-- Prints the name of the system. -/
def uname : Tool := withOptions
  [plain 'a' "all", plain 's' "kernel-name", plain 'n' "nodename", plain 'r' "kernel-release",
    plain 'v' "kernel-version", plain 'm' "machine", plain 'p' "processor", plain 'i' "hardware-platform",
    plain 'o' "operating-system"] 1 (fun c a => do
  match a.operands with
  | extra :: _ => c.misuse 1 ("extra operand " ++ quoted extra)
  | [] =>
    let parts := [('s', "Linux"), ('n', machineName), ('r', "6.1.0"), ('v', "#1 SMP"), ('m', "x86_64"),
      ('p', "x86_64"), ('i', "x86_64"), ('o', "GNU/Linux")]
    let shown := parts.filter fun (letter, _) => a.has 'a' || a.has letter
    let shown := if shown.isEmpty then parts.take 1 else shown
    Run.print (" ".intercalate (shown.map (·.2)) ++ "\n")
    return 0) false

/-- Prints the numbers and names of who is at work. -/
def identity : Tool := withOptions
  [plain 'a' "", plain 'g' "group", plain 'G' "groups", plain 'n' "name", plain 'r' "real",
    plain 'u' "user", plain 'z' "zero"] 1 (fun c a => do
  match a.operands with
  | name :: _ =>
    if name != "root" && name != "0" then c.fail 1 (quoted name ++ ": no such user")
    else tell a
  | [] => tell a) false
where
  /-- Prints what the options ask for. -/
  tell (a : Arguments) : Run Nat := do
    let one := a.has 'g' || a.has 'G' || a.has 'u'
    Run.print (if one then if a.has 'n' then "root\n" else "0\n"
      else "uid=0(root) gid=0(root) groups=0(root)\n")
    return 0

/-! ## Dates -/

/-- The names of days. -/
def dayNames : List String :=
  ["Sunday", "Monday", "Tuesday", "Wednesday", "Thursday", "Friday", "Saturday"]

/-- The names of months. -/
def monthNames : List String :=
  ["January", "February", "March", "April", "May", "June", "July", "August", "September", "October",
    "November", "December"]

/-- The number of a day in its year, counted from one. -/
def dayOfYear (d : Date) : Nat :=
  ((List.range' 1 (d.month - 1)).map (daysInMonth d.year)).foldl (· + ·) 0 + d.day

/-- The number of days from the start of 1970. -/
def dayNumber (d : Date) : Int :=
  let year := d.year - 1
  let leaps (y : Int) : Int := y / 4 - y / 100 + y / 400
  365 * (d.year - 1970) + (leaps year - leaps 1969) + dayOfYear d - 1

/-- The day of the week, where Sunday is zero. -/
def weekday (d : Date) : Nat :=
  ((dayNumber d + 4) % 7).toNat

/-- The weeks of the year that begin up to a day, where weeks begin on a day. -/
def weekOfYear (first : Nat) (d : Date) : Nat :=
  (dayOfYear d + 6 - (weekday d + 7 - first) % 7) / 7

/-- The year and the week of it in which most of the week of a day lies. -/
def isoWeek (d : Date) : Int × Nat :=
  let day := (weekday d + 6) % 7
  let week := (dayOfYear d + 9 - day) / 7
  let long (year : Int) : Bool :=
    ((Date.of? year 12 31).map fun last => weekday last == 4 || (weekday last == 5 && isLeapYear year)).getD
      false
  if week == 0 then (d.year - 1, if long (d.year - 1) then 53 else 52)
  else if week == 53 && !long d.year then (d.year + 1, 1)
  else (d.year, week)

/-- The seconds from the start of 1970 to a time. -/
def unixSeconds (t : Time) : Int :=
  86400 * dayNumber t.date + 3600 * t.hour.val + 60 * t.minute.val + t.second.val

/-- What a letter stands for in the form of a date: a text, or a number with its width and what fills it
up. -/
def datePart (t : Time) (letter : Char) : Option (String ⊕ (Int × Nat × Char)) :=
  let number (n : Int) (width : Nat) (filler : Char) : Option (String ⊕ (Int × Nat × Char)) :=
    some (.inr (n, width, filler))
  let text (s : String) : Option (String ⊕ (Int × Nat × Char)) := some (.inl s)
  let two (n : Nat) : String := Time.digits 2 n
  let clock := two t.hour.val ++ ":" ++ two t.minute.val ++ ":" ++ two t.second.val
  let day := two t.date.day
  let month := two t.date.month
  let year := Numeral.signedDecimal t.date.year
  let short := two (t.date.year % 100).toNat
  let half := if t.hour.val % 12 == 0 then 12 else t.hour.val % 12
  let dayName := dayNames.getD (weekday t.date) ""
  let monthName := monthNames.getD (t.date.month - 1) ""
  let brief (s : String) : String := (s.take 3).toString
  match letter with
  | 'Y' => number t.date.year 1 '0'
  | 'y' => number (t.date.year % 100) 2 '0'
  | 'C' => number (t.date.year / 100) 2 '0'
  | 'm' => number t.date.month 2 '0'
  | 'd' => number t.date.day 2 '0'
  | 'e' => number t.date.day 2 ' '
  | 'H' => number t.hour.val 2 '0'
  | 'k' => number t.hour.val 2 ' '
  | 'I' => number half 2 '0'
  | 'l' => number half 2 ' '
  | 'M' => number t.minute.val 2 '0'
  | 'S' => number t.second.val 2 '0'
  | 'N' => number t.nano.val 9 '0'
  | 's' => number (unixSeconds t) 1 '0'
  | 'j' => number (dayOfYear t.date) 3 '0'
  | 'u' => number (if weekday t.date == 0 then 7 else weekday t.date) 1 '0'
  | 'w' => number (weekday t.date) 1 '0'
  | 'U' => number (weekOfYear 0 t.date) 2 '0'
  | 'W' => number (weekOfYear 1 t.date) 2 '0'
  | 'V' => number (isoWeek t.date).2 2 '0'
  | 'G' => number (isoWeek t.date).1 1 '0'
  | 'g' => number ((isoWeek t.date).1 % 100) 2 '0'
  | 'q' => number ((t.date.month + 2) / 3) 1 '0'
  | 'a' => text (brief dayName)
  | 'A' => text dayName
  | 'b' | 'h' => text (brief monthName)
  | 'B' => text monthName
  | 'p' => text (if t.hour.val < 12 then "AM" else "PM")
  | 'P' => text (if t.hour.val < 12 then "am" else "pm")
  | 'D' | 'x' => text (month ++ "/" ++ day ++ "/" ++ short)
  | 'F' => text (year ++ "-" ++ month ++ "-" ++ day)
  | 'T' | 'X' => text clock
  | 'R' => text (two t.hour.val ++ ":" ++ two t.minute.val)
  | 'r' => text (two half ++ (clock.drop 2).toString ++ (if t.hour.val < 12 then " AM" else " PM"))
  | 'c' => text (brief dayName ++ " " ++ brief monthName ++ " " ++
      String.ofList ((Nat.toDigits 10 t.date.day).leftpad 2 ' ') ++ " " ++ clock ++ " " ++ year)
  | 'Z' => text "UTC"
  | 'z' => text "+0000"
  | 'n' => text "\n"
  | 't' => text "\t"
  | '%' => text "%"
  | _ => none

/-- A form with the parts of a time put in. The number is at least that of the characters. -/
def dateText (t : Time) : Nat → List Char → List Char
  | 0, _ | _, [] => []
  | n + 1, '%' :: cs =>
    let flags := cs.takeWhile fun c => ['-', '_', '0', '^', '#', '+', ':'].contains c
    let digits := (cs.drop flags.length).takeWhile Char.isDigit
    match cs.drop (flags.length + digits.length) with
    | [] => '%' :: cs
    | letter :: rest =>
      let width := Real.ofDigits digits
      let found := match datePart t letter with
        | none => '%' :: cs.take (flags.length + digits.length + 1)
        | some (.inl s) =>
          let s := if flags.contains ':' && letter == 'z' then "+00:00" else s
          let cs := if flags.contains '^' then s.toList.map Char.toUpper else s.toList
          cs.leftpad width ' '
        | some (.inr (k, least, filler)) =>
          let filler := if flags.contains '_' then ' ' else if flags.contains '0' then '0' else filler
          let digits := (Numeral.decimal k.natAbs).toList
          (if k < 0 then ['-'] else []) ++
            (if flags.contains '-' then digits else digits.leftpad (max least width) filler)
      found ++ dateText t n rest
  | n + 1, c :: cs => c :: dateText t n cs

/-- The time that a text names. -/
def timeOf? (now : Time) (text : String) : Option Time :=
  let cs := text.toList
  match cs with
  | '@' :: digits =>
    if !digits.isEmpty && digits.all Char.isDigit then
      Time.ofUnixNanos? (Real.ofDigits digits * 1000000000)
    else none
  | _ =>
    if text == "now" || text == "today" || text.isEmpty then some now
    else
      match Time.readDate cs with
      | none => none
      | some (date, rest) =>
        if rest.isEmpty then some (Time.ofClock date 0 0 0)
        else
          let numbers := ((rest.drop 1).splitOn ':').map fun part =>
            if part.all Char.isDigit && !part.isEmpty then some (Real.ofDigits part) else none
          match numbers with
          | [some h, some m] =>
            if h < 24 && m < 60 then some (Time.ofClock date h m 0) else none
          | [some h, some m, some s] =>
            if h < 24 && m < 60 && s < 61 then some (Time.ofClock date h m s) else none
          | _ => none

/-- When the first script begins, in seconds from the start of 1970. -/
def beginning : Nat := 1700000000

/-- Prints the date. -/
def date : Tool := withOptions
  [valued 'd' "date", valued 'f' "file", ⟨'I', "iso-8601", .optional⟩, plain 'R' "rfc-email",
    valued '\x03' "rfc-3339", valued 'r' "reference", valued 's' "set", plain 'u' "utc",
    plain 'u' "universal", plain '\x04' "debug"] 1 (fun c a => do
  let clock := (← get).clock
  let now := (Time.ofUnixNanos? (beginning * 1000000000 + clock * 1000000)).getD Time.epoch
  let named := (a.value? 'd').getD "now"
  match timeOf? now named, a.operands with
  | none, _ => c.fail 1 ("invalid date " ++ quoted named)
  | some t, operands =>
    let form? : Option String := match operands with
      | [] =>
        some (if a.has 'R' then "%a, %d %b %Y %T %z"
          else match a.value? 'I' with
            | some kind =>
              if kind.startsWith "s" then "%FT%T%:z" else if kind.startsWith "m" then "%FT%R%:z"
              else if kind.startsWith "h" then "%FT%H%:z" else "%F"
            | none =>
              if a.has '\x03' then if a.value? '\x03' == some "date" then "%F" else "%F %T%:z"
              else "%a %b %e %T %Z %Y")
      | [form] => if form.startsWith "+" then some (form.drop 1).toString else none
      | _ => none
    match form?, operands with
    | some form, _ =>
      Run.print (String.ofList (dateText t form.length form.toList) ++ "\n")
      return 0
    | none, [text] => c.fail 1 ("invalid date " ++ quoted text)
    | none, _ => c.misuse 1 ("extra operand " ++ quoted (operands.getD 1 ""))) false

end SysReg.Shell.Tool
