import SysReg.Shell.Tool.Basic

/-!
# Tools that print a part of their input

The first lines or octets of files, or the last ones.
-/

namespace SysReg.Shell.Tool

/-- The parts of a text that count: its lines with their ends, or its octets. -/
def unitsOf (byLine : Bool) (separator : Char) (text : List Char) : List (List Char) :=
  if byLine then
    let pieces := text.splitOn separator
    let last := pieces.getLast?.getD []
    pieces.dropLast.map (· ++ [separator]) ++ (if last.isEmpty then [] else [last])
  else text.map ([·])

/-- How much is printed. -/
structure Amount where
  count : Nat
  byLine : Bool
  /-- A sign in front of the number. -/
  sign : Option Char
  deriving DecidableEq, Repr

/-- The amount that a text names. -/
def amountOf? (byLine : Bool) (text : String) : Option Amount :=
  let (sign, digits) := match text.toList with
    | '-' :: cs => (some '-', cs)
    | '+' :: cs => (some '+', cs)
    | cs => (none, cs)
  (magnitude? digits).map (⟨·, byLine, sign⟩)

/-- The amount among options, of which the last one counts, or else what is wrong. -/
def amountIn (a : Arguments) : Except String Amount :=
  match (a.options.filter fun o => o.1 == 'n' || o.1 == 'c').getLast? with
  | none => .ok ⟨10, true, none⟩
  | some (letter, text) =>
    match amountOf? (letter == 'n') text with
    | some found => .ok found
    | none => .error ("invalid number of " ++ (if letter == 'n' then "lines" else "bytes") ++ ": " ++
        quoted (text.dropWhile (· == '-')).toString)

/-- Prints a part of each file, under its name if there are more: whether all could be read. What is not
used of the input can be read again if the input is a file. -/
def printParts (c : ToolCall) (named : Bool) (part : List Char → List Char)
    (used : List Char → Nat) : (isFirst : Bool) → List String → Run Bool
  | _, [] => return true
  | isFirst, path :: paths => do
    let heading := (if isFirst then "" else "\n") ++ "==> " ++
      (if path == "-" then "standard input" else path) ++ " <==\n"
    let p ← get
    let stream? := if path == "-" then p.channels.streamOf? 0 else none
    match ← readFile path with
    | .error fault =>
      if fault == .isADirectory then
        if named then Run.print heading
        c.report ("error reading " ++ quoted path ++ ": " ++ fault.reason)
        let _ ← printParts c named part used false paths
        return false
      else
        c.report ("cannot open " ++ quoted path ++ " for reading: " ++ fault.reason)
        let _ ← printParts c named part used isFirst paths
        return false
    | .ok text =>
      match stream? with
      | some number =>
        if p.channels.isSeekable number then
          set { p with channels := p.channels.skip number (used text) }
      | none => pure ()
      if named then Run.print heading
      Run.print (String.ofList (part text))
      printParts c named part used false paths

/-- Prints the parts that options ask for. -/
def excerpt (part : Amount → Char → List Char → List Char)
    (used : Amount → Char → List Char → Nat) (c : ToolCall) (a : Arguments) : Run Nat := do
  match amountIn a with
  | .error text => c.fail 1 text
  | .ok amount =>
    let separator := if a.has 'z' then '\x00' else '\n'
    let paths := if a.operands.isEmpty then ["-"] else a.operands
    let named := match a.lastOf? ['q', 'v'] with
      | some letter => letter == 'v'
      | none => 1 < paths.length
    return statusIf (← printParts c named (part amount separator) (used amount separator) true paths)

/-- The options of tools that print a part. -/
def excerptForms : List OptionForm :=
  [valued 'c' "bytes", valued 'n' "lines", plain 'q' "quiet", plain 'q' "silent", plain 'v' "verbose",
    plain 'z' "zero-terminated"]

/-- The first units of a text. -/
def headOf (amount : Amount) (separator : Char) (text : List Char) : List Char :=
  let units := unitsOf amount.byLine separator text
  (if amount.sign == some '-' then units.take (units.length - amount.count)
    else units.take amount.count).flatten

/-- The last units of a text. -/
def tailOf (amount : Amount) (separator : Char) (text : List Char) : List Char :=
  let units := unitsOf amount.byLine separator text
  (if amount.sign == some '+' then units.drop (amount.count - 1)
    else units.drop (units.length - amount.count)).flatten

/-- An old spelling of an amount, as an option. -/
def spelledOut (signs : List Char) (arguments : List String) : List String :=
  match arguments with
  | argument :: rest =>
    match argument.toList with
    | sign :: digits =>
      let count := digits.takeWhile Char.isDigit
      let letters := digits.drop count.length
      if signs.contains sign && !count.isEmpty && letters.all fun l => ['c', 'l', 'q', 'v', 'f'].contains l
      then
        let text := String.ofList (if sign == '+' then '+' :: count else count)
        (letters.filter fun l => l == 'q' || l == 'v').map (fun l => "-" ++ l.toString) ++
          ((if letters.contains 'c' then "-c" else "-n") ++ text) :: rest
      else arguments
    | [] => arguments
  | [] => []

/-- Prints the first lines. -/
def head : Tool := fun c arguments => do
  let letters := (arguments.head?.map fun text =>
    if text.startsWith "-" then ((text.drop 1).toString.toList.dropWhile Char.isDigit) else []).getD []
  let isOld := (arguments.head?.map fun text => ((text.drop 1).toString.toList.head?.any Char.isDigit)).getD
    false
  match letters.find? fun l => !(['b', 'c', 'k', 'm', 'l', 'q', 'v', 'z'].contains l) with
  | some letter => if isOld then return ← c.misuse 1 ("invalid trailing option -- " ++ letter.toString)
  | none => pure ()
  withOptions excerptForms 1
    (excerpt headOf fun amount separator text => (headOf amount separator text).length) false c
    (spelledOut ['-'] arguments)

/-- Prints the last lines. -/
def tail : Tool := fun c arguments =>
  withOptions (excerptForms ++ [⟨'f', "follow", .optional⟩, plain 'F' "", plain '\x03' "retry",
    valued 's' "sleep-interval", valued '\x04' "pid"]) 1
    (excerpt tailOf fun _ _ text => text.length) false c (spelledOut ['-', '+'] arguments)

/-! ## Counting -/

/-- What is counted of a text: its lines, words, characters, octets and the longest line. -/
def countsOf (text : List Char) : List Nat :=
  let isBlank (c : Char) : Bool := c == ' ' || ('\t' ≤ c && c ≤ '\x0d')
  let words := (text.splitBy fun a b => isBlank a == isBlank b).filter fun part => !part.all isBlank
  let column (n : Nat) (c : Char) : Nat :=
    if c == '\t' then n / 8 * 8 + 8 else if c < ' ' || '\x7e' < c then n else n + 1
  let longest := ((text.splitOn '\n').map (·.foldl column 0)).foldl max 0
  [text.count '\n', words.length, text.length, text.length, longest]

/-- The counts that are asked for, in order. -/
def countsAsked (a : Arguments) : List Bool :=
  let asked := ['l', 'w', 'm', 'c', 'L'].map a.has
  if asked.any id then asked else [true, true, false, true, false]

/-- Prints counts in front of a name. -/
def printCounts (asked : List Bool) (width : Nat) (counts : List Nat) (name : String) : Run Unit :=
  let shown := ((counts.zip asked).filter (·.2)).map fun (n, _) =>
    String.ofList ((Nat.toDigits 10 n).leftpad width ' ')
  Run.print (" ".intercalate shown ++ (if name.isEmpty then "" else " " ++ name) ++ "\n")

/-- The input is a file, so that its size is known before it is read. -/
def isSized (path : String) : Run (Option Nat) := do
  let p ← get
  if path == "-" then
    match (p.channels.streamOf? 0).map p.channels.stream with
    | some (.opened place _ _) => return some (p.channels.tree.octetsAt place).length
    | _ => return none
  else
    match p.channels.tree.find path with
    | .ok (.file octets _) => return some octets.length
    | .ok _ => return none
    | .error _ => return some 0

/-- Counts lines, words and octets. -/
def wc : Tool := withOptions
  [plain 'c' "bytes", plain 'm' "chars", plain 'l' "lines", plain 'L' "max-line-length",
    plain 'w' "words", valued '\x03' "files0-from", valued '\x04' "total"] 1 (fun c a => do
  let asked := countsAsked a
  let paths := if a.operands.isEmpty then ["-"] else a.operands
  let sizes ← paths.mapM isSized
  let width :=
    if paths.length == 1 && asked.count true == 1 then 1
    else if sizes.any Option.isNone then 7
    else (Nat.toDigits 10 ((sizes.filterMap id).foldl (· + ·) 0)).length
  let found ← paths.mapM fun path => do
    let name := if a.operands.isEmpty then "" else path
    match ← readFile path with
    | .ok text =>
      printCounts asked width (countsOf text) name
      return (countsOf text, true)
    | .error fault =>
      c.report (path ++ ": " ++ fault.reason)
      if fault == .isADirectory then printCounts asked width [0, 0, 0, 0, 0] name
      return ([0, 0, 0, 0, 0], false)
  if 1 < paths.length then
    let add (x y : List Nat) : List Nat := x.zipWith (· + ·) y
    let sums := (found.map (·.1)).foldl add [0, 0, 0, 0, 0]
    let longest := (found.map fun (counts, _) => counts.getD 4 0).foldl max 0
    printCounts asked width (sums.take 4 ++ [longest]) "total"
  return statusIf (found.all (·.2))) false

end SysReg.Shell.Tool
