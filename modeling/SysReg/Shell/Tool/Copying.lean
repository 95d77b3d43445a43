import SysReg.Shell.Tool.Basic

/-!
# Tools that copy their input

What is read is printed with little change: with numbers, with what is hidden made visible, from the end
to the start, or to more than one file.
-/

namespace SysReg.Shell.Tool

/-! ## Concatenation -/

/-- How files are concatenated. -/
structure CopyRules where
  /-- Lines are numbered, all or only those with something in them. -/
  numbering : Option Bool
  squeezes : Bool
  showsEnds : Bool
  showsTabs : Bool
  showsHidden : Bool

/-- Where a concatenation is: the number of lines that were numbered, and the ends of lines in a row. -/
structure CopyPlace where
  numbered : Nat
  ends : Nat
  deriving DecidableEq, Repr

/-- The spelling of an octet of which nothing stays hidden. -/
def visible (n : Nat) : List Char :=
  if 128 ≤ n then 'M' :: '-' :: low (n - 128) else low n
where
  /-- The spelling of an octet below 128. -/
  low (n : Nat) : List Char :=
    if n < 32 then ['^', Char.ofNat (n + 64)] else if n == 127 then ['^', '?'] else [Char.ofNat n]

/-- A number in front of a line. -/
def lineNumber (n : Nat) : List Char :=
  (Nat.toDigits 10 n).leftpad 6 ' ' ++ ['\t']

/-- Copies characters: the text, the last part first, and the place behind it. -/
def copied (r : CopyRules) (place : CopyPlace) (done : List Char) : List Char → List Char × CopyPlace
  | [] => (done, place)
  | c :: cs =>
    if c == '\n' then
      if r.squeezes && 2 ≤ place.ends then copied r place done cs
      else
        let isNumbered := place.ends != 0 && r.numbering == some true
        let n := if isNumbered then place.numbered + 1 else place.numbered
        let front := if isNumbered then lineNumber n else []
        let text := front ++ (if r.showsEnds then ['$', '\n'] else ['\n'])
        copied r ⟨n, place.ends + 1⟩ (text.reverse ++ done) cs
    else
      let isNumbered := place.ends != 0 && r.numbering.isSome
      let n := if isNumbered then place.numbered + 1 else place.numbered
      let front := if isNumbered then lineNumber n else []
      let text :=
        if c == '\t' then if r.showsTabs then ['^', 'I'] else ['\t']
        else if r.showsHidden then visible c.toNat else [c]
      copied r ⟨n, 0⟩ ((front ++ text).reverse ++ done) cs

/-- Copies files one after the other: whether all could be read. -/
def copyFiles (c : ToolCall) (r : CopyRules) : CopyPlace → List String → Run Bool
  | _, [] => return true
  | place, path :: paths => do
    let p ← get
    let output := (p.channels.streamOf? 1).map p.channels.stream
    let isOutput := match output, (p.channels.tree.locate true path).toOption with
      | some (.opened place _ _), some (found, _) => place == found && path != "-"
      | _, _ => false
    match ← readFile path with
    | .error fault =>
      c.report (path ++ ": " ++ fault.reason)
      let _ ← copyFiles c r place paths
      return false
    | .ok text =>
      if isOutput && !text.isEmpty then
        c.report (path ++ ": input file is output file")
        let _ ← copyFiles c r place paths
        return false
      else
        let (found, place) := copied r place [] text
        Run.print (String.ofList found.reverse)
        copyFiles c r place paths

/-- Concatenates files. -/
def cat : Tool := withOptions
  [plain 'A' "show-all", plain 'b' "number-nonblank", plain 'e' "", plain 'E' "show-ends",
    plain 'n' "number", plain 's' "squeeze-blank", plain 't' "", plain 'T' "show-tabs", plain 'u' "",
    plain 'v' "show-nonprinting"] 1 (fun c a => do
  let rules : CopyRules :=
    { numbering := if a.has 'b' then some false else if a.has 'n' then some true else none
      squeezes := a.has 's'
      showsEnds := a.has 'A' || a.has 'e' || a.has 'E'
      showsTabs := a.has 'A' || a.has 't' || a.has 'T'
      showsHidden := a.has 'A' || a.has 'e' || a.has 't' || a.has 'v' }
  if ((← get).channels.streamOf? 1).isNone then
    c.fail 1 "standard output: Bad file descriptor"
  else
    let paths := if a.operands.isEmpty then ["-"] else a.operands
    let isGood ← copyFiles c rules ⟨0, 1⟩ paths
    if paths.contains "-" && ((← get).channels.streamOf? 0).isNone then
      c.fail 1 "closing standard input: Bad file descriptor"
    else return statusIf isGood) false

/-! ## From the end to the start -/

/-- Prints lines from the last to the first. -/
def tac : Tool := withOptions
  [plain 'b' "before", plain 'r' "regex", valued 's' "separator"] 1 (fun c a => do
  let separator := ((a.value? 's').bind (·.toList.head?)).getD '\n'
  let paths := if a.operands.isEmpty then ["-"] else a.operands
  let found ← paths.mapM fun path => do
    match ← readFile path with
    | .error fault =>
      let isDirectory := fault == .isADirectory
      c.report (if isDirectory then path ++ ": read error: Invalid argument"
        else "failed to open " ++ quoted path ++ " for reading: " ++ fault.reason)
      return false
    | .ok text =>
      let pieces := text.splitOn separator
      let ended := pieces.dropLast.map (· ++ [separator])
      Run.print (String.ofList ((ended ++ [pieces.getLast?.getD []]).reverse.flatten))
      return true
  return statusIf (found.all id)) false

/-- Prints the characters of each line from the last to the first. -/
def rev : Tool := withOptions [] 1 (fun c a => do
  let (texts, isGood) ← readFiles c (fun path => "cannot open " ++ path) a.operands
  texts.forM fun (_, text) =>
    let (lines, ended) := linesOf text
    Run.print (ofLines (lines.map List.reverse) ended)
  return statusIf isGood) false

/-! ## To more than one file -/

/-- Copies its input to the output and to files. -/
def tee : Tool := withOptions
  [plain 'a' "append", plain 'i' "ignore-interrupts", plain 'p' "", ⟨'\x03', "output-error", .optional⟩] 1
  (fun c a => do
  let opened ← a.operands.mapM fun path => do
    let p ← get
    match p.channels.openPath (if a.has 'a' then .toAppend else .toWrite false) path with
    | .ok (channels, number) =>
      set { p with channels }
      return some number
    | .error fault =>
      c.report (path ++ ": " ++ fault.reason)
      return none
  let text := String.ofList ((← readFile "-").toOption.getD [])
  Run.print text
  opened.forM fun number? => do
    match number? with
    | some number => modify fun p =>
        { p with channels := (p.channels.writeTo number text).toOption.getD p.channels }
    | none => pure ()
  return statusIf (opened.all Option.isSome)) false

/-! ## Numbers in front of lines -/

/-- How lines are numbered. -/
structure NumberRules where
  /-- The lines with a number, in the head, the body and the foot of a page: all, those with something
  in them, or none. -/
  styles : List Char
  width : Nat
  behind : List Char
  start : Int
  step : Int
  form : String

/-- A number in front of a line. -/
def placedNumber (r : NumberRules) (n : Int) : List Char :=
  let digits := (Numeral.signedDecimal n).toList
  match r.form with
  | "ln" => digits ++ List.replicate (r.width - digits.length) ' '
  | "rz" =>
    if n < 0 then '-' :: (digits.drop 1).leftpad (r.width - 1) '0' else digits.leftpad r.width '0'
  | _ => digits.leftpad r.width ' '

/-- Lines with numbers, from one in a part of a page on: the text. -/
def numbered (r : NumberRules) (n : Int) (part : Nat) : List (List Char) → List (List Char)
  | [] => []
  | line :: lines =>
    match [['\\', ':', '\\', ':', '\\', ':'], ['\\', ':', '\\', ':'], ['\\', ':']].idxOf? line with
    | some part => [] :: numbered r (if part == 0 then r.start else n) part lines
    | none =>
      let style := r.styles.getD part 'n'
      if style == 'a' || (style == 't' && !line.isEmpty) then
        (placedNumber r n ++ r.behind ++ line) :: numbered r (n + r.step) part lines
      else (List.replicate (r.width + r.behind.length) ' ' ++ line) :: numbered r n part lines

/-- Numbers lines. -/
def nl : Tool := withOptions
  [valued 'b' "body-numbering", valued 'd' "section-delimiter", valued 'f' "footer-numbering",
    valued 'h' "header-numbering", valued 'i' "line-increment", valued 'l' "join-blank-lines",
    valued 'n' "number-format", plain 'p' "no-renumber", valued 's' "number-separator",
    valued 'v' "starting-line-number", valued 'w' "number-width"] 1 (fun c a => do
  let style (letter default : Char) : Char := ((a.value? letter).bind (·.toList.head?)).getD default
  let styles := [style 'h' 'n', style 'b' 't', style 'f' 'n']
  let width := ((a.value? 'w').getD "6").toNat?.getD 0
  match styles.find? fun s => !(['a', 't', 'n', 'p'].contains s) with
  | some _ => c.misuse 1 ("invalid body numbering style: " ++ quoted ((a.value? 'b').getD ""))
  | none =>
    if width == 0 then
      return ← c.fail 1 ("invalid line number field width: " ++ quoted ((a.value? 'w').getD ""))
    let integer (letter : Char) : Int := ((a.value? letter).bind String.toInt?).getD 1
    let rules : NumberRules :=
      { styles, width, behind := ((a.value? 's').getD "\t").toList, start := integer 'v'
        step := integer 'i', form := (a.value? 'n').getD "rn" }
    let (texts, isGood) ← readFiles c id a.operands
    let (lines, _) := linesOf (texts.map (·.2)).flatten
    let lines := if lines == [[]] then [] else lines
    Run.print (ofLines (numbered rules rules.start 1 lines) true)
    return statusIf isGood) false

end SysReg.Shell.Tool
