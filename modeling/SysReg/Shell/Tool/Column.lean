import SysReg.Shell.Tool.Basic

/-!
# Tools for columns

Parts of lines are taken out or put together, and lines are broken or their tabs replaced.
-/

namespace SysReg.Shell.Tool

/-! ## Taking parts out -/

/-- Numbers from one up to another, or up to the end. -/
structure Span where
  first : Nat
  last : Option Nat
  deriving DecidableEq, Repr

/-- The number is in one of the spans. -/
def inSpans (spans : List Span) (n : Nat) : Bool :=
  spans.any fun s => s.first ≤ n && s.last.all (n ≤ ·)

/-- The span that a text names, or what is wrong with it. -/
def spanOf (byField : Bool) (text : String) : Except String Span := do
  let number (cs : List Char) : Except String Nat :=
    if cs.all Char.isDigit then .ok (Real.ofDigits cs)
    else
      .error ((if byField then "invalid field value " else "invalid byte/character position ") ++ quoted text)
  let positive (n : Nat) : Except String Nat :=
    if n == 0 then
      .error (if byField then "fields are numbered from 1" else "byte/character positions are numbered from 1")
    else .ok n
  match text.toList.splitOn '-' with
  | [cs] => do
    let n ← positive (← number cs)
    return ⟨n, some n⟩
  | [[], []] => throw "invalid range with no endpoint: -"
  | [front, back] => do
    let first ← if front.isEmpty then pure 1 else positive (← number front)
    if back.isEmpty then return ⟨first, none⟩
    let last ← number back
    if last < first then throw "invalid decreasing range"
    return ⟨first, some last⟩
  | _ => throw (if byField then "invalid field range" else "invalid byte or character range")

/-- The spans that a list names. -/
def spansOf (byField : Bool) (text : String) : Except String (List Span) :=
  ((text.toList.splitBy fun a b => !isComma a && !isComma b).filter fun part => !part.all isComma).mapM
    fun part => spanOf byField (String.ofList part)
where
  /-- What stands between spans. -/
  isComma (c : Char) : Bool := c == ',' || c == ' '

/-- How parts of lines are taken out. -/
structure CutRules where
  /-- What stands between fields, or else octets are counted. -/
  delimiter : Option Char
  spans : List Span
  isNegated : Bool
  /-- Lines without a delimiter are left out. -/
  skipsWhole : Bool
  between : Option (List Char)

/-- The parts of a line that are printed, if it is printed. -/
def cutLine? (r : CutRules) (line : List Char) : Option (List Char) :=
  let isWanted (n : Nat) : Bool := inSpans r.spans n != r.isNegated
  match r.delimiter with
  | some delimiter =>
    if !line.contains delimiter then if r.skipsWhole then none else some line
    else
      let fields := (line.splitOn delimiter).zipIdx 1
      some ((r.between.getD [delimiter]).intercalate
        ((fields.filter fun (_, n) => isWanted n).map (·.1)))
  | none =>
    let wanted := (line.zipIdx 1).filter fun (_, n) => isWanted n
    match r.between with
    | none => some (wanted.map (·.1))
    | some between =>
      let runs := wanted.splitBy fun (_, m) (_, n) =>
        n == m + 1 && (r.isNegated || !r.spans.any fun s => s.first == n &&
          !r.spans.any fun s => s.first < n && s.last.all (n ≤ ·))
      some (between.intercalate (runs.map (·.map (·.1))))

/-- Takes parts out of lines. -/
def cut : Tool := withOptions
  [valued 'b' "bytes", valued 'c' "characters", valued 'd' "delimiter", valued 'f' "fields", plain 'n' "",
    plain '\x03' "complement", plain 's' "only-delimited", valued '\x04' "output-delimiter",
    plain 'z' "zero-terminated"] 1 (fun c a => do
  let lists := a.options.filter fun o => ['b', 'c', 'f'].contains o.1
  match lists with
  | [] => c.misuse 1 "you must specify a list of bytes, characters, or fields"
  | _ :: _ :: _ => c.misuse 1 "only one list may be specified"
  | [(letter, list)] =>
    let byField := letter == 'f'
    if (a.value? 'd').any fun d => decide (1 < d.length) then
      return ← c.misuse 1 "the delimiter must be a single character"
    if !byField && a.has 'd' then
      return ← c.misuse 1 "an input delimiter may be specified only when operating on fields"
    if !byField && a.has 's' then
      return ← c.misuse 1
        "suppressing non-delimited lines makes sense\n\tonly when operating on fields"
    match spansOf byField list with
    | .error text => c.misuse 1 text
    | .ok spans =>
      let separator := if a.has 'z' then '\x00' else '\n'
      let delimiter := ((a.value? 'd').map fun d => d.toList.headD '\x00').getD '\t'
      let rules : CutRules :=
        { delimiter := if byField then some delimiter else none, spans, isNegated := a.has '\x03'
          skipsWhole := a.has 's', between := (a.value? '\x04').map String.toList }
      let (texts, isGood) ← readFiles c id a.operands
      texts.forM fun (_, text) =>
        let (lines, _) := linesBy separator text
        Run.print (ofLinesBy separator (lines.filterMap (cutLine? rules)) true)
      return statusIf isGood) false

/-! ## Putting together -/

/-- Lines side by side, with delimiters between them in turn. -/
def besides (delimiters : List (List Char)) (texts : List (List (List Char))) : List (List Char) :=
  let rows := (texts.map List.length).foldl max 0
  (List.range rows).map fun row =>
    let parts := texts.map fun lines => lines.getD row []
    joinedBy delimiters parts
where
  /-- Parts with delimiters between them in turn. -/
  joinedBy (delimiters : List (List Char)) (parts : List (List Char)) : List Char :=
    ((parts.zipIdx).map fun (part, n) =>
      (if n == 0 then [] else delimiters.getD ((n - 1) % delimiters.length) []) ++ part).flatten

/-- The delimiters that a text names. The number is at least that of the characters. -/
def delimitersOf : Nat → List Char → List (List Char)
  | 0, _ | _, [] => []
  | n + 1, '\\' :: c :: cs =>
    (match c with
      | 'n' => ['\n']
      | 't' => ['\t']
      | '0' => []
      | c => [c]) :: delimitersOf n cs
  | n + 1, c :: cs => [c] :: delimitersOf n cs

/-- Puts the lines of files side by side. -/
def paste : Tool := withOptions
  [valued 'd' "delimiters", plain 's' "serial", plain 'z' "zero-terminated"] 1 (fun c a => do
  let delimiters := match a.value? 'd' with
    | some text => if text.isEmpty then [[]] else delimitersOf text.length text.toList
    | none => [['\t']]
  let paths := if a.operands.isEmpty then ["-"] else a.operands
  let separator := if a.has 'z' then '\x00' else '\n'
  if a.has 's' then
    let (texts, isGood) ← readFiles c id paths
    texts.forM fun (_, text) =>
      let (lines, _) := linesBy separator text
      Run.print (ofLinesBy separator [besides.joinedBy delimiters lines] true)
    return statusIf isGood
  else
    let inputs := paths.count "-"
    let (texts, isGood) ← readFiles c id (paths.eraseDups)
    if !isGood then return 1
    -- Where the input is named more than once its lines are dealt out in turn.
    let columns := paths.zipIdx.map fun (path, index) =>
      let (lines, _) := linesBy separator ((texts.lookup path).getD [])
      if path != "-" then lines
      else
        let turn := (paths.take index).count "-"
        (lines.zipIdx.filter fun (_, n) => n % inputs == turn).map (·.1)
    Run.print (ofLinesBy separator (besides delimiters columns) true)
    return 0) false

/-! ## Breaking lines -/

/-- The column behind a character. -/
def columnAfter (column : Nat) (c : Char) : Nat :=
  match c with
  | '\t' => column / 8 * 8 + 8
  | '\x08' => column - 1
  | '\x0d' => 0
  | _ => column + 1

/-- Splits a line at a width into its first piece and the rest, or else leaves it whole. -/
def foldLine (byOctet atBlank : Bool) (width : Nat) : Nat → List Char → List (List Char)
  | 0, line => [line]
  | n + 1, line =>
    let columns := (line.foldl (fun (found : List Nat × Nat) c =>
      let column := if byOctet then found.2 + 1 else columnAfter found.2 c
      (column :: found.1, column)) ([], 0)).1.reverse
    let fits := max 1 (columns.takeWhile (· ≤ width)).length
    if line.length ≤ fits then [line]
    else
      let piece := line.take fits
      let behind := (piece.reverse.dropWhile fun c => c != ' ' && c != '\t').length
      let size := if atBlank && 0 < behind then behind else fits
      line.take size :: foldLine byOctet atBlank width n (line.drop size)

/-- Breaks long lines. -/
def fold : Tool := fun c arguments =>
  let arguments := arguments.map fun argument =>
    match argument.toList with
    | '-' :: cs => if !cs.isEmpty && cs.all Char.isDigit then "-w" ++ String.ofList cs else argument
    | _ => argument
  withOptions [plain 'b' "bytes", plain 's' "spaces", valued 'w' "width"] 1 (fun c a => do
    let text := (a.value? 'w').getD "80"
    match text.toNat? with
    | none | some 0 => c.fail 1 ("invalid number of columns: " ++ quoted text)
    | some width =>
      let (texts, isGood) ← readFiles c id a.operands
      texts.forM fun (_, text) =>
        let (lines, ended) := linesOf text
        Run.print (ofLines (lines.flatMap fun line =>
          foldLine (a.has 'b') (a.has 's') width line.length line) ended)
      return statusIf isGood) false c arguments

/-! ## Tabs -/

/-- The tab stops that a text names: those of a list, or each so many columns. -/
def stopsOf? (text : String) : Option (List Nat) :=
  (((text.toList.map fun c => if c == ' ' then ',' else c).splitOn ',').filter (!·.isEmpty)).mapM fun part =>
    if part.all Char.isDigit then some (Real.ofDigits part) else none

/-- The next tab stop behind a column, if there is one. -/
def nextStop? (stops : List Nat) (column : Nat) : Option Nat :=
  match stops with
  | [every] => some (column / (max every 1) * (max every 1) + max every 1)
  | stops => stops.find? (column < ·)

/-- Replaces tabs by blanks, in front of all other characters only if `leading`. -/
def expandLine (stops : List Nat) (leading : Bool) : (column : Nat) → List Char → List Char
  | _, [] => []
  | column, c :: cs =>
    if c == '\t' then
      let next := (nextStop? stops column).getD (column + 1)
      List.replicate (next - column) ' ' ++ expandLine stops leading next cs
    else if leading && c != ' ' then c :: cs
    else c :: expandLine stops leading (if c == '\x08' then column - 1 else column + 1) cs

/-- Replaces blanks by tabs where they reach a tab stop. The blanks in front have come from a column. -/
def unexpandLine (stops : List Nat) (all : Bool) :
    (column : Nat) → (blanks : List Char) → List Char → List Char
  | _, blanks, [] => blanks.reverse
  | column, blanks, c :: cs =>
    if c == ' ' || c == '\t' then
      match nextStop? stops column with
      | none => blanks.reverse ++ c :: cs
      | some next =>
        if c == '\t' then '\t' :: unexpandLine stops all next [] cs
        else if column + 1 == next then
          if blanks.isEmpty && (cs.head? != some ' ' && cs.head? != some '\t') && all then
            ' ' :: unexpandLine stops all next [] cs
          else '\t' :: unexpandLine stops all next [] cs
        else unexpandLine stops all (column + 1) (' ' :: blanks) cs
    else if !all then blanks.reverse ++ c :: cs
    else blanks.reverse ++ c :: unexpandLine stops all (column + 1) [] cs

/-- Changes the lines of files, given tab stops. -/
def withStops (change : Arguments → List Nat → List Char → List Char) (c : ToolCall) (a : Arguments) :
    Run Nat := do
  let text := (a.value? 't').getD "8"
  match stopsOf? text with
  | none => c.fail 1 ("tab size contains invalid character(s): " ++ quoted text)
  | some [0] => c.fail 1 "tab size cannot be 0"
  | some stops =>
    let (texts, isGood) ← readFiles c id a.operands
    texts.forM fun (_, text) =>
      let (lines, ended) := linesOf text
      Run.print (ofLines (lines.map (change a stops)) ended)
    return statusIf isGood

/-- Replaces tabs by blanks. -/
def expand : Tool := withOptions [plain 'i' "initial", valued 't' "tabs"] 1
  (withStops fun a stops => expandLine stops (a.has 'i') 0) false

/-- Replaces blanks by tabs. -/
def unexpand : Tool := withOptions [plain 'a' "all", plain '\x03' "first-only", valued 't' "tabs"] 1
  (withStops fun a stops => unexpandLine stops ((a.has 'a' || a.has 't') && !a.has '\x03') 0 []) false

end SysReg.Shell.Tool
