import SysReg.Shell.Regex.Reading
import SysReg.Shell.Tool.Basic

/-!
# Searching lines

The lines of files are printed that match one of some patterns, or do not.
-/

namespace SysReg.Shell

/-- How patterns are meant. -/
inductive PatternKind where
  | basic
  | extended
  /-- Each character stands for itself. -/
  | fixed
  deriving DecidableEq, Repr

/-- What is searched for, and how what is found is shown. -/
structure LineSearch where
  patterns : List Regex
  foldsCase : Bool
  isNegated : Bool
  /-- Only so many lines of a file are looked for. -/
  most : Option Nat
  onlyMatches : Bool
  withNumbers : Bool
  withOffsets : Bool
  /-- Lines around those that are found are shown too. -/
  before : Nat
  after : Nat
  showsGroups : Bool
  separator : Char

namespace LineSearch

/-- The first match from a place on, of several the longest: where it begins and ends. -/
def firstMatch? (s : LineSearch) (subject : Subject) (place : Nat) : Option (Nat × Nat) :=
  s.patterns.foldl (fun found r =>
    match r.search? subject place, found with
    | none, found => found
    | some (first, e), none => some (first, e.place)
    | some (first, e), some (other, last) =>
      if first < other || (first == other && last < e.place) then some (first, e.place)
      else some (other, last)) none

/-- The text that is searched in a line. -/
def subject (s : LineSearch) (line : List Char) : Subject :=
  ⟨line.toArray, s.foldsCase, false⟩

/-- The line is one that is looked for. -/
def selects (s : LineSearch) (line : List Char) : Bool :=
  (s.patterns.any fun r => r.occursIn (s.subject line)) != s.isNegated

/-- The matches in a line that are not empty: where each begins, and its text. The number is greater than
that of the characters. -/
def matchesFrom (s : LineSearch) (subject : Subject) : Nat → (place : Nat) → List (Nat × List Char)
  | 0, _ => []
  | n + 1, place =>
    match s.firstMatch? subject place with
    | none => []
    | some (first, last) =>
      if first == last then
        if first < subject.text.size then matchesFrom s subject n (first + 1) else []
      else (first, subject.slice first last) :: matchesFrom s subject n last

/-- A line of a file. -/
structure FoundLine where
  number : Nat
  offset : Nat
  text : List Char
  isSelected : Bool

/-- The lines of a text, of which only so many are looked for. -/
def linesFrom (s : LineSearch) (number offset left : Nat) : List (List Char) → List FoundLine
  | [] => []
  | line :: lines =>
    let isSelected := left != 0 && s.selects line
    ⟨number, offset, line, isSelected⟩ ::
      linesFrom s (number + 1) (offset + line.length + 1) (if isSelected then left - 1 else left) lines

/-- What stands in front of a line that is shown. -/
def front (s : LineSearch) (name : Option String) (line : FoundLine) (offset : Nat) : List Char :=
  let mark := if line.isSelected then ':' else '-'
  let part (text : String) : List Char := text.toList ++ [mark]
  (name.map part).getD [] ++ (if s.withNumbers then part (Numeral.decimal line.number) else []) ++
    (if s.withOffsets then part (Numeral.decimal offset) else [])

/-- The lines that are shown for one of a file. -/
def shownFor (s : LineSearch) (name : Option String) (line : FoundLine) : List (List Char) :=
  if !s.onlyMatches then [s.front name line line.offset ++ line.text]
  else if s.isNegated || !line.isSelected then []
  else
    (s.matchesFrom (s.subject line.text) (line.text.length + 1) 0).map fun (place, text) =>
      s.front name line (line.offset + place) ++ text

/-- The lines of a file that are shown with those around them. A mark stands between those that do not
follow each other. The last line that was shown is given, and how many are still to come. -/
def shown (s : LineSearch) (name : Option String) (last : Option Nat) (hasShown : Bool) (coming : Nat) :
    (waiting : List FoundLine) → List FoundLine → List (List Char)
  | _, [] => []
  | waiting, line :: lines =>
    if line.isSelected then
      let around := (waiting.take s.before).reverse
      let first := ((around ++ [line]).head?.map (·.number)).getD line.number
      let isApart := s.showsGroups && hasShown && last != some (first - 1)
      (if isApart && !s.onlyMatches then [['-', '-']] else []) ++
        (around ++ [line]).flatMap (s.shownFor name) ++
        shown s name (some line.number) true s.after [] lines
    else if 0 < coming then
      s.shownFor name line ++ shown s name (some line.number) hasShown (coming - 1) [] lines
    else shown s name last hasShown 0 (line :: waiting.take s.before) lines

end LineSearch

namespace Tool

/-- The pattern of a text. -/
def linePattern (kind : PatternKind) (byWord byLine : Bool) (cs : List Char) : Except RegexFault Regex := do
  let r ← match kind with
    | .fixed => pure (Regex.literal cs)
    | .basic => Regex.ofText ⟨false, false, false⟩ cs
    | .extended => Regex.ofText ⟨true, false, false⟩ cs
  if byLine then return .seq (.edge .textStart) (.seq r (.edge .textFinish))
  else if byWord then return .seq (.edge .noWordBefore) (.seq r (.edge .noWordAfter))
  else return r

/-- The signs of an extended expression that repeat nothing. -/
def idleSigns : (before : Char) → List Char → List String
  | _, [] => []
  | _, '\\' :: cs => idleSigns '\\' (cs.drop 1)
  | before, c :: cs =>
    let isFree := before == '(' || before == '|' || before == '^'
    let found :=
      if isFree && ['*', '+', '?'].contains c then [c.toString]
      else if isFree && c == '\x7b' && cs.head?.any Char.isDigit then ["\x7b...\x7d"] else []
    found ++ idleSigns c cs
termination_by _ cs => cs.length

/-- The files to search: themselves, or those in directories if that is asked for. -/
def searchedFiles (t : FileTree) (isDeep : Bool) (path : String) : List String :=
  match t.locate true path with
  | .ok (place, node) =>
    if isDeep && node.isDirectory then
      let inside := (t.nodes.map (·.1)).filter fun other => place != other && place.isPrefixOf other
      let found := inside.filter fun other => match t.node? other with
        | some (.file _ _) => true
        | _ => false
      let named := found.map fun other =>
        let names := "/".intercalate (other.drop place.length)
        if path.isEmpty then names else if path.endsWith "/" then path ++ names else path ++ "/" ++ names
      named.mergeSort fun x y => decide (x ≤ y)
    else [path]
  | .error _ => [path]

/-- What is found so far. -/
structure SearchState where
  hasFound : Bool
  hasShown : Bool
  isGood : Bool

/-- Searches one file. -/
def searchFile (c : ToolCall) (a : Arguments) (s : LineSearch) (named : Bool) (state : SearchState)
    (path : String) : Run SearchState := do
  if a.has 'q' && state.hasFound then return state
  let shownPath := if path == "-" then (a.value? '\x05').getD "(standard input)" else path
  match ← readFile path with
  | .error fault =>
    if !a.has 's' then c.report (path ++ ": " ++ fault.reason)
    return { state with isGood := false }
  | .ok text =>
    let lines := s.linesFrom 1 0 (s.most.getD text.length.succ) (linesBy s.separator text).1
    let count := (lines.filter (·.isSelected)).length
    let found := 0 < count
    let state := { state with hasFound := state.hasFound || found }
    if a.has 'q' then return state
    if a.has 'l' || a.has 'L' then
      if found == a.has 'l' then Run.print (shownPath ++ (if a.has 'Z' then "\x00" else "\n"))
      return state
    if a.has 'c' then
      Run.print ((if named then shownPath ++ ":" else "") ++ Numeral.decimal count ++ "\n")
      return state
    if found && text.contains '\x00' && !a.has 'a' && s.separator == '\n' then
      c.report (shownPath ++ ": binary file matches")
      return state
    let shown := s.shown (if named then some shownPath else none) none state.hasShown 0 [] lines
    Run.print (ofLinesBy s.separator shown true)
    return { state with hasShown := state.hasShown || !shown.isEmpty }

/-- The options for searching. -/
def searchForms : List OptionForm :=
  [plain 'E' "extended-regexp", plain 'F' "fixed-strings", plain 'G' "basic-regexp",
    plain 'P' "perl-regexp", valued 'e' "regexp", valued 'f' "file", plain 'i' "ignore-case", plain 'y' "",
    plain 'v' "invert-match", plain 'w' "word-regexp", plain 'x' "line-regexp", plain 'c' "count",
    ⟨'\x03', "color", .optional⟩, ⟨'\x03', "colour", .optional⟩, plain 'L' "files-without-match",
    plain 'l' "files-with-matches", valued 'm' "max-count", plain 'o' "only-matching", plain 'q' "quiet",
    plain 'q' "silent", plain 's' "no-messages", plain 'b' "byte-offset", plain 'H' "with-filename",
    plain 'h' "no-filename", valued '\x05' "label", plain 'n' "line-number", plain 'T' "initial-tab",
    plain 'u' "", plain 'Z' "null", valued 'A' "after-context", valued 'B' "before-context",
    valued 'C' "context", plain 'a' "text", valued '\x06' "binary-files", valued 'D' "devices",
    valued 'd' "directories", valued '\x07' "exclude", valued '\x08' "include", plain 'r' "recursive",
    plain 'R' "dereference-recursive", plain '\x0b' "line-buffered", plain 'U' "binary",
    plain 'z' "null-data"]

/-- A number of lines around as an option, spelled out. -/
def contextSpelledOut (arguments : List String) : List String :=
  let front := arguments.takeWhile (· != "--")
  front.map (fun argument =>
    match argument.toList with
    | '-' :: digits =>
      if !digits.isEmpty && digits.all Char.isDigit then "-C" ++ String.ofList digits else argument
    | _ => argument) ++ arguments.drop front.length

/-- Searches lines in a way that may be changed by options. -/
def searchAs (kind : PatternKind) (called : String) : Tool := fun call arguments => do
  let c : ToolCall := { call with called }
  let usage : Run Nat := do
    Run.complain ("Usage: " ++ c.called ++ " [OPTION]... PATTERNS [FILE]...\n")
    c.hint
    return 2
  let arguments := contextSpelledOut arguments
  match parse (searchForms ++ always) false (arguments.length + 1) arguments with
  | .error text =>
    c.report text
    usage
  | .ok a =>
    if a.has '\x01' then
      Run.print ("Usage: " ++ c.called ++ " [OPTION]... PATTERNS [FILE]...\n")
      return 0
    if a.has '\x02' then
      Run.print "grep (GNU grep) 3.11\n"
      return 0
    let kind := match a.lastOf? ['E', 'F', 'G', 'P'] with
      | some 'E' | some 'P' => .extended
      | some 'F' => .fixed
      | some _ => .basic
      | none => kind
    if a.has 'E' && a.has 'F' || a.has 'E' && a.has 'G' || a.has 'F' && a.has 'G' then
      return ← c.fail 2 "conflicting matchers specified"
    match ['A', 'B', 'C'].filterMap (fun l => (a.value? l).filter fun text => text.toNat?.isNone) with
    | text :: _ => c.fail 2 (text ++ ": invalid context length argument")
    | [] =>
      if (a.value? 'm').any fun text => text.toInt?.isNone then return ← c.fail 2 "invalid max count"
      let isGiven := a.has 'e' || a.has 'f'
      if !isGiven && a.operands.isEmpty then return ← usage
      let given := if isGiven then a.values 'e' else a.operands.take 1
      let (files, isGood) ← if a.has 'f' then readFiles c id (a.values 'f') else pure ([], true)
      if !isGood then return 2
      let texts := given.flatMap (fun text => text.toList.splitOn '\n') ++
        files.flatMap fun (_, text) => (linesOf text).1
      match texts.mapM (linePattern kind (a.has 'w') (a.has 'x')) with
      | .error fault => c.fail 2 fault.text
      | .ok patterns =>
        if kind != .fixed then
          match texts.find? fun text => text.take 2 == ['[', ':'] && text.drop (text.length - 2) == [':', ']'] with
          | some _ => return ← c.fail 2 "character class syntax is [[:space:]], not [:space:]"
          | none => pure ()
        if kind == .extended then
          (texts.flatMap (idleSigns '(')).forM fun sign => c.report ("warning: " ++ sign ++ " at start of expression")
        let isDeep := a.has 'r' || a.has 'R' || a.value? 'd' == some "recurse"
        let operands := if isGiven then a.operands else a.operands.drop 1
        let t ← Run.tree
        let paths := if operands.isEmpty then if isDeep then searchedFiles t true "." else ["-"]
          else operands.flatMap (searchedFiles t isDeep)
        let paths := if operands.isEmpty then paths.map fun path =>
            if path.startsWith "./" then (path.drop 2).toString else path
          else paths
        let fits (letter : Char) (path : String) : Bool := (a.values letter).any fun glob =>
          Wildcard.matchesAll (Wildcard.ofGlyphs .plain (glob.toList.map .plain))
            (path.toList.reverse.takeWhile (· != '/')).reverse
        let paths := paths.filter fun path =>
          (!a.has '\x08' || fits '\x08' path) && !(a.has '\x07' && fits '\x07' path)
        let named := match a.lastOf? ['h', 'H'] with
          | some letter => letter == 'H'
          | none => 1 < operands.length || (isDeep && paths != operands)
        let number (letter : Char) : Option Nat := (a.value? letter).bind String.toNat?
        let s : LineSearch :=
          { patterns, foldsCase := a.has 'i' || a.has 'y', isNegated := a.has 'v'
            most := (a.value? 'm').bind fun text => (text.toInt?.filter (0 ≤ ·)).map Int.toNat
            onlyMatches := a.has 'o', withNumbers := a.has 'n', withOffsets := a.has 'b'
            before := ((number 'B').or (number 'C')).getD 0
            after := ((number 'A').or (number 'C')).getD 0
            showsGroups := 0 < ((number 'B').or (number 'C')).getD 0 || 0 < ((number 'A').or (number 'C')).getD 0
            separator := if a.has 'z' then '\x00' else '\n' }
        let state ← paths.foldlM (searchFile c a s named) ⟨false, false, true⟩
        return if a.has 'q' && state.hasFound then 0 else if !state.isGood then 2
          else if state.hasFound then 0 else 1

/-- Searches lines. -/
def grep : Tool := searchAs .basic "grep"

end Tool
end SysReg.Shell
