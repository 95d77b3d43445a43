import SysReg.Shell.Tool.Basic
import SysReg.Shell.Tool.Editor.Reading

/-!
# Editing lines

The editor reads one line after the other, carries its commands out for it, and prints what the line has
become.
-/

namespace SysReg.Shell

/-- How the editor is to work. -/
structure EditJob where
  call : ToolCall
  commands : Array EditCommand
  /-- Lines are printed only if a command does. -/
  isSilent : Bool
  /-- The lines of each file are counted on their own. -/
  isSeparate : Bool
  /-- What ends a line. -/
  separator : Char
  /-- The width in which lines are shown. -/
  width : Nat
  /-- The result of a file takes its place, and perhaps the file is kept under its name with an ending. -/
  inPlace : Option String

/-- How far a range of lines has come. -/
inductive RangeState where
  | outside
  /-- The range goes up to a line by its number. -/
  | upTo (line : Nat)
  | inside
  deriving DecidableEq, Repr

/-- What waits for the end of a line. -/
inductive Waiting where
  | text (text : List Char)
  | file (path : String)
  | line (text : List Char) (isEnded : Bool)
  deriving DecidableEq, Repr

/-- The editor at work. -/
structure Editing where
  /-- The line at work, and whether it has an end. -/
  space : List Char
  isEnded : Bool
  /-- The line that is kept. -/
  kept : List Char
  line : Nat
  file : String
  /-- The lines of the file that are left. -/
  rest : List (List Char × Bool)
  files : List String
  ranges : Array RangeState
  hasReplaced : Bool
  waiting : List Waiting
  latest : Option Regex
  /-- Files of which single lines are read, with what is left of them. -/
  sources : List (String × List (List Char × Bool))
  /-- The streams of the files that are written. -/
  targets : List (String × Nat)
  /-- The streams whose last line has no end, where zero is the output. -/
  unended : List Nat
  /-- The result of a file that it is to take the place of. -/
  result : List (List Char)
  status : Nat

namespace Editing

/-- A step of the editor, which may end it with a status. -/
abbrev Step : Type → Type := ExceptT Nat (StateT Editing Run)

/-- A step outside of the editor. -/
def outside {α : Type} (step : Run α) : Step α :=
  ExceptT.lift (StateT.lift step)

/-- Lines of a text, and whether each of them has an end. -/
def linesOf (separator : Char) (text : List Char) : List (List Char × Bool) :=
  match (text.splitOn separator).reverse with
  | [] => []
  | last :: front =>
    (front.map (·, true)).reverse ++ (if last.isEmpty then [] else [(last, false)])

section

variable (job : EditJob)

/-- Reports a fault and ends the editor. -/
def fail {α : Type} (status : Nat) (text : String) : Step α := do
  outside (job.call.report text)
  throw status

/-! ## Output -/

/-- Writes a text to a stream, where zero is the output. -/
def put (stream : Nat) (text : List Char) : Step Unit := do
  if stream == 0 then
    if job.inPlace.isSome then modify fun s => { s with result := text :: s.result }
    else outside (Run.print (String.ofList text))
  else
    outside <| modify fun p =>
      match p.channels.writeTo stream (String.ofList text) with
      | .ok channels => { p with channels }
      | .error _ => p

/-- Writes a line to a stream, behind the end that the line before it has not. -/
def putLine (stream : Nat) (line : List Char) (isEnded : Bool) : Step Unit := do
  let s ← get
  if s.unended.contains stream then put job stream [job.separator]
  put job stream (if isEnded then line ++ [job.separator] else line)
  set { s with
    result := (← get).result
    unended := if isEnded then s.unended.filter (· != stream) else stream :: s.unended }

/-- Writes a text that has an end. -/
def putText (text : List Char) : Step Unit := do
  if (← get).unended.contains 0 then
    put job 0 [job.separator]
    modify fun s => { s with unended := s.unended.filter (· != 0) }
  put job 0 text

/-- Prints the line at work. -/
def printSpace : Step Unit := do
  let s ← get
  putLine job 0 s.space s.isEnded

/-- Writes the first line of the line at work, which may have come to hold more. -/
def putFirst (stream : Nat) : Step Unit := do
  let s ← get
  putLine job stream (s.space.takeWhile (· != job.separator))
    (s.isEnded || s.space.contains job.separator)

/-- The stream of a file that is written. -/
def streamOf (path : String) : Step Nat := do
  return ((← get).targets.lookup path).getD 0

/-- Writes what waits for the end of the line. -/
def putWaiting : Step Unit := do
  let s ← get
  set { s with waiting := [] }
  s.waiting.reverse.forM fun w => do
    match w with
    | .text text => putText job text
    | .line text isEnded => putLine job 0 text isEnded
    | .file path =>
      match ← outside (if path == "/dev/stdin" then Run.readAll 0 else Tool.readFile path) with
      | .ok text => if !text.isEmpty then putText job text
      | .error _ => pure ()

/-! ## Input -/

/-- Puts the result of a file in its place. -/
def finishFile : Step Unit := do
  match job.inPlace with
  | none => return
  | some ending =>
    let s ← get
    if s.file == "-" then return
    let t ← outside Run.tree
    match t.readOctets s.file with
    | .error _ => return
    | .ok octets =>
      let copied := if ending.isEmpty then t
        else ((t.placeToWrite (s.file ++ ending)).bind (t.writeOctets · octets)).toOption.getD t
      let changed := (copied.placeToWrite s.file).bind
        (copied.writeOctets · (s.result.reverse.flatten.map Char.toNat))
      outside (Run.setTree (changed.toOption.getD copied))
      set { s with result := [], file := "-", unended := [] }

/-- Opens files up to one that has lines. -/
def openFiles : List String → Step Unit
  | [] => modify fun s => { s with files := [] }
  | path :: files => do
    if job.isSeparate then finishFile job
    let shown := if path == "-" then "-" else path
    let isDirectory := (((← outside Run.tree).find path).toOption.map FileNode.isDirectory).getD false
    match ← outside (Tool.readFile path) with
    | .error fault =>
      if isDirectory && job.inPlace.isNone then
        fail job 4 ("read error on " ++ path ++ ": " ++ fault.reason)
      outside (job.call.report
        (if isDirectory then "couldn't edit " ++ path ++ ": not a regular file"
          else "can't read " ++ path ++ ": " ++ fault.reason))
      modify fun s => { s with status := if isDirectory then 4 else 2 }
      openFiles files
    | .ok text =>
      modify fun s =>
        { s with
          rest := linesOf job.separator text
          files
          file := shown
          line := if job.isSeparate then 0 else s.line }
      if text.isEmpty then openFiles files else return

/-- Nothing is left to read. -/
def isOver : Step Bool := do
  if (← get).rest.isEmpty then openFiles job (← get).files
  return (← get).rest.isEmpty

/-- The line at work is the last one. -/
def isLast : Step Bool := do
  if !(← get).rest.isEmpty then return false
  else if job.isSeparate then return true
  else isOver job

/-- Reads a line, if one is left. -/
def readLine? : Step (Option (List Char)) := do
  if ← isOver job then return none
  let s ← get
  match s.rest with
  | [] => return none
  | (line, isEnded) :: rest =>
    set { s with rest, isEnded, line := s.line + 1 }
    return some line

/-! ## Lines -/

/-- The text and the pattern to search it for. -/
def subjectOf (p : LinePattern) : Step (Regex × Subject) := do
  let s ← get
  match p.regex.or s.latest with
  | none => fail job 1 "-e expression #1, char 0: no previous regular expression"
  | some regex =>
    set { s with latest := some regex }
    return (regex, ⟨s.space.toArray, p.foldsCase, p.byLine⟩)

/-- The line at work is at an address. -/
def isAt (a : LineAddress) : Step Bool := do
  let line := (← get).line
  match a with
  | .number n => return line == n
  | .every first step => return first ≤ line && (line - first) % step == 0
  | .last => isLast job
  | .containing p =>
    let (regex, subject) ← subjectOf job p
    return regex.occursIn subject

/-- Begins a range behind its first line, unless it has only one. -/
def rangeFrom (stop : RangeEnd) : Step RangeState := do
  let line := (← get).line
  let upTo (last : Nat) : RangeState := if last ≤ line then .outside else .upTo last
  match stop with
  | .at (.number n) => return upTo n
  | .further n => return upTo (line + n)
  | .multiple n => return upTo (if n == 0 then line else (line + n - 1) / n * n)
  | .at _ => return .inside

/-- The command of a number is for the line at work. -/
def isFor (index : Nat) (c : LineChoice) : Step Bool := do
  let enter (a : LineAddress) (stop : RangeEnd) : Step Bool := do
    if !(← isAt job a) then return false
    let state ← rangeFrom stop
    modify fun s => { s with ranges := s.ranges.set! index state }
    return true
  let found ← match c.first, c.stop with
    | none, _ => pure true
    | some a, none => isAt job a
    | some a, some stop =>
      match (← get).ranges.getD index .outside, stop with
      | .outside, _ => enter a stop
      | .upTo last, _ => do
        let line := (← get).line
        if last ≤ line then modify fun s => { s with ranges := s.ranges.set! index .outside }
        pure (line ≤ last)
      | .inside, .at b => do
        if ← isAt job b then modify fun s => { s with ranges := s.ranges.set! index .outside }
        pure true
      | .inside, _ => pure true
  return found != c.isNegated

/-! ## Replacing -/

/-- A letter in the case that is asked for. -/
def changed (change : CaseChange) (c : Char) : Char :=
  match change with
  | .upper => c.toUpper
  | .lower => c.toLower
  | .none => c

/-- Characters in the case that is asked for, which the first of them may have for itself. -/
def changedAll (next all : CaseChange) (cs : List Char) : List Char :=
  match next, cs with
  | .none, cs => cs.map (changed all)
  | _, c :: cs => changed next c :: cs.map (changed all)
  | _, [] => []

/-- What is put in the place of a match, given how letters are changed. -/
def newText (group : Nat → List Char) (next all : CaseChange) : List NewPart → List Char
  | [] => []
  | .all change :: parts => newText group .none change parts
  | .next change :: parts => newText group change all parts
  | part :: parts =>
    let found := match part with
      | .group n => group n
      | .one c => [c]
      | _ => []
    changedAll next all found ++ newText group (if found.isEmpty then next else .none) all parts

/-- Replaces the matches of a pattern from a place on. The matches before have a number, and the last of
them an end. -/
def replaced (s : Substitution) (regex : Regex) (subject : Subject) :
    Nat → (place count : Nat) → (before : Option Nat) → List Char × Bool
  | 0, place, _, _ => (subject.slice place subject.text.size, false)
  | n + 1, place, count, before =>
    if subject.text.size < place then ([], false)
    else
      match regex.search? subject place with
      | none => (subject.slice place subject.text.size, false)
      | some (first, e) =>
        let isEmpty := e.place == first
        -- Behind a match that is empty the next character is passed over.
        let onward (count : Nat) (before : Option Nat) : List Char × Bool :=
          if isEmpty then
            let (rest, found) := replaced s regex subject n (first + 1) count before
            (subject.slice first (first + 1) ++ rest, found)
          else replaced s regex subject n e.place count before
        let front := subject.slice place first
        if isEmpty && before == some first then
          let (rest, found) := onward count none
          (front ++ rest, found)
        else if count + 1 < s.first then
          let (rest, found) := onward (count + 1) (some e.place)
          (front ++ subject.slice first e.place ++ rest, found)
        else
          let new := newText (Regex.groupText subject first e) .none .none s.new
          if s.goesOn then (front ++ new ++ (onward (count + 1) (some e.place)).1, true)
          else (front ++ new ++ subject.slice e.place subject.text.size, true)

/-- What a command prints. -/
def outputOf (command : List Char) : Step (List Char) := do
  let (_, text) ← outside (Tool.captured (job.call.launch "sh" ["-c", String.ofList command]))
  return text.toList

/-- Lets the line at work be what it prints as a command. -/
def runSpace : Step Unit := do
  let found ← outputOf job (← get).space
  modify fun s =>
    { s with space := if found.getLast? == some job.separator then found.dropLast else found }

/-- Replaces the matches of a pattern in the line at work. -/
def substitute (s : Substitution) : Step Unit := do
  let (regex, subject) ← subjectOf job s.pattern
  let (space, found) := replaced s regex subject (subject.text.size + 2) 0 0 none
  if found then
    modify fun e => { e with space, hasReplaced := true }
    if s.runs then runSpace job
    if s.prints then printSpace job
    match s.target with
    | some path => do putLine job (← streamOf path) (← get).space (← get).isEnded
    | none => pure ()

/-! ## Showing -/

/-- The spelling of a character with nothing hidden. -/
def shown (c : Char) : List Char :=
  match [('\\', '\\'), ('\x07', 'a'), ('\x08', 'b'), ('\x0c', 'f'), ('\n', 'n'), ('\x0d', 'r'), ('\t', 't'),
      ('\x0b', 'v')].lookup c with
  | some d => ['\\', d]
  | none => if ' ' ≤ c && c ≤ '~' then [c] else '\\' :: (Nat.toDigits 8 c.toNat).leftpad 3 '0'

/-- The spellings of characters in pieces of a width, or in one piece for a width of zero. -/
def shownAll (width column : Nat) : List Char → List Char
  | [] => ['$', '\n']
  | c :: cs =>
    let text := shown c
    if width != 0 && width < column + text.length + 1 then
      '\\' :: '\n' :: text ++ shownAll width text.length cs
    else text ++ shownAll width (column + text.length) cs

/-! ## Commands -/

/-- What becomes of a line. -/
inductive LineEnd where
  | printed
  | deleted
  /-- The commands are carried out again for what is left. -/
  | again
  deriving DecidableEq, Repr

/-- Reads one line of a file that is read so, if one is left. -/
def sourceLine? (path : String) : Step (Option (List Char × Bool)) := do
  let s ← get
  let left ← match s.sources.lookup path with
    | some left => pure left
    | none => do
      let text ← outside (if path == "/dev/stdin" then Run.readAll 0 else Tool.readFile path)
      pure (linesOf job.separator (text.toOption.getD []))
  set { s with sources := (path, left.drop 1) :: s.sources.filter (·.1 != path) }
  return left.head?

/-- Carries commands out from one on, for as many steps as are left. -/
def run : Nat → (index : Nat) → Step LineEnd
  | 0, _ => throw 4
  | n + 1, index => do
    match job.commands[index]? with
    | none => return .printed
    | some c =>
      let onward : Step LineEnd := run n (index + 1)
      if !(← isFor job index c.choice) then
        match c.action with
        | .block stop => run n stop
        | _ => onward
      else
        let s ← get
        match c.action with
        | .rest | .block _ => onward
        | .leap condition target =>
          let leaps := match condition with
            | .always => true
            | .afterSuccess => s.hasReplaced
            | .afterFailure => !s.hasReplaced
          if condition != .always then set { s with hasReplaced := false }
          if leaps then run n target else onward
        | .print false =>
          printSpace job
          onward
        | .print true =>
          putFirst job 0
          onward
        | .delete false => return .deleted
        | .delete true =>
          if !s.space.contains job.separator then return .deleted
          set { s with space := (s.space.dropWhile (· != job.separator)).drop 1 }
          return .again
        | .next appended =>
          if ← isOver job then return .printed
          if !appended && !job.isSilent then printSpace job
          putWaiting job
          match ← readLine? job with
          | none => return .printed
          | some line =>
            modify fun e => { e with space := if appended then s.space ++ job.separator :: line else line }
            onward
        | .recall appended =>
          set { s with space := if appended then s.space ++ job.separator :: s.kept else s.kept }
          onward
        | .keep appended =>
          set { s with kept := if appended then s.kept ++ job.separator :: s.space else s.space }
          onward
        | .exchange =>
          set { s with space := s.kept, kept := s.space }
          onward
        | .clear =>
          set { s with space := [] }
          onward
        | .number =>
          putText job ((Nat.toDigits 10 s.line) ++ ['\n'])
          onward
        | .name =>
          putText job (s.file.toList ++ ['\n'])
          onward
        | .show width =>
          putText job (shownAll (width.getD job.width) 0 s.space)
          onward
        | .before text =>
          putText job text
          onward
        | .after text =>
          set { s with waiting := .text text :: s.waiting }
          onward
        | .change text =>
          if c.choice.isNegated || s.ranges.getD index .outside == .outside then putText job text
          return .deleted
        | .quit printing status =>
          if printing then
            if !job.isSilent then printSpace job
            putWaiting job
          if job.isSeparate then finishFile job
          throw status
        | .readFile path =>
          set { s with waiting := .file path :: s.waiting }
          onward
        | .readLine path =>
          match ← sourceLine? job path with
          | some (line, isEnded) =>
            modify fun e => { e with waiting := .line line isEnded :: e.waiting }
          | none => pure ()
          onward
        | .write onlyFirst path =>
          let stream ← streamOf path
          if onlyFirst then putFirst job stream
          else putLine job stream s.space s.isEnded
          onward
        | .substitute sub =>
          substitute job sub
          onward
        | .exchangeLetters pairs =>
          set { s with space := s.space.map fun c => (pairs.lookup c).getD c }
          onward
        | .execute command =>
          if command.isEmpty then runSpace job
          else putText job (← outputOf job command)
          onward

/-- How many commands are carried out for one line at most. -/
def stepLimit : Nat := 200000

/-- Edits lines, as many as are left, from the one at work on if `again`. The editor ends with a status. -/
def cycle : Nat → (again : Bool) → Step Unit
  | 0, _ => return
  | n + 1, again => do
    if !again then
      match ← readLine? job with
      | none =>
        if job.isSeparate then finishFile job
        return
      | some space => modify fun s => { s with space, hasReplaced := false }
    let ending ← run job stepLimit 0
    if ending == .printed && !job.isSilent then printSpace job
    putWaiting job
    cycle n (ending == .again)

end

/-- How many lines are edited at most. -/
def cycleLimit : Nat := 1000000

/-- The state in which a range begins. One that begins in front of the first line is open. -/
def firstState (c : EditCommand) : RangeState :=
  match c.choice.first, c.choice.stop with
  | some (.number 0), some _ => .inside
  | _, _ => .outside

/-- Edits files: the status. -/
def editFiles (job : EditJob) (targets : List (String × Nat)) (paths : List String) : Run Nat := do
  let start : Editing :=
    { space := [], isEnded := true, kept := [], line := 0, file := "-", rest := [], files := paths,
      ranges := job.commands.map firstState, hasReplaced := false, waiting := [], latest := none,
      sources := [], targets, unended := [], result := [], status := 0 }
  let (result, after) ← ((cycle job cycleLimit false).run).run start
  match result with
  | .ok () => return after.status
  | .error status => return status

end Editing

namespace Tool

/-- The files that commands write to. -/
def writtenBy (c : EditCommand) : Option String :=
  match c.action with
  | .write _ path => some path
  | .substitute s => s.target
  | _ => none

/-- Opens the files that commands write to, once each: their streams, where the output has none. -/
def openTargets (c : ToolCall) : List String → Run (Option (List (String × Nat)))
  | [] => return some []
  | path :: paths => do
    match ← openTargets c paths with
    | none => return none
    | some found =>
      if path == "/dev/stdout" || (found.lookup path).isSome then return some found
      let p ← get
      match p.channels.openPath (.toWrite false) path with
      | .ok (channels, stream) =>
        set { p with channels }
        return some ((path, stream) :: found)
      | .error fault =>
        c.report ("couldn't open file " ++ path ++ ": " ++ fault.reason)
        return none

/-- The pieces of a script, of which some are in files. -/
def editPieces (c : ToolCall) : (count : Nat) → List (Char × String) → Run (Option (List EditPiece))
  | _, [] => return some []
  | count, (letter, text) :: others => do
    match letter with
    | 'e' =>
      return (← editPieces c (count + 1) others).map (⟨.inr (count + 1), text.toList⟩ :: ·)
    | 'f' =>
      match ← readFile text with
      | .ok found =>
        -- A line at the end needs no end.
        let found := if found.getLast? == some '\n' then found.dropLast else found
        return (← editPieces c count others).map (⟨.inl text, found⟩ :: ·)
      | .error fault =>
        c.report ("couldn't open file " ++ text ++ ": " ++ fault.reason)
        return none
    | _ => editPieces c count others

/-- Edits lines. -/
def sed : Tool := fun c arguments => do
  let forms := [plain 'n' "quiet", plain 'n' "silent", valued 'e' "expression", valued 'f' "file",
    plain 'E' "regexp-extended", plain 'r' "", ⟨'i', "in-place", .optional⟩, valued 'l' "line-length",
    plain 's' "separate", plain 'u' "unbuffered", plain 'z' "null-data", plain 'b' "binary",
    plain '\x03' "posix", plain '\x04' "debug", plain '\x05' "sandbox", plain '\x06' "follow-symlinks"]
  let usage := "Usage: " ++ c.called ++
    " [OPTION]... \x7bscript-only-if-no-other-script\x7d [input-file]...\n"
  match parse (forms ++ always) false (arguments.length + 1) arguments with
  | .error text =>
    c.report text
    Run.complain usage
    return 1
  | .ok a =>
    let isGiven := a.has 'e' || a.has 'f'
    let scripts := if isGiven then a.options else (a.operands.take 1).map ('e', ·)
    let paths := if isGiven then a.operands else a.operands.drop 1
    if a.has '\x01' then
      Run.print usage
      return 0
    if a.has '\x02' then
      Run.print "sed (GNU sed) 4.9\n"
      return 0
    if scripts.isEmpty then
      Run.complain usage
      return 1
    match ← editPieces c 0 scripts with
    | none => return 1
    | some pieces =>
      match EditReading.script (a.has 'E' || a.has 'r') pieces with
      | .error fault => c.fail fault.status fault.text
      | .ok (commands, isSilent) =>
        match ← openTargets c (commands.toList.filterMap writtenBy).reverse with
        | none => return 4
        | some targets =>
          let width := ((a.value? 'l').bind String.toNat?).getD 70
          let inPlace := a.value? 'i'
          let job : EditJob :=
            { call := c, commands, isSilent := isSilent || a.has 'n'
              isSeparate := a.has 's' || inPlace.isSome, separator := if a.has 'z' then '\x00' else '\n'
              width, inPlace }
          Editing.editFiles job targets (if paths.isEmpty then ["-"] else paths)

end Tool
end SysReg.Shell
