import SysReg.Shell.Tool.Basic
import SysReg.Shell.Tool.Records.Pattern
import SysReg.Shell.Tool.Records.Table

/-!
# Programs on records at work

What a program has set, the record at work with its fields, and the files and commands it reads from and
writes to.
-/

namespace SysReg.Shell.Records

/-- What a variable holds. -/
inductive Cell where
  | value (d : Datum)
  | table (number : Nat)
  /-- Nothing yet. If it becomes a table, it is perhaps one that a function was given. -/
  | undecided (number : Option Nat)

/-- Why a program does not go on with the next statement. -/
inductive Leaving where
  | next
  | nextFile
  | exit
  /-- A fault was reported. -/
  | failed
  | return (d : Datum)
  | break
  | continue

/-- What was written to a file or a command. -/
structure Sink where
  outlet : Outlet
  name : String
  /-- The stream of a file. -/
  stream : Nat
  /-- What waits to be written, the last text first. -/
  held : List String

/-- What is read of a file or a command. -/
structure Source where
  origin : Origin
  name : String
  rest : List Char
  /-- The status of a command. -/
  status : Nat

/-- A program at work. -/
structure Working where
  call : ToolCall
  shared : Std.HashMap String Cell
  own : Array Cell
  tables : Array Table
  record : Datum
  fields : Array Datum
  patterns : Std.HashMap (List Char) Regex
  /-- What waits to be printed, the last text first. -/
  held : List String
  /-- What was written to, the last one first. -/
  sinks : List Sink
  sources : List Source
  /-- The argument that is looked at next. -/
  argument : Nat
  /-- The rest of the file at work. -/
  file : Option (List Char)
  /-- A file was read, be it only the input. -/
  hasRead : Bool
  /-- The rules between two records that have begun, by their places. -/
  begun : List Nat
  seed : Datum
  random : Nat
  status : Nat

/-- A step of a program. -/
abbrev Step : Type → Type := ExceptT Leaving (StateT Working Run)

namespace Step

/-- A step outside of the program. -/
def outside {α : Type} (step : Run α) : Step α :=
  ExceptT.lift (StateT.lift step)

/-! ## Variables -/

/-- The value of a variable that all share. -/
def shared (name : String) : Step Datum := do
  match (← get).shared.get? name with
  | some (.value d) => return d
  | _ => return .unset

/-- Gives a variable that all share a value, which changes nothing else. -/
def putShared (name : String) (d : Datum) : Step Unit :=
  modify fun s => { s with shared := s.shared.insert name (.value d) }

/-- The form of numbers in texts. -/
def textForm : Step (List Char) := do
  return (← shared "CONVFMT").toText []

/-- The form of numbers that are printed. -/
def printedForm : Step (List Char) := do
  return (← shared "OFMT").toText []

/-- The value as a text. -/
def text (d : Datum) : Step (List Char) := do
  match d with
  | .number _ => return d.toText (← textForm)
  | d => return d.toText []

/-- The text of a variable that all share. -/
def sharedText (name : String) : Step (List Char) := do
  text (← shared name)

/-- The cell of a variable. -/
def cell (v : Variable) : Step Cell := do
  let s ← get
  match v with
  | .own place => return s.own[place]?.getD (.undecided none)
  | .shared name => return (s.shared.get? name).getD (.undecided none)

/-- Puts something into the cell of a variable. -/
def setCell (v : Variable) (c : Cell) : Step Unit :=
  modify fun s => match v with
    | .own place => { s with own := s.own.modify place fun _ => c }
    | .shared name => { s with shared := s.shared.insert name c }

/-- A new table. -/
def newTable : Step Nat := do
  let s ← get
  set { s with tables := s.tables.push Table.empty }
  return s.tables.size

/-- The table of a variable. -/
def tableOf (v : Variable) : Step Nat := do
  match ← cell v with
  | .table number => return number
  | .undecided (some number) =>
    setCell v (.table number)
    return number
  | _ =>
    let number ← newTable
    setCell v (.table number)
    return number

/-- What a function is given that gets a variable. -/
def passedCell (v : Variable) : Step Cell := do
  match ← cell v with
  | .undecided none =>
    let number ← newTable
    setCell v (.undecided (some number))
    return .undecided (some number)
  | c => return c

/-- Changes a table. -/
def changeTable (number : Nat) (change : Table → Table) : Step Unit :=
  modify fun s => { s with tables := s.tables.modify number change }

/-- The table of a number. -/
def table (number : Nat) : Step Table := do
  return (← get).tables[number]?.getD Table.empty

/-! ## Faults -/

/-- Reports lines and ends the program. -/
def stop {α : Type} (text : String) : Step α := do
  outside (Run.complain ((← get).call.called ++ ": " ++ text ++ "\n"))
  modify fun s => { s with status := 2 }
  throw .failed

/-- Reports what is wrong at a record and ends the program. -/
def fail {α : Type} (text : String) : Step α := do
  let file ← sharedText "FILENAME"
  let line ← sharedText "FNR"
  let number ← sharedText "NR"
  stop ("run time error: " ++ text ++ "\n\tFILENAME=\x22" ++ String.ofList file ++ "\x22 FNR=" ++
    String.ofList line ++ " NR=" ++ String.ofList number)

/-- The pattern of a text. -/
def pattern (cs : List Char) : Step Regex := do
  match (← get).patterns.get? cs with
  | some r => return r
  | none =>
    match Pattern.ofText cs with
    | .ok r =>
      modify fun s => { s with patterns := s.patterns.insert cs r }
      return r
    | .error fault =>
      fail ("regular expression compile failed (" ++ fault.text ++ ")\n" ++ String.ofList cs)

/-! ## Output -/

/-- Prints what waits. -/
def flushHeld : Step Unit := do
  let s ← get
  set { s with held := [] }
  outside (Run.print (String.join s.held.reverse))

/-- Writes what waits for a file. -/
def flushSink (sink : Sink) : Step Sink := do
  match sink.outlet with
  | .command => return sink
  | _ =>
    outside <| modify fun p =>
      match p.channels.writeTo sink.stream (String.join sink.held.reverse) with
      | .ok channels => { p with channels }
      | .error _ => p
    return { sink with held := [] }

/-- Writes all that waits. -/
def flush : Step Unit := do
  flushHeld
  let sinks ← (← get).sinks.mapM flushSink
  modify fun s => { s with sinks }

/-- The status of a command. -/
def statusOf : Except FileFault Ending → Nat
  | .ok (.exited status) => status
  | .ok (.killed signal) => 256 + signal
  | .error _ => 127

/-- Runs a command: its status. -/
def command (text : String) : Step Nat := do
  return statusOf (← outside ((← get).call.launch "/bin/sh" ["-c", text]))

/-- Runs a step with a text as the input. -/
def given (text : String) (step : Run (Except FileFault Ending)) : Run Nat := do
  let before ← get
  let (channels, number) := before.channels.add (.incoming text.toList)
  set { before with channels := channels.assign 0 number }
  let result ← Run.andFinally step <| modify fun p =>
    { p with
      channels := match before.channels.streamOf? 0 with
        | some stdin => p.channels.assign 0 stdin
        | none => p.channels.close 0 }
  return statusOf result

/-- Closes what was written to: the status of a command. -/
def closeSink (sink : Sink) : Step Nat := do
  modify fun s => { s with sinks := s.sinks.filter fun other => other.name != sink.name }
  match sink.outlet with
  | .command =>
    outside (given (String.join sink.held.reverse) ((← get).call.launch "/bin/sh" ["-c", sink.name]))
  | _ =>
    discard (flushSink sink)
    return 0

/-- Writes a text to a file or a command. -/
def write (outlet : Outlet) (name : String) (text : String) : Step Unit := do
  let isCommand := match outlet with
    | .command => true
    | _ => false
  if !isCommand && name == "/dev/stdout" then
    modify fun s => { s with held := text :: s.held }
  else if !isCommand && name == "/dev/stderr" then
    outside (Run.complain text)
  else
    let s ← get
    let isIt (sink : Sink) : Bool := sink.name == name && (match sink.outlet with
      | .command => isCommand
      | _ => !isCommand)
    if let some sink := s.sinks.find? isIt then
      set { s with
        sinks := { sink with held := text :: sink.held } :: s.sinks.filter fun sink => !isIt sink }
    else if isCommand then
      flush
      let sink : Sink := ⟨outlet, name, 0, [text]⟩
      modify fun s => { s with sinks := sink :: s.sinks }
    else
      let p ← outside get
      let how := match outlet with
        | .fileEnd => Opening.toAppend
        | _ => .toWrite false
      match if name.isEmpty then .error .notFound else p.channels.openPath how name with
      | .ok (channels, stream) =>
        outside (set { p with channels })
        let sink : Sink := ⟨outlet, name, stream, [text]⟩
        set { s with sinks := sink :: s.sinks }
      | .error fault => stop ("cannot open \x22" ++ name ++ "\x22 for output (" ++ fault.reason ++ ")")

/-- Writes a text to a place, or else prints it. -/
def put (target : Option (Outlet × String)) (text : String) : Step Unit := do
  match target with
  | none => modify fun s => { s with held := text :: s.held }
  | some (outlet, name) => write outlet name text

/-- Closes what has a name: the status, if there is something. -/
def close (name : String) : Step Float := do
  let s ← get
  match s.sinks.find? (·.name == name), s.sources.find? (·.name == name) with
  | none, none => return -1.0
  | some sink, _ => return (← closeSink sink).toFloat
  | none, some source =>
    set { s with sources := s.sources.filter fun other => other.name != name }
    return source.status.toFloat

/-- Closes all that was written to, what was written to last first, and prints what waits. -/
def closeAll : Step Unit := do
  (← get).sinks.forM fun sink => discard (closeSink sink)
  flushHeld

/-! ## Fields -/

/-- What is between the matches of a pattern that are not empty. The number is greater than that of the
characters, and the second one is the place at which the piece begins that is read. -/
def piecesBy (r : Regex) (s : Subject) : Nat → (first place : Nat) → List (List Char)
  | 0, first, _ => [s.slice first s.text.size]
  | n + 1, first, place =>
    match r.search? s place with
    | none => [s.slice first s.text.size]
    | some (start, e) =>
      if start == e.place then
        if start < s.text.size then piecesBy r s n first (start + 1) else [s.slice first s.text.size]
      else s.slice first start :: piecesBy r s n e.place e.place

/-- The words between blanks. -/
def words (cs : List Char) : List (List Char) :=
  (cs.splitOnP fun c => c == ' ' || c == '\t' || c == '\n').filter (!·.isEmpty)

/-- The pieces of a text between separators. -/
def pieces (separator : List Char) (cs : List Char) : Step (List (List Char)) := do
  match separator, cs with
  | _, [] => return []
  | [' '], _ => return words cs
  | [], _ => return cs.map fun c => [c]
  | [c], _ => return cs.splitOn c
  | _, _ =>
    let r ← pattern separator
    return piecesBy r ⟨cs.toArray, false, false⟩ (cs.length + 1) 0 0

/-- Puts a record in the place of the one at work. -/
def setRecord (cs : List Char) : Step Unit := do
  let found ← pieces (← sharedText "FS") cs
  modify fun s => { s with record := .ofInput cs, fields := (found.map Datum.ofInput).toArray }
  putShared "NF" (.ofNat found.length)

/-- Puts the record together again of its fields. -/
def rebuild : Step Unit := do
  let texts ← (← get).fields.toList.mapM text
  let separator ← sharedText "OFS"
  modify fun s => { s with record := .ofInput (separator.intercalate texts) }
  putShared "NF" (.ofNat texts.length)

/-- How many fields there are at most. -/
def mostFields : Nat := 65536

/-- The place of a field. -/
def fieldPlace (d : Datum) : Step Nat := do
  let n := Datum.toInt d.toNumber
  if n < 0 then fail ("negative field index $" ++ Numeral.signedDecimal n) else return min n.toNat mostFields

/-- The value of a field. -/
def field (place : Nat) : Step Datum := do
  let s ← get
  match place with
  | 0 => return s.record
  | n + 1 => return s.fields[n]?.getD .unset

/-- The fields, so many of them. -/
def resized (fields : Array Datum) (count : Nat) : Array Datum :=
  fields.take count ++ Array.replicate (count - fields.size) (.text [])

/-- Gives a field a value. -/
def setField (place : Nat) (d : Datum) : Step Unit := do
  match place with
  | 0 => setRecord (← text d)
  | n + 1 =>
    modify fun s =>
      let fields := if s.fields.size ≤ n then resized s.fields (n + 1) else s.fields
      { s with fields := fields.modify n fun _ => d }
    rebuild

/-- Gives a variable a value. -/
def setVariable (v : Variable) (d : Datum) : Step Unit := do
  if v == .shared "NF" then
    let n := Datum.toInt d.toNumber
    if n < 0 then fail "negative value assigned to NF"
    modify fun s => { s with fields := resized s.fields (min n.toNat mostFields) }
    rebuild
  else setCell v (.value d)

/-! ## Input -/

/-- A record at the start of a text, and what follows it. -/
def recordAt (separator : List Char) (cs : List Char) : Step (Option (List Char × List Char)) := do
  match separator with
  | [] =>
    let cs := cs.dropWhile (· == '\n')
    let record := paragraph (cs.length + 1) cs
    if cs.isEmpty then return none
    else
      return some ((record.reverse.dropWhile (· == '\n')).reverse,
        (cs.drop record.length).dropWhile (· == '\n'))
  | [c] =>
    if cs.isEmpty then return none
    else
      let record := cs.takeWhile (· != c)
      return some (record, cs.drop (record.length + 1))
  | _ =>
    if cs.isEmpty then return none
    else
      let r ← pattern separator
      match found r ⟨cs.toArray, false, false⟩ (cs.length + 1) 0 with
      | some (first, last) => return some (cs.take first, cs.drop last)
      | none => return some (cs, [])
where
  /-- The text up to an empty line. -/
  paragraph : Nat → List Char → List Char
    | 0, _ | _, [] => []
    | n + 1, c :: cs =>
      if c == '\n' && cs.head? == some '\n' then [] else c :: paragraph n cs
  /-- The first match that is not empty. -/
  found (r : Regex) (s : Subject) : Nat → Nat → Option (Nat × Nat)
    | 0, _ => none
    | n + 1, place =>
      match r.search? s place with
      | none => none
      | some (first, e) => if first == e.place then found r s n (first + 1) else some (first, e.place)

/-- The variable and the value of an argument that gives one. -/
def assignmentOf? (argument : String) : Option (String × String) :=
  let cs := argument.toList
  let name := cs.takeWhile fun c => c.isAlphanum || c == '_'
  match cs.drop name.length with
  | '=' :: value =>
    if name.isEmpty || (name.head?.any Char.isDigit) then none
    else some (String.ofList name, String.ofList value)
  | _ => none

/-- Gives a variable the value that an argument says. -/
def assignArgument (name value : String) : Step Unit := do
  let cs := value.toList
  setVariable (.shared name) (.ofInput (Pattern.unescaped (cs.length + 1) cs))

/-- Opens the next file of the arguments, of which there are so many. -/
def openNext : Nat → Step Bool
  | 0 => return false
  | n + 1 => do
    let s ← get
    let count := (Datum.toInt (← shared "ARGC").toNumber).toNat
    if s.argument < count then
      set { s with argument := s.argument + 1 }
      let arguments ← table (← tableOf (.shared "ARGV"))
      let argument := String.ofList (← text (arguments.value (.inl s.argument)))
      if argument.isEmpty then openNext n
      else
        match assignmentOf? argument with
        | some (name, value) =>
          assignArgument name value
          openNext n
        | none => openFile argument
    else if s.hasRead then return false
    else
      let text ← outside (Run.readAll 0)
      modify fun s => { s with hasRead := true, file := some (text.toOption.getD []) }
      return true
where
  /-- Opens a file. -/
  openFile (path : String) : Step Bool := do
    let found ← outside (if path == "/dev/stdin" then Tool.readFile "-" else Tool.readFile path)
    match found with
    | .ok text =>
      modify fun s => { s with hasRead := true, file := some text }
      putShared "FILENAME" (.text path.toList)
      putShared "FNR" (.number 0.0)
      return true
    | .error .isADirectory => stop ("read error (" ++ FileFault.isADirectory.reason ++ ")")
    | .error fault => stop ("cannot open \x22" ++ path ++ "\x22 (" ++ fault.reason ++ ")")

/-- The next record of the files, which are looked at so often at most. -/
def nextRecord : Nat → Step (Option (List Char))
  | 0 => return none
  | n + 1 => do
    match (← get).file with
    | some rest =>
      match ← recordAt (← sharedText "RS") rest with
      | some (record, rest) =>
        modify fun s => { s with file := some rest }
        putShared "NR" (.number ((← shared "NR").toNumber + 1.0))
        putShared "FNR" (.number ((← shared "FNR").toNumber + 1.0))
        return some record
      | none =>
        modify fun s => { s with file := none }
        nextRecord n
    | none => if ← openNext 1000 then nextRecord n else return none

/-- How many files are gone over at most. -/
def mostFiles : Nat := 10000

/-- The next record of a file or a command, or whether there is none. -/
def recordOf (origin : Origin) (name : String) : Step (Except Bool (List Char)) := do
  let isIt (source : Source) : Bool := source.name == name && (match source.origin, origin with
    | .command, .command => true
    | .command, _ | _, .command => false
    | _, _ => true)
  if !(← get).sources.any isIt then
    flush
    match origin with
    | .command =>
      let (ending, text) ← outside (Tool.captured ((← get).call.launch "/bin/sh" ["-c", name]))
      let source : Source := ⟨origin, name, text.toList, statusOf ending⟩
      modify fun s => { s with sources := source :: s.sources }
    | _ =>
      match ← outside (Tool.readFile (if name == "/dev/stdin" then "-" else name)) with
      | .ok text =>
        let source : Source := ⟨origin, name, text, 0⟩
        modify fun s => { s with sources := source :: s.sources }
      | .error _ => return .error true
  match (← get).sources.find? isIt with
  | none => return .error true
  | some source =>
    match ← recordAt (← sharedText "RS") source.rest with
    | none => return .error false
    | some (record, rest) =>
      modify fun s => { s with
        sources := s.sources.map fun source => if isIt source then { source with rest } else source }
      return .ok record

end Step
end SysReg.Shell.Records
