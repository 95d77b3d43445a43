import SysReg.Access.Debugger
import SysReg.Shell.Arithmetic
import SysReg.Shell.Fault
import SysReg.Shell.Source
import SysReg.Shell.Stream

/-!
# Processes

A shell at work: its files and streams, what it was given, what it has set, and what it is about to say
of its commands. A step of it may be broken off.

Signals have names by which scripts call them, and do something to a process that has not said otherwise.
-/

namespace SysReg.Shell

/-! ## Signals -/

namespace Signal

/-- The number of signals, with the number zero. -/
def count : Nat := 65

/-- The name of a signal, or its number if it has no name. -/
def name (signal : Nat) : String :=
  if signal == 0 then "EXIT"
  else if signal == 16 then "16"
  else if signal ≤ 31 then Ending.signalNames[signal - 1]?.getD (Numeral.decimal signal)
  else if signal == 34 then "RTMIN"
  else if signal == 64 then "RTMAX"
  else if 34 < signal && signal < 50 then "RTMIN+" ++ Numeral.decimal (signal - 34)
  else if 50 ≤ signal && signal < 64 then "RTMAX-" ++ Numeral.decimal (64 - signal)
  else Numeral.decimal signal

/-- The signal of a name, in either case, or of a number. -/
def ofName? (text : String) : Option Nat :=
  match text.toNat? with
  | some n => if n < count then some n else none
  | none => (List.range count).find? fun signal => name signal == text.toUpper

/-- The signals that do nothing to a process that does not wait for them. -/
def harmless : List Nat := [0, 17, 18, 23, 28]

/-- What is said of a process that a signal has ended. -/
def description (signal : Nat) : String :=
  (["Hangup", "Interrupt", "Quit", "Illegal instruction", "Trace/breakpoint trap", "Aborted",
    "Bus error", "Floating point exception", "Killed", "User defined signal 1", "Segmentation fault",
    "User defined signal 2", "Broken pipe", "Alarm clock", "Terminated", "Stack fault", "Child exited",
    "Continued", "Stopped (signal)", "Stopped", "Stopped (tty input)", "Stopped (tty output)",
    "Urgent I/O condition", "CPU time limit exceeded", "File size limit exceeded",
    "Virtual timer expired", "Profiling timer expired", "Window changed", "I/O possible",
    "Power failure", "Bad system call"][signal - 1]?).getD ("Signal " ++ Numeral.decimal signal)

end Signal

/-- The status that a shell gives to an ending. -/
def statusOf : Ending → Nat
  | .exited status => status
  | .killed signal => 128 + signal

/-! ## What is set -/

/-- What a variable holds. -/
inductive Content where
  | text (text : String)
  /-- Elements by their numbers, in order. -/
  | list (elements : List (Nat × String))
  /-- Elements by their names, the latest first. -/
  | table (elements : List (String × String))
  deriving DecidableEq, Repr

/-- A variable, which perhaps holds nothing. -/
structure Variable where
  content : Option Content
  isExported : Bool
  isReadOnly : Bool
  /-- What is set is the value of an expression. -/
  isInteger : Bool
  /-- The letters of what is set are changed. -/
  letters : Option LetterChange
  /-- The value is the name of the variable that is meant. -/
  isReference : Bool
  deriving DecidableEq, Repr

namespace Content

/-- The text, or the first element. -/
def first? : Content → Option String
  | text value => some value
  | list elements => elements.lookup 0
  | table elements => elements.lookup "0"

end Content

namespace Variable

/-- A variable that holds nothing. -/
def empty : Variable := ⟨none, false, false, false, none, false⟩

/-- A variable with a text. -/
def ofText (text : String) : Variable :=
  { empty with content := some (.text text) }

/-- A variable that is given to programs. -/
def given (text : String) : Variable :=
  { ofText text with isExported := true }

/-- The value of a variable: its text, or its first element. -/
def value (v : Variable) : Option String :=
  v.content.bind Content.first?

/-- The letters of the marks of a variable. -/
def marks (v : Variable) : List Char :=
  (match v.content with
    | some (.list _) => ['a']
    | some (.table _) => ['A']
    | _ => []) ++
  (if v.isInteger then ['i'] else []) ++ (if v.isReference then ['n'] else []) ++
  (if v.isReadOnly then ['r'] else []) ++ (if v.isExported then ['x'] else []) ++
  (if v.letters == some .toggled then ['c'] else []) ++ (if v.letters == some .lower then ['l'] else []) ++
  (if v.letters == some .upper then ['u'] else [])

end Variable

/-- A command for whose end nothing waited. -/
structure Job where
  number : Nat
  ending : Ending
  /-- When it is over. -/
  endsAt : Nat
  deriving DecidableEq, Repr

/-- A function at work. -/
structure Call where
  name : String
  /-- The line from which it was called. -/
  line : Nat
  /-- The file in which it is. -/
  file : String
  deriving DecidableEq, Repr

/-- A path that a command was given, with the stream behind it. -/
structure Sink where
  descriptor : Nat
  stream : Nat
  /-- The command that is still to read what is written. -/
  reader : Option Command

/-- A shell at work. -/
structure Process where
  channels : Channels
  /-- The milliseconds that have passed. -/
  clock : Nat
  /-- The number of the process. -/
  number : Nat
  dialect : Dialect
  /-- What the shell was called, or the script that it carries out. -/
  name : String
  arguments : List String
  scope : List (String × Variable)
  /-- The variables that the functions at work have changed for themselves, as they were before. -/
  frames : List (List (String × Option Variable))
  functions : List (String × Command)
  aliases : List (String × String)
  /-- What is done on signals, and in the end under the number zero. -/
  traps : List (Nat × String)
  /-- What the shell does on signals, if this process is a part of it and does nothing by itself. -/
  outerTraps : Option (List (Nat × String))
  /-- The signals that have come in. -/
  signals : List Nat
  /-- The letters of the options that are set. -/
  options : List Char
  /-- The names of further options that are set. -/
  switches : List String
  status : Nat
  /-- The status of the last script whose output was put into the command. -/
  latest : Nat
  /-- The command of the shell that is at work. -/
  command : Option String
  /-- The line of the command. -/
  line : Nat
  /-- The line up to which the script was read. -/
  readLine : Nat
  /-- How many loops there are around the command. -/
  loops : Nat
  /-- How deep the process is in parts of the script that are on their own. -/
  nesting : Nat
  /-- The statuses of the last commands that were joined. -/
  statuses : List Nat
  /-- The functions at work, the inmost first. -/
  calls : List Call
  /-- The file that is carried out. -/
  file : String
  documents : List (Nat × Word)
  nextDocument : Nat
  jobs : List Job
  /-- How far the arguments were looked at for options: the argument, and the place in it. -/
  optionPlace : Nat × Nat
  mask : Nat
  /-- The programs that were found, with their paths. -/
  found : List (String × String)
  /-- Why output was lost, if some was. -/
  lost : Option FileFault
  /-- The elements of lists that the arguments of a command set, by the names of the lists, with what they
  are added to. -/
  lists : List (String × Bool × List (Option String × String))
  /-- The paths in the words of the commands at work that stand for other commands. -/
  sinks : List Sink
  /-- How deep texts of commands are nested. -/
  indirection : Nat
  /-- The directories that were left and may be gone back to. -/
  stack : List (List String)

/-- Why steps are broken off. -/
inductive Interruption where
  /-- The shell is over, with the status that was set. -/
  | exited
  /-- A fault was reported. -/
  | failed
  /-- A signal ends the process of a number. -/
  | killed (number signal : Nat)
  /-- So many loops are left, the last of them only to be gone on with if `again`. -/
  | leaving (loops : Nat) (again : Bool)
  /-- The function or the file is over. -/
  | returned
  deriving DecidableEq, Repr

/-- A step of a process. -/
abbrev Run : Type → Type := ExceptT Interruption (StateM Process)

namespace Process

/-! ## Variables -/

/-- The variable of a name. -/
def variableOf? (p : Process) (name : String) : Option Variable :=
  p.scope.lookup name

/-- The name of the variable that a name means, which may be the name of a name. The number bounds how often
that is so. -/
def referred (p : Process) : Nat → String → String
  | 0, name => name
  | n + 1, name =>
    match (p.variableOf? name).filter (·.isReference) with
    | some v => ((v.value.filter isName).map (p.referred n)).getD name
    | none => name

/-- The name of the variable that a name means. -/
def meant (p : Process) (name : String) : String :=
  if p.dialect == .plain then name else p.referred 8 name

/-- Puts something in the place of a variable. -/
def putVariable (p : Process) (name : String) (v : Option Variable) : Process :=
  let others := p.scope.filter (·.1 != name)
  match v with
  | some v =>
    if others.length == p.scope.length then { p with scope := p.scope ++ [(name, v)] }
    else { p with scope := p.scope.map fun e => if e.1 == name then (name, v) else e }
  | none => { p with scope := others }

/-- An option is set. -/
def has (p : Process) (option : Char) : Bool :=
  p.options.contains option

/-- What a variable holds that is worked out whenever it is asked for. -/
def computed? (p : Process) (name : String) : Option Content :=
  let listed (values : List String) : Content := .list (values.zipIdx.map fun (value, n) => (n, value))
  match name with
  | "LINENO" => some (.text (Numeral.decimal p.line))
  | "BASHPID" => some (.text (Numeral.decimal p.number))
  | "BASH_SUBSHELL" => some (.text (Numeral.decimal p.nesting))
  | "RANDOM" => some (.text (Numeral.decimal ((p.line * 7919 + p.clock + 12345) % 32768)))
  | "SECONDS" => some (.text (Numeral.decimal (p.clock / 1000)))
  | "PIPESTATUS" => some (listed (p.statuses.map Numeral.decimal))
  | "FUNCNAME" => if p.calls.isEmpty then none else some (listed (p.calls.map (·.name) ++ ["main"]))
  | "BASH_SOURCE" => some (listed (p.calls.map (·.file) ++ [p.file]))
  | "BASH_LINENO" => some (listed (p.calls.map (fun c => Numeral.decimal c.line) ++ ["0"]))
  | "BASHOPTS" =>
    let names := p.switches.filter fun name => name != "pipefail" && name != "posix"
    some (.text (":".intercalate (names.mergeSort fun a b => decide (a ≤ b))))
  | "SHELLOPTS" =>
    let names := ["braceexpand", "hashall", "interactive-comments"] ++ p.switches.filter (· == "pipefail") ++
      [("allexport", 'a'), ("errexit", 'e'), ("noclobber", 'C'), ("noglob", 'f'), ("nounset", 'u'),
        ("verbose", 'v'), ("xtrace", 'x')].filterMap fun (name, c) => if p.options.contains c then some name
          else none
    some (.text (":".intercalate (names.mergeSort fun a b => decide (a ≤ b))))
  | _ => none

/-- What a variable holds. -/
def content? (p : Process) (name : String) : Option Content :=
  let name := p.meant name
  match p.variableOf? name with
  | some v => v.content
  | none => if p.dialect == .extended then p.computed? name else none

/-- The value of a variable. -/
def value? (p : Process) (name : String) : Option String :=
  let name := p.meant name
  match p.variableOf? name with
  | some v => v.value
  | none =>
    if p.dialect == .extended then (p.computed? name).bind Content.first? else none

/-- The characters at which fields end. -/
def separators (p : Process) : List Char :=
  ((p.value? "IFS").map String.toList).getD [' ', '\t', '\n']

/-- The letters of the options, in the order in which they are shown. -/
def optionOrder : List Char :=
  ['e', 'f', 'I', 'i', 'm', 'n', 's', 'x', 'v', 'V', 'E', 'C', 'a', 'b', 'u', 'p', '\x00', '\x01']

/-- The value of a parameter; the arguments are joined by blanks. -/
def parameter? (p : Process) (name : String) : Option String :=
  match name with
  | "@" | "*" => some (" ".intercalate p.arguments)
  | "#" => some (Numeral.decimal p.arguments.length)
  | "?" => some (Numeral.decimal p.status)
  | "$" => some (Numeral.decimal p.number)
  | "!" => p.jobs.head?.map fun j => Numeral.decimal j.number
  | "-" =>
    match p.dialect with
    | .plain => some (String.ofList (optionOrder.reverse.filter fun c => p.has c && ' ' < c))
    | .extended => some (String.ofList ("abefhikmnprtuvxBCEHPTcs".toList.filter p.has))
  | _ =>
    match name.toNat? with
    | some 0 => some p.name
    | some n => p.arguments[n - 1]?
    | none => p.value? name

/-- The variables that programs are given, with their values. -/
def environment (p : Process) : List (String × String) :=
  p.scope.filterMap fun (name, v) => if v.isExported then v.value.map (name, ·) else none

/-! ## Messages -/

/-- What a shell says in front of a fault. -/
def lead (p : Process) : String :=
  let line := Numeral.decimal p.line
  (if p.dialect == .plain || p.file.isEmpty then p.name else p.file) ++ (match p.dialect with
    | .plain => ": " ++ line
    | .extended => if p.line == 0 then "" else ": line " ++ line) ++ ": " ++
    ((p.command.map (· ++ ": ")).getD "")

/-- Writes to a descriptor; what cannot be written is lost. -/
def write (p : Process) (descriptor : Nat) (text : String) : Process :=
  match p.channels.write descriptor text with
  | .ok channels => { p with channels }
  | .error fault => { p with lost := some fault }

/-- Writes to the error output. -/
def complain (p : Process) (text : String) : Process :=
  match p.channels.write 2 text with
  | .ok channels => { p with channels }
  | .error _ => p

/-- The number of the process of a script. -/
def firstNumber : Nat := 4242

/-- What variables a shell finds, even if it was given none. -/
def defaults : List (String × String) :=
  [("PATH", "/usr/local/sbin:/usr/local/bin:/usr/sbin:/usr/bin:/sbin:/bin"), ("HOME", "/root")]

/-- A process that has not begun, in front of some files and with an environment. What it prints is kept
in the streams with the numbers one and two. -/
def ofFiles (tree : FileTree) (environment : List (String × String)) : Process where
  channels := ⟨tree, #[.incoming [], .outgoing "", .outgoing ""], [(0, 0), (1, 1), (2, 2)]⟩
  clock := 0
  number := firstNumber - 1
  dialect := .plain
  name := ""
  arguments := []
  scope := (environment ++ defaults.filter fun (name, _) => (environment.lookup name).isNone).map
    fun (name, value) => (name, .given value)
  frames := []
  functions := []
  aliases := []
  traps := []
  outerTraps := none
  signals := []
  options := []
  switches := []
  status := 0
  latest := 0
  command := none
  line := 0
  readLine := 0
  loops := 0
  nesting := 0
  statuses := [0]
  calls := []
  file := ""
  documents := []
  nextDocument := 0
  jobs := []
  optionPlace := (1, 0)
  mask := 18
  found := []
  lost := none
  lists := []
  sinks := []
  indirection := 0
  stack := []

end Process

namespace Run

/-! ## Small steps -/

/-- Goes on with a status. -/
def finish (status : Nat) : Run Unit :=
  modify fun p => { p with status }

/-- Prints a text. -/
def print (text : String) : Run Unit :=
  modify fun p => p.write 1 text

/-- Writes to the error output. -/
def complain (text : String) : Run Unit :=
  modify fun p => p.complain text

/-- Reports a fault. -/
def report (f : Fault) : Run Unit :=
  modify fun p => p.complain (p.lead ++ f.text p.dialect ++ "\n")

/-- Reports a fault and breaks off. -/
def fail {α : Type} (f : Fault) : Run α := do
  report f
  finish (if (← get).dialect == .plain then 2 else 1)
  throw .failed

/-- Reports a fault and breaks off with a status. -/
def failWith {α : Type} (status : Nat) (f : Fault) : Run α := do
  report f
  finish status
  throw .failed

/-- Reports a fault that ends a script. -/
def failForGood {α : Type} (f : Fault) : Run α := do
  if (← get).dialect == .plain then fail f
  else
    report f
    finish 1
    throw .exited

/-- Works with the outcome of a step on files, of which a fault is reported. -/
def orFail {α : Type} (f : FileFault → Fault) : Except FileFault α → Run α
  | .ok found => return found
  | .error fault => fail (f fault)

/-- The tree of files. -/
def tree : Run FileTree := do
  return (← get).channels.tree

/-- Changes the tree of files. -/
def setTree (t : FileTree) : Run Unit :=
  modify fun p => { p with channels := { p.channels with tree := t } }

/-- Carries a step out, and another after it, in any case. -/
def andFinally {α : Type} (step : Run α) (last : Run Unit) : Run α := do
  let result ← tryCatch (Except.ok <$> step) fun i => return Except.error i
  last
  match result with
  | .ok found => return found
  | .error i => throw i

/-! ## Variables -/

/-- The text with its letters changed. -/
def recased (change : Option LetterChange) (text : String) : String :=
  match change with
  | none => text
  | some .upper => text.map Char.toUpper
  | some .lower => text.map Char.toLower
  | some .toggled =>
    match text.toList with
    | c :: cs => String.ofList (c.toUpper :: cs.map Char.toLower)
    | [] => ""

/-- Lets a variable hold something. -/
def setContent (name : String) (content : Content) : Run Unit := do
  let p ← get
  let before := (p.variableOf? name).getD .empty
  if before.isReadOnly then fail (.readOnly name)
  let v := { before with content := some content, isExported := before.isExported || p.has 'a' }
  set (p.putVariable name (some v))

/-- The element of a list with a number is put in its place. -/
def withElement (elements : List (Nat × String)) (n : Nat) (text : String) : List (Nat × String) :=
  elements.takeWhile (·.1 < n) ++ (n, text) :: (elements.dropWhile (·.1 < n)).filter (·.1 != n)

/-- Gives a variable a value, which is that of its first element if it is a list. -/
def setVariable (name value : String) : Run Unit := do
  let p ← get
  let name := p.meant name
  let before := (p.variableOf? name).getD .empty
  let value := recased before.letters value
  setContent name (match before.content with
    | some (.list elements) => .list (withElement elements 0 value)
    | some (.table elements) => .table (("0", value) :: elements.filter (·.1 != "0"))
    | _ => .text value)
  if name == "OPTIND" then modify fun p => { p with optionPlace := (value.toNat?.getD 1, 0) }

/-- Forgets a variable. -/
def unsetVariable (name : String) : Run Unit := do
  let p ← get
  if (p.variableOf? name).any (·.isReadOnly) then
    fail (if p.dialect == .plain then .readOnly name else .stated (name ++ ": cannot unset: readonly variable"))
  set (p.putVariable name none)

/-- Marks a variable, which has perhaps no value. -/
def markVariable (name : String) (mark : Variable → Variable) : Run Unit :=
  modify fun p => p.putVariable name (some (mark ((p.variableOf? name).getD .empty)))

/-- Keeps a variable as it is for the end of the function at work. -/
def keepVariable (name : String) : Run Unit :=
  modify fun p =>
    match p.frames with
    | frame :: others =>
      if frame.any (·.1 == name) then p
      else { p with frames := ((name, p.variableOf? name) :: frame) :: others }
    | [] => p

/-- Carries a step out. What variables it keeps it leaves as they were. -/
def framed {α : Type} (step : Run α) : Run α := do
  modify fun p => { p with frames := [] :: p.frames }
  andFinally step (modify fun p =>
    let kept := p.frames.headD []
    kept.foldl (fun p (name, v) => p.putVariable name v) { p with frames := p.frames.drop 1 })

/-! ## Input -/

/-- All that can be read of a descriptor. -/
def readAll (descriptor : Nat) : Run (Except FileFault (List Char)) := do
  let p ← get
  match p.channels.streamOf? descriptor with
  | none => return .error Channels.closed
  | some number =>
    match p.channels.pending number with
    | .error fault => return .error fault
    | .ok found =>
      set { p with channels := p.channels.skip number found.length }
      return .ok found

/-- Reads a line of a descriptor, and says whether the line has an end. -/
def readLine (descriptor : Nat) : Run (Except FileFault (List Char × Bool)) := do
  let p ← get
  match p.channels.streamOf? descriptor with
  | none => return .error Channels.closed
  | some number =>
    match p.channels.pending number with
    | .error fault => return .error fault
    | .ok found =>
      let line := found.takeWhile (· != '\n')
      set { p with channels := p.channels.skip number (line.length + 1) }
      return .ok (line, line.length < found.length)

end Run
end SysReg.Shell
