import SysReg.Failure
import SysReg.Log.Filter
import SysReg.Time.Text

/-!
# Setting the log up

Messages go to the error output and, if the environment names a file, to that file as well. A set-up
is installed once: a second one is refused, after its file has been checked like that of the first.
-/

namespace SysReg

/-- The variables of the environment. -/
abbrev Environment : Type := String → Option String

namespace Log

/-- The variable with the directives of a filter. -/
def filterVariable : String := "RUST_LOG"

/-- The variable that chooses the format. -/
def formatVariable : String := "APLREG_LOG_FORMAT"

/-- The variable that names a file for messages. -/
def fileVariable : String := "APLREG_LOG_FILE"

/-- Why logging cannot be set up. -/
inductive Fault where
  | invalidFormat (word : String)
  | invalidLevel (word : String)
  | alreadyInstalled
  | file (fault : FileFault)
  /-- The file for messages cannot be opened, although its directory is there. -/
  | unopened (fault : FileFault)
  /-- A part of a directive would have to be cut inside of a character. -/
  | splitCharacter (directive : String)
  deriving DecidableEq, Repr

/-- The fault is none that is meant to happen: the program breaks off. -/
def Fault.breaksOff : Fault → Bool
  | unopened _ | splitCharacter _ => true
  | _ => false

/-- How many octets of a directive are shown. -/
def shownOctets : Nat := 256

/-- A directive, cut short if it is long. -/
def shownDirective (directive : String) : String :=
  let shown := (octetsBefore 0 directive.toList).takeWhile fun (before, c) =>
    before + c.utf8Size ≤ shownOctets
  "`" ++ String.ofList (shown.map (·.2)) ++ "`" ++
    (if shown.length < directive.length then "[...]" else "")

/-- The wording of a fault. -/
def Fault.message : Fault → String
  | invalidFormat word => Format.unknownMessage word
  | invalidLevel word => Level.unknownMessage word
  | alreadyInstalled =>
    "Failed to initialize logging: a global default trace dispatcher has already been set"
  | file fault => "File logging error: " ++ fault.message
  | unopened fault => "log file cannot be opened: " ++ fault.message
  | splitCharacter directive => "a character is cut apart in " ++ shownDirective directive

/-- A file for messages: the path as it was given, the directory in it, and the name of the file in
the directory, to which the day is added. -/
structure Sink where
  path : String
  directory : String
  name : String
  deriving DecidableEq, Repr

namespace Sink

/-- A part of a path that stands for the same place again. -/
def isIdle (part : List Char) : Bool :=
  part == [] || part == ['.']

/-- The directory of a path from the parts before its name, the last of which comes first. -/
def directoryOf (path : String) (above : List (List Char)) : String :=
  match above.dropWhile isIdle with
  | [] => if Text.startsWith ['/'] path.toList then "/" else "."
  | above => "/".intercalate (above.reverse.map String.ofList)

/-- The file of a path whose last part is a name. -/
def ofPath (path : String) : Except Fault Sink :=
  match ((path.toList.splitOn '/').reverse).dropWhile isIdle with
  | [] | ['.', '.'] :: _ => .error (.file (.other (path ++ " does not name a file")))
  | name :: above => .ok ⟨path, directoryOf path above, String.ofList name⟩

/-- The path of the file that takes the messages of a day. -/
def pathOn (sink : Sink) (date : Date) : String :=
  sink.directory ++ (if sink.directory = "/" then "" else "/") ++ sink.name ++ "." ++
    Time.yearText date.year ++ "-" ++ Time.digits 2 date.month ++ "-" ++ Time.digits 2 date.day

/-- The file that the environment names. -/
def ofEnvironment (env : Environment) : Except Fault (Option Sink) :=
  match env fileVariable with
  | none | some "" => .ok none
  | some path => (ofPath path).map some

end Sink

/-- The format that the environment chooses; a blank choice is none. -/
def formatOf (env : Environment) : Except Fault Format :=
  match (env formatVariable).map Text.trimmed with
  | none | some "" => .ok .pretty
  | some word =>
    match Format.ofText? word with
    | some format => .ok format
    | none => .error (.invalidFormat word)

/-- Which messages go where. -/
structure Setup where
  filter : Filter
  format : Format
  sink : Option Sink
  deriving DecidableEq, Repr

variable {m : Type → Type} [Monad m]

/-- Where files for messages are made. -/
structure Storage (m : Type → Type) where
  today : m Date
  /-- Makes a directory with those it lies in, unless it is there. -/
  makeDirectory : String → m (Except FileFault Unit)
  /-- Makes an empty file, unless it is there. -/
  openFile : String → m (Except FileFault Unit)

/-- Makes the directory of a file for messages and opens the file of the day. -/
def Storage.prepare (storage : Storage m) : Option Sink → m (Except Fault Unit)
  | none => return .ok ()
  | some sink => do
    match ← storage.makeDirectory sink.directory with
    | .error fault => return .error (.file fault)
    | .ok () =>
      let opened ← storage.openFile (sink.pathOn (← storage.today))
      return opened.mapError Fault.unopened

/-- The set-up for a level and format that were asked for; its file is made. -/
def Setup.prepare (storage : Storage m) (env : Environment) (level : Option Level)
    (format : Format) : m (Except Fault Setup) := do
  match Sink.ofEnvironment env with
  | .error fault => return .error fault
  | .ok sink =>
    match ← storage.prepare sink with
    | .error fault => return .error fault
    | .ok () =>
      let filter := (Filter.choose level (env filterVariable)).mapError Fault.splitCharacter
      return filter.map fun filter => ⟨filter, format, sink⟩

/-- Installs a set-up for a level and format that were asked for, unless one is in place. -/
def Setup.install (storage : Storage m) (env : Environment) (inPlace : Option Setup)
    (level : Option Level) (format : Format) : m (Except Fault Setup) := do
  let prepared ← prepare storage env level format
  return prepared.bind fun setup => if inPlace.isSome then .error .alreadyInstalled else .ok setup

/-- Installs a set-up for the format and the directives of the environment, unless one is in
place. -/
def Setup.installDefault (storage : Storage m) (env : Environment) (inPlace : Option Setup) :
    m (Except Fault Setup) :=
  match formatOf env with
  | .error fault => return .error fault
  | .ok format => install storage env inPlace none format

end Log
end SysReg
