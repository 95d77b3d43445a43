import SysReg.CommandLine.Execution
import SysReg.Log.Message

/-!
# The program

The world of the program: files, the clock, the two outputs, the environment and the log. All
decisions are made in `World.program`.
-/

namespace SysReg.Program

open CommandLine

/-- The fault that an error of the system is. -/
def faultOf : IO.Error → FileFault
  | .noFileOrDirectory .. => .notFound
  | .permissionDenied .. => .permissionDenied
  | .alreadyExists .. => .alreadyExists
  | .inappropriateType _ 20 _ => .notADirectory
  | .inappropriateType _ 21 _ => .isADirectory
  | .resourceExhausted _ 28 _ => .noSpace
  | .invalidArgument _ 36 _ => .nameTooLong
  | e => .other (toString e)

/-- The outcome of an action on files. -/
def attempt {α : Type} (action : IO α) : IO (Except FileFault α) :=
  try
    return .ok (← action)
  catch e => return .error (faultOf e)

/-- The outcome of an action on the file of a path. -/
def attemptAt {α : Type} (path : String) (action : IO α) : IO (Except FileFault α) :=
  if path.contains '\x00' then return .error .zeroInPath else attempt action

/-- The content of a text file. -/
def readText (path : String) : IO (Except FileFault String) := do
  let bytes ← attemptAt path (IO.FS.readBinFile path)
  return bytes.bind fun bytes =>
    match String.fromUTF8? bytes with
    | some text => .ok text
    | none => .error .invalidText

/-- The number that follows a word at the start of one of the lines of a text. -/
def numberAfter? (word : String) (text : String) : Option Nat :=
  (Text.lines text.toList).findSome? fun line =>
    (Text.dropPrefix? word.toList line).bind fun rest =>
      Numeral.ofTyped? 0x10000000000000000 (String.ofList (Text.trim rest))

/-- The nanoseconds since the system was started, from a text that begins with a decimal fraction of
seconds in hundredths. -/
def uptimeNanos? (text : String) : Option Nat :=
  (Numeral.ofTyped? 0x10000000000000000 (String.ofList ((text.toList.takeWhile (· != ' ')).filter (· != '.')))).map
    (· * 10000000)

/-- The time of the system, or the start of 1970 if the system does not tell. -/
def now : IO Time := do
  let started ← attempt (IO.FS.readFile "/proc/stat")
  let uptime ← attempt (IO.FS.readFile "/proc/uptime")
  let time := do
    let seconds ← started.toOption.bind (numberAfter? "btime ")
    let nanos ← uptime.toOption.bind uptimeNanos?
    Time.ofUnixNanos? (seconds * 1000000000 + nanos)
  return time.getD .epoch

/-- The variables that the program looks at. -/
def environmentNames : List String :=
  sharedOptions.filterMap Slot.environmentName? ++ [Log.filterVariable, Log.fileVariable]

/-- The environment, as far as the program looks at it. -/
def environment : IO Environment := do
  let found ← environmentNames.filterMapM fun name => do
    return (← IO.getEnv name).map fun value => (name, value)
  return fun name => found.lookup name

/-- Appends a line to a file, if that is possible. -/
def appendLine (path line : String) : IO Unit := do
  let _ ← attempt do
    let file ← IO.FS.Handle.mk path .append
    file.putStrLn line

/-- Hands an event to the log that is set up. -/
def logEvent (setup : Option Log.Setup) (event : Log.Event) : IO Unit := do
  match setup with
  | none => return
  | some setup =>
    let time ← now
    match setup.line? ⟨time, event⟩ with
    | none => return
    | some line =>
      IO.eprintln line
      match setup.sink with
      | some sink => appendLine (sink.pathOn time.date) line
      | none => return

/-- The world with a log. Programs cannot be run from here, so registers are read from snapshots
only. -/
def world (log : IO.Ref (Option Log.Setup)) : World IO where
  now := now
  pause milliseconds := IO.sleep milliseconds.toUInt32
  readFile := readText
  writeFile path content := attemptAt path (IO.FS.writeFile path content)
  makeDirectory path := attemptAt path (IO.FS.createDirAll path)
  openFile path := attemptAt path do
    let _ ← IO.FS.Handle.mk path .append
  run _ _ := return .error (.other "programs cannot be run from here")
  print := IO.print
  complain := IO.eprint
  log event := do logEvent (← log.get) event

end SysReg.Program

open SysReg.Program in
/-- Runs the program. -/
def main (arguments : List String) : IO UInt32 := do
  let log ← IO.mkRef none
  let status ← (world log).program (fun setup => log.set (some setup)) (← environment) arguments
  return status.toUInt32
