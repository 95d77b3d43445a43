import SysReg.Access.Basic
import SysReg.Text.Blank
import SysReg.Text.Quoted
import SysReg.Text.Search
import SysReg.Text.Utf8

/-!
# Access through a debugger

Each read runs `lldb` once in batch mode, on a process or on a core file, and takes the value from
what it prints. A line that reports an error, or another ending than an exit with status zero, makes
the read fail.
-/

namespace SysReg

/-- What the debugger attaches to. -/
inductive DebugTarget where
  | process (pid : Nat)
  | core (path : String)
  deriving DecidableEq, Repr

/-- The target as messages show it. -/
def DebugTarget.text : DebugTarget → String
  | process pid => "Pid(" ++ Numeral.decimal pid ++ ")"
  | core path => "Core(" ++ Text.quoted path ++ ")"

/-! ## Programs that have ended -/

/-- How a program ended. -/
inductive Ending where
  | exited (status : Nat)
  /-- A signal ended it. -/
  | killed (signal : Nat)
  deriving DecidableEq, Repr

namespace Ending

/-- The names of the signals, from number 1 on. -/
def signalNames : List String :=
  ["HUP", "INT", "QUIT", "ILL", "TRAP", "ABRT", "BUS", "FPE", "KILL", "USR1", "SEGV", "USR2", "PIPE",
    "ALRM", "TERM", "STKFLT", "CHLD", "CONT", "STOP", "TSTP", "TTIN", "TTOU", "URG", "XCPU", "XFSZ",
    "VTALRM", "PROF", "WINCH", "IO", "PWR", "SYS"]

/-- The name of a signal in parentheses, if it has one. -/
def signalName (signal : Nat) : String :=
  match signal with
  | 0 => ""
  | n + 1 => (signalNames[n]?.map fun name => " (SIG" ++ name ++ ")").getD ""

/-- The wording of an ending. -/
def text : Ending → String
  | exited status => "exit status: " ++ Numeral.decimal status
  | killed signal => "signal: " ++ Numeral.decimal signal ++ signalName signal

end Ending

/-- What a program printed, as bytes, and how it ended. -/
structure Finished where
  stdout : List Nat
  stderr : List Nat
  ending : Ending
  deriving DecidableEq, Repr

/-- A debugger and its target. -/
structure Debugger where
  program : String
  target : DebugTarget
  deriving DecidableEq, Repr

namespace Debugger

/-- The arguments that select the target. -/
def targetArguments : DebugTarget → List String
  | .process pid => ["-p", Numeral.decimal pid]
  | .core path => ["--core", path]

/-- The arguments of one run. -/
def arguments (d : Debugger) (e : Encoding) : List String :=
  ["--batch", "--no-lldbinit"] ++ targetArguments d.target ++
    ["-o", "register read " ++ e.canonical]

/-! ## The value in the output -/

/-- The value of the first `0x` in a text, if one or more hexadecimal digits follow it there and the
value fits into a register. -/
def hexLiteral? (text : List Char) : Option Word :=
  match Text.after? ['0', 'x'] text with
  | none => none
  | some rest =>
    match rest.takeWhile Numeral.isHexDigit with
    | [] => none
    | digits => (Word.ofNumeral 16 digits).toOption

/-- The value that a line assigns: the literal after its first equals sign. -/
def assigned? (line : List Char) : Option Word :=
  match Text.cutAt? '=' line with
  | some (_, value) => hexLiteral? value
  | none => none

/-- The line names the register and is no echo of the command. -/
def isOwnLine (register line : List Char) : Bool :=
  Text.contains register line && !Text.startsWith "(lldb)".toList (Text.trimStart line)

/-- The value in the output of a read: what the first of the register's own lines assigns that
assigns something, else what any line assigns, else any literal. -/
def valueIn? (output : List Char) (register : String) : Option Word :=
  let lines := Text.lines output
  (((lines.filter (isOwnLine register.toList)).findSome? assigned?).or
    (lines.findSome? assigned?)).or (lines.findSome? hexLiteral?)

/-! ## The outcome of a run -/

/-- The line reports an error. -/
def isErrorLine (line : List Char) : Bool :=
  Text.startsWith "error:".toList (Text.trimStart line)

/-- The detail of a run that ended badly: the last line of its error output, if it has one. -/
def exitDetail (ending : Ending) (stderr : List Char) : String :=
  match (Text.lines stderr).getLast? with
  | some line => String.ofList (Text.trim line)
  | none => "lldb exited with " ++ ending.text

/-- What a run says of a register: its value, or the detail of the failure. -/
def outcome (e : Encoding) (run : Finished) : Outcome :=
  let stdout := Text.decodeBytes run.stdout
  let stderr := Text.decodeBytes run.stderr
  match (Text.lines stdout ++ Text.lines stderr).find? isErrorLine with
  | some line => .failed (String.ofList (Text.trim line))
  | none =>
    if run.ending ≠ .exited 0 then .failed (exitDetail run.ending stderr)
    else
      match valueIn? stdout e.canonical with
      | some w => .value w
      | none => .failed "no value in lldb output"

/-- What a run says of a register, as the answer of a reader. -/
def answer (d : Debugger) (e : Encoding) : Except FileFault Finished → Except Failure Word
  | .error fault =>
    .error (.unreadable e.canonical ("could not run " ++ d.program ++ ": " ++ fault.message))
  | .ok run =>
    match outcome e run with
    | .value w => .ok w
    | .failed detail => .error (.unreadable e.canonical detail)

variable {m : Type → Type} [Monad m]

/-- Reads registers by running the debugger. -/
def read (d : Debugger) (run : String → List String → m (Except FileFault Finished)) :
    Reader m := fun e => do
  let result ← run d.program (d.arguments e)
  return d.answer e result

end Debugger
end SysReg
