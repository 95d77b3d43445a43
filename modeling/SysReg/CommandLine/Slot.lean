import SysReg.CommandLine.Argument
import SysReg.Log.Setup
import SysReg.Report.Dump

/-!
# Slots

A slot is a place for one value in an invocation of the program: an option, which is named, or an
operand, which stands alone. Each slot has a type of values and a way to read them.

`Misuse` lists the ways in which the arguments of an invocation can be wrong.
-/

namespace SysReg.CommandLine

/-- A place for one value in an invocation. -/
inductive Slot where
  -- options of every command
  | pid
  | core
  | replay
  | lldb
  | logLevel
  | logFormat
  -- options of single commands
  | category
  | save
  | form
  | label
  | bounds (component : Component)
  | iterations
  | interval
  -- operands
  | register
  | value
  | query
  | term
  | before
  | after
  deriving DecidableEq, Repr

/-- Why the arguments are no invocation. Asking for help or for the version is counted here, since
nothing else is done then. -/
inductive Misuse where
  | help
  | version
  | noArguments
  | noCommand
  | unknownCommand (text : String)
  | unknownArgument (text : String)
  | unwantedValue (option : String)
  | missingValue (slot : Slot)
  | invalidValue (slot : Slot) (text : String)
  | missingOperand (slot : Slot)
  | repeated (slot : Slot)
  | conflicting (slots : List Slot)
  deriving DecidableEq, Repr

namespace Slot

/-- The name of a slot; that of an option follows two dashes. -/
def name : Slot → String
  | pid => "pid"
  | core => "core"
  | replay => "replay"
  | lldb => "lldb"
  | logLevel => "log-level"
  | logFormat => "log-format"
  | category => "category"
  | save => "save"
  | form => "format"
  | label => "label"
  | bounds component => Text.fold component.name
  | iterations => "iterations"
  | interval => "interval-ms"
  | register => "register"
  | value => "value"
  | query => "query"
  | term => "term"
  | before => "a"
  | after => "b"

/-- The letter that names an option after one dash. -/
def letter? : Slot → Option Char
  | category => some 'c'
  | save => some 's'
  | form => some 'f'
  | label => some 'l'
  | iterations => some 'n'
  | interval => some 'i'
  | _ => none

/-- The variable of the environment that gives an option. -/
def environmentName? : Slot → Option String
  | pid => some "APLREG_PID"
  | core => some "APLREG_CORE"
  | replay => some "APLREG_REPLAY"
  | lldb => some "APLREG_LLDB"
  | logFormat => some Log.formatVariable
  | _ => none

/-- The values of a slot. Files and programs are given by a path. -/
abbrev Value : Slot → Type
  | pid | iterations | interval => Nat
  | core | replay | lldb | save | before | after => String
  | label | register | query | term => String
  | logLevel => Log.Level
  | logFormat => Log.Format
  | category => Category
  | form => OutputForm
  | bounds _ => Bounds
  | value => Word

/-- A value of the slot, or else the text is not one. -/
def require {α : Type} (s : Slot) (text : String) : Option α → Except Misuse α
  | some a => .ok a
  | none => .error (.invalidValue s text)

/-- A path, which is not empty. -/
def readPath (s : Slot) (text : String) : Except Misuse String :=
  if text.isEmpty then .error (.missingValue s) else .ok text

/-- The value of a text for a slot. -/
def read (s : Slot) (text : String) : Except Misuse s.Value :=
  match s with
  | pid => require pid text (Numeral.ofSigned? 0x100000000 text)
  | core => readPath core text
  | replay => readPath replay text
  | lldb => readPath lldb text
  | logLevel => require logLevel text (Log.Level.ofText? text)
  | logFormat => require logFormat text (Log.Format.ofText? text)
  | category => require category text (Category.ofText? text)
  | save => readPath save text
  | form => require form text (OutputForm.ofText? text)
  | label => .ok text
  | bounds component => require (bounds component) text (Bounds.ofTyped text).toOption
  | iterations => require iterations text (Numeral.ofTyped? 0x10000000000000000 text)
  | interval => require interval text (Numeral.ofTyped? 0x10000000000000000 text)
  | register => .ok text
  | value => require value text (Word.ofTyped text).toOption
  | query => .ok text
  | term => .ok text
  | before => readPath before text
  | after => readPath after text

end Slot

namespace Misuse

/-- The wording of a misuse. -/
def message : Misuse → String
  | help => "help was asked for"
  | version => "the version was asked for"
  | noArguments => "nothing to do"
  | noCommand => "a command is missing"
  | unknownCommand text => "unknown command '" ++ text ++ "'"
  | unknownArgument text => "unexpected argument '" ++ text ++ "'"
  | unwantedValue option => "'--" ++ option ++ "' takes no value"
  | missingValue slot => "a value is missing for '" ++ slot.name ++ "'"
  | invalidValue slot text => "invalid value '" ++ text ++ "' for '" ++ slot.name ++ "'"
  | missingOperand slot => "'" ++ slot.name ++ "' is missing"
  | repeated slot => "'--" ++ slot.name ++ "' is given more than once"
  | conflicting slots =>
    "only one may be given of " ++ ", ".intercalate (slots.map fun slot => "--" ++ slot.name)

/-- The exit status after a misuse. -/
def exitStatus : Misuse → Nat
  | help | version => 0
  | _ => 2

end Misuse
end SysReg.CommandLine
