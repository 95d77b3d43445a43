import SysReg.CommandLine.Slot

/-!
# Verbs

The first argument that is neither an option nor the value of one names the command. It decides which
options and operands may follow.
-/

namespace SysReg.CommandLine

/-- The name of a command. -/
inductive Verb where
  | read
  | decode
  | dump
  | list
  | describe
  | search
  | glossary
  | compare
  | probe
  | sample
  deriving DecidableEq, Repr

namespace Verb

/-- Every verb. -/
def all : List Verb :=
  [read, decode, dump, list, describe, search, glossary, compare, probe, sample]

/-- The spelling of a verb. -/
def name : Verb → String
  | read => "read"
  | decode => "decode"
  | dump => "dump"
  | list => "list"
  | describe => "describe"
  | search => "search"
  | glossary => "glossary"
  | compare => "compare"
  | probe => "probe"
  | sample => "sample"

/-- The verb of a spelling. -/
def ofText? (text : String) : Option Verb :=
  all.find? fun verb => verb.name = text

/-- The options of a verb's own. -/
def options : Verb → List Slot
  | read | decode | glossary => []
  | dump => [.category, .save, .form, .label]
  | list => [.category, .form]
  | describe | search | compare => [.form]
  | probe => [.bounds .op0, .bounds .op1, .bounds .crn, .bounds .crm, .bounds .op2]
  | sample => [.iterations, .interval]

/-- The operands of a verb, in order. -/
def operands : Verb → List Slot
  | read | describe | sample => [.register]
  | decode => [.register, .value]
  | search => [.query]
  | glossary => [.term]
  | compare => [.before, .after]
  | dump | list | probe => []

/-- What a command does, in a line of the help. -/
def summary : Verb → String
  | read => "Read one register and show its fields"
  | decode => "Show the fields of a value"
  | dump => "Read every register of the catalog, or of a category, into a snapshot"
  | list => "List the registers of the catalog"
  | describe => "Show the layout of a register"
  | search => "Search names, descriptions and field labels"
  | glossary => "Expand the abbreviations in names"
  | compare => "Compare two snapshots"
  | probe => "Read encodings that the catalog does not know"
  | sample => "Read one register repeatedly and tell how it behaves"

end Verb

/-- The options that may stand before and after the verb. -/
def sharedOptions : List Slot :=
  [.pid, .core, .replay, .lldb, .logLevel, .logFormat]

/-- The name under which the program presents itself. -/
def programName : String := "aplreg"

/-- The version of the program. -/
def programVersion : String := "0.0.0"

/-- A line of the help. -/
def helpLine (name summary : String) : String :=
  "  " ++ Text.padRight 14 name ++ "  " ++ summary

/-- The help. -/
def helpText : String :=
  Text.ofLines
    (["Read, decode, dump and compare Apple Silicon system registers", "",
      "Usage: " ++ programName ++ " [options] <command> [arguments]", "", "Commands:"] ++
      Verb.all.map (fun verb => helpLine verb.name verb.summary) ++ ["", "Options:"] ++
      sharedOptions.map fun slot => helpLine ("--" ++ slot.name)
        (((slot.environmentName?.map ("or the variable " ++ ·)).getD "")))

end SysReg.CommandLine
