import SysReg.CommandLine.Arguments

/-!
# Commands

An invocation of the program: what to do, where values come from, and what is logged. It is read from
the arguments and the environment by `Invocation.ofArguments`.
-/

namespace SysReg.CommandLine

/-- What to do. -/
inductive Command where
  | read (register : String)
  | decode (register : String) (value : Word)
  | dump (filter : Option Category) (save : Option String) (form : OutputForm) (label : String)
  | list (filter : Option Category) (form : OutputForm)
  | describe (register : String) (form : OutputForm)
  | search (query : String) (form : OutputForm)
  | glossary (term : Option String)
  | compare (before after : String) (form : OutputForm)
  | probe (op0 op1 crn crm op2 : Bounds)
  | sample (register : String) (iterations interval : Nat)
  deriving DecidableEq, Repr

/-- Where register values come from. -/
structure ValueSource where
  pid : Option Nat
  core : Option String
  replay : Option String
  lldb : String
  deriving DecidableEq, Repr

/-- An invocation of the program. -/
structure Invocation where
  source : ValueSource
  logLevel : Option Log.Level
  logFormat : Log.Format
  command : Command
  deriving DecidableEq, Repr

/-- The form that was asked for. -/
def formOf (g : Given) : OutputForm :=
  (g.get? .form).getD .text

/-- The bounds of a component, or else those of the encodings that the architecture leaves to
implementations. -/
def boundsOf (g : Given) (component : Component) : Bounds :=
  (g.get? (.bounds component)).getD (Box.implementationDefined.of component)

/-- The command of a verb with the values given for it. -/
def Command.ofGiven (verb : Verb) (g : Given) : Except Misuse Command :=
  match verb with
  | .read => return .read (← g.need .register)
  | .decode => return .decode (← g.need .register) (← g.need .value)
  | .dump =>
    return .dump (g.get? .category) (g.get? .save) (formOf g) ((g.get? .label).getD "snapshot")
  | .list => return .list (g.get? .category) (formOf g)
  | .describe => return .describe (← g.need .register) (formOf g)
  | .search => return .search (← g.need .query) (formOf g)
  | .glossary => return .glossary (g.get? .term)
  | .compare => return .compare (← g.need .before) (← g.need .after) (formOf g)
  | .probe =>
    return .probe (boundsOf g .op0) (boundsOf g .op1) (boundsOf g .crn) (boundsOf g .crm)
      (boundsOf g .op2)
  | .sample =>
    return .sample (← g.need .register) ((g.get? .iterations).getD 100)
      ((g.get? .interval).getD 10)

/-- The options that name a source of values, of which one level may give one only. -/
def sourceOptions : List Slot :=
  [.pid, .core, .replay]

/-- A level gives one source at most. -/
def checkSources (g : Given) : Except Misuse Unit :=
  let named := sourceOptions.filter g.has
  if named.length ≤ 1 then .ok () else .error (.conflicting named)

/-- The values of a level whose arguments were scanned, with those of the environment. -/
def finishLevel (scan : Scan) (env : Environment) : Except Misuse Given := do
  let scan ← scan.settle
  scan.given.complete env sharedOptions

/-- The command after a verb, and all values given at its level. -/
def readCommand (env : Environment) (verb : Verb) (arguments : List String) :
    Except Misuse (Command × Given) := do
  let (scan, _) ← scanLevel (.after verb) (.start (.after verb)) arguments
  let g ← finishLevel scan env
  checkSources g
  let command ← Command.ofGiven verb g
  return (command, g)

/-- The invocation of a command with the values given at both levels. -/
def Invocation.ofGiven (command : Command) (g : Given) : Invocation where
  source :=
    { pid := g.get? .pid
      core := g.get? .core
      replay := g.get? .replay
      lldb := (g.get? .lldb).getD "lldb" }
  logLevel := g.get? .logLevel
  logFormat := (g.get? .logFormat).getD .pretty
  command

/-- The invocation that the arguments and the environment describe. The arguments after the verb are
checked before the last value in front of it. -/
def Invocation.ofArguments (env : Environment) (arguments : List String) :
    Except Misuse Invocation := do
  match ← scanLevel .outer (.start .outer) arguments with
  | (scan, some (verb, rest)) =>
    let (command, inner) ← readCommand env verb rest
    let outer ← finishLevel scan env
    checkSources outer
    return .ofGiven command (inner.within outer)
  | (scan, none) =>
    let outer ← finishLevel scan env
    throw (if sharedOptions.any outer.has then .noCommand else .noArguments)

end SysReg.CommandLine
