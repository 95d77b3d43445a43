import SysReg.Shell.Builtin.Table

/-!
# Texts of commands

A script is carried out command by command on a process. What a command holds is carried out by what
carries out commands: it is handed in, so that each kind of command is explained on its own, and
`Execution.command` ties the knot.

Here is what does not depend on the kinds of commands: how texts are carried out, how a part of a script is
carried out on its own, and how the work of commands is put into words.
-/

namespace SysReg.Shell

/-- Carries commands out, whose status may be asked about. -/
abbrev Executor : Type := (asked : Bool) → Command → Run Unit

/-- Runs a program at a path, by a name and with arguments: how it ends, or why it cannot be run. -/
abbrev Launcher : Type := (path called : String) → List String → Run (Except FileFault Ending)

namespace Execution

/-- What breaks a step off, if something does. -/
def outcome (step : Run Unit) : Run (Option Interruption) :=
  tryCatch (do
    step
    return none) fun i => return some i

-- What carries out the commands that a command holds.
variable (run : Executor)

/-! ## Texts -/

/-- Says something of a text of a kind, in one kind of shell. -/
def sayOfText (kind : String) (fault : SyntaxFault) : Run Unit := do
  let p ← get
  let name := if p.file.isEmpty then p.name else p.file
  let lead := name ++ ": " ++ (if kind.isEmpty then "" else kind ++ ": ") ++ "line " ++
    Numeral.decimal fault.line ++ ": "
  fault.texts.forM fun text => Run.complain (lead ++ text ++ "\n")

/-- Says what is wrong with a text of a kind, which is not read any further. -/
def refuseText {α : Type} (kind : String) (fault : SyntaxFault) : Run α := do
  modify fun p => { p with line := fault.line }
  match (← get).dialect with
  | .plain => Run.fail (.stated (" ".intercalate fault.texts))
  | .extended =>
    sayOfText kind fault
    Run.finish 2
    throw .failed

/-- Carries a command of a text out. In one kind of shell a fault gives up the command and not the text,
unless that is a part of a script on its own. -/
def givingUp (step : Run Unit) : Run Unit := do
  match ← outcome step with
  | none => return
  | some .failed =>
    let p ← get
    if p.dialect == .plain then throw .failed
    if p.status == 0 then Run.finish 1
    if 0 < p.nesting || p.has 'e' then throw .exited
  | some i => throw i

/-- Carries a text of a kind out line by line, as far as there are no faults in it: whether there was a
command. The number is greater than that of the lines. -/
def lines (asked : Bool) (kind : String) : Nat → (hasCommand : Bool) → Source → Run Bool
  | 0, hasCommand, _ => return hasCommand
  | n + 1, hasCommand, source => do
    let p ← get
    let knowsAliases := p.dialect == .plain || p.switches.contains "expand_aliases"
    let source := { source with
      aliases := if knowsAliases then p.aliases else []
      nextDocument := p.nextDocument
      hasPatterns := p.switches.contains "extglob" }
    match source.next with
    | .error fault => refuseText kind fault
    | .ok (none, _) => return hasCommand
    | .ok (some found, rest) =>
      if p.has 'v' then
        Run.complain (String.ofList (source.rest.take (source.rest.length - rest.rest.length)))
      modify fun p =>
        { p with
          documents := rest.documents ++ p.documents
          nextDocument := rest.nextDocument
          readLine := rest.line }
      rest.warnings.forM (sayOfText "")
      let rest := { rest with documents := [], warnings := [] }
      if found.isNothing then lines asked kind n hasCommand rest
      else
        givingUp (run asked found)
        lines asked kind n true rest

/-- Carries a text of a kind out, whose first line has a number in one kind of shell. One without commands is
a success. -/
def script (asked : Bool) (kind : String) (line : Nat) (text : String) : Run Unit := do
  let p ← get
  let isPlain := p.dialect == .plain
  -- In one kind of shell each line has an end.
  let isOpen := !isPlain && !text.endsWith "\n" && !text.isEmpty && !text.endsWith "\\"
  let characters := text.toList ++ if isOpen then ['\n'] else []
  let source := Source.ofText p.dialect characters (if isPlain then 1 else line) p.aliases p.nextDocument
  if !isPlain then set { p with command := none }
  let hasCommand ← Run.andFinally (lines run asked kind (text.length + 3) false source)
    (modify fun q => { q with readLine := p.readLine, command := p.command })
  if !hasCommand then Run.finish 0

/-! ## What is done on signals -/

/-- Does what is to be done on something, after which all goes on as if nothing had been done. It is not
done while it is done. -/
def answer (number : Nat) (kind : String) : Run Unit := do
  let p ← get
  match p.traps.lookup number with
  | none | some "" => return
  | some action =>
    let others := p.traps.filter (·.1 != number)
    set { p with traps := others }
    Run.andFinally (script run false kind p.line action) (modify fun q =>
      { q with
        traps := if (q.traps.lookup number).isSome then q.traps else (number, action) :: q.traps
        status := p.status
        statuses := p.statuses
        line := p.line })

/-- Does what is to be done on a failure, unless that is not for the function at work. -/
def answerFailure : Run Unit := do
  let p ← get
  if p.calls.isEmpty || p.has 'E' then answer run 66 "ERR trap"

/-- Does what is to be done in front of each command, unless that is not for the function at work. -/
def answerCommand : Run Unit := do
  let p ← get
  if p.calls.isEmpty || p.has 'T' then answer run 65 "DEBUG trap"

/-- Answers a failure that nothing asks about, which ends a strict script. -/
def heed (asked : Bool) : Run Unit := do
  let p ← get
  if !asked && p.status != 0 then
    answerFailure run
    if p.has 'e' then throw .exited

/-! ## Parts on their own -/

/-- Ends a shell: does what is to be done in the end. -/
def conclude : Run Ending := do
  let p ← get
  match p.traps.lookup 0 with
  | none | some "" => return .exited (p.status % 256)
  | some action =>
    set { p with traps := p.traps.filter (·.1 != 0) }
    match ← outcome (script run false "exit trap" 1 action) with
    | some (.killed number signal) => throw (.killed number signal)
    | some .exited => return .exited ((← get).status % 256)
    | _ => return .exited (p.status % 256)

/-- The process after a part of it that had all for itself: only files and streams are shared. -/
def rejoined (before after : Process) : Process :=
  { before with
    channels :=
      { after.channels with
        tree := { after.channels.tree with home := before.channels.tree.home }
        descriptors := before.channels.descriptors }
    clock := after.clock }

/-- What is done on a signal is done in parts of a script as well. -/
def isForParts (p : Process) (signal : Nat) (action : String) : Bool :=
  action.isEmpty || (signal == 65 && p.has 'T') || (signal == 66 && p.has 'E')

/-- Carries a step out on its own: how it ends. The signals that come in are the shell's. -/
def apart (step : Run Unit) : Run Ending := do
  let before ← get
  set { before with
    traps := before.traps.filter fun (signal, action) => isForParts before signal action
    outerTraps := some (before.outerTraps.getD before.traps)
    nesting := before.nesting + 1 }
  match ← outcome step with
  | some (.killed number signal) => throw (.killed number signal)
  | _ =>
    let ending ← conclude run
    modify fun after => { rejoined before after with signals := after.signals }
    return ending

/-! ## The work of commands in words -/

/-- A stream with what commands print on their own. -/
def outputOf (c : Command) : Run Nat := do
  let p ← get
  let (channels, number) := p.channels.add (.outgoing "")
  set { p with channels }
  let isStrict := p.dialect == .plain || p.switches.contains "inherit_errexit"
  let ending ← apart run do
    modify fun p =>
      { p with
        channels := p.channels.assign 1 number
        options := if isStrict then p.options else p.options.filter (· != 'e')
        indirection := p.indirection + 1 }
    run false c
  modify fun p => { p with latest := statusOf ending }
  return number

/-- The command that prints a file, if commands are nothing but a file to read. -/
def readerOf (c : Command) : Command :=
  let word (text : String) : Word := text.toList.map .plain
  match c with
  | .simple line [] [] [.directed 0 .read target text] =>
    .simple line [] [word "command", word "cat"] [.directed 0 .read target text]
  | c => c

/-- What commands print on their own, without the ends of lines behind it. -/
def capture (c : Command) : Run String := do
  let number ← outputOf run (if (← get).dialect == .plain then c else readerOf c)
  let p ← get
  let text := (p.channels.stream number).written.toList
  set { p with channels := p.channels.setStream number (.outgoing "") }
  if p.dialect == .extended && text.contains '\x00' then
    Run.report (.stated "warning: command substitution: ignored null byte in input")
  let kept := ((text.filter (· != '\x00')).reverse.dropWhile (· == '\n')).reverse
  return String.ofList kept

/-- A path for what commands print, or for what they are to read as soon as the command that writes it is
over. -/
def channel (c : Command) (isOutput : Bool) : Run String := do
  let latest := (← get).latest
  let number ← if isOutput then outputOf run c
    else do
      let p ← get
      let (channels, number) := p.channels.add (.outgoing "")
      set { p with channels }
      pure number
  let p ← get
  let free := ((List.range Channels.descriptorCount).reverse.find? fun d =>
    (p.channels.streamOf? d).isNone).getD 0
  let channels := if isOutput then
      p.channels.setStream number (.incoming (p.channels.stream number).written.toList)
    else p.channels
  set { p with
    channels := channels.assign free number
    sinks := ⟨free, number, if isOutput then none else some c⟩ :: p.sinks
    latest }
  return "/dev/fd/" ++ Numeral.decimal free

/-- What puts the work of commands into words. -/
def makers : Expansion.Makers :=
  ⟨capture run, channel run⟩

/-- Lets a command read what was written to its path, which is given up. -/
def drain (s : Sink) : Run Unit := do
  modify fun p => { p with channels := p.channels.close s.descriptor }
  match s.reader with
  | none => return
  | some c =>
    let _ ← apart run do
      modify fun p =>
        let text := (p.channels.stream s.stream).written
        let channels := p.channels.setStream s.stream (.incoming text.toList)
        { p with channels := channels.assign 0 s.stream, sinks := [] }
      run false c

/-- Carries a step out, and then gives up the paths that stand for other commands in its words. -/
def withChannels (step : Run Unit) : Run Unit := do
  let before := (← get).sinks
  Run.andFinally step do
    let p ← get
    set { p with sinks := before }
    (p.sinks.take (p.sinks.length - before.length)).reverse.forM (drain run)

end Execution
end SysReg.Shell
