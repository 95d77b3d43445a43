import SysReg.Shell.Builtin.Declaring

/-!
# Commands about signals and jobs

Sending signals, saying what is done on them, and waiting for commands in the background, which are over
as soon as they are waited for.
-/

namespace SysReg.Shell.Builtin

/-! ## What is done on signals -/

/-- What is done besides signals, by names of its own. -/
def furtherSignals : List (String × Nat) :=
  [("DEBUG", 65), ("ERR", 66), ("RETURN", 67)]

/-- The name of a signal as one kind of shell shows it. -/
def longName (signal : Nat) : String :=
  match furtherSignals.find? fun e => e.2 == signal with
  | some (name, _) => name
  | none => if signal == 0 then "EXIT" else "SIG" ++ Signal.name signal

/-- The signal of a name. -/
def signalOf? (d : Dialect) (name : String) : Option Nat :=
  if d == .plain then Signal.ofName? name
  else
    let upper := name.toUpper
    let short := if upper.startsWith "SIG" then (upper.drop 3).toString else upper
    (furtherSignals.lookup upper).or (Signal.ofName? short)

/-- Says what is done on signals, or shows it. -/
def trap : Builtin := fun arguments => do
  let (options, arguments) ← lettersIn "" "lp" arguments
  match options, arguments with
  | [], [] | 'p' :: _, _ =>
    let p ← get
    let asked := arguments.filterMap (signalOf? p.dialect)
    let entries := (List.range (Signal.count + 3)).filterMap fun signal =>
      (p.traps.lookup signal).bind fun action =>
        if !asked.isEmpty && !asked.contains signal then none
        else
          some ("trap -- " ++ (match p.dialect with
            | .plain => inQuotes action ++ " " ++ Signal.name signal
            | .extended => Expansion.quotedForShell action ++ " " ++ longName signal) ++ "\n")
    Run.print (String.join entries)
    return 0
  | _ :: _, _ => return 0
  | [], first :: rest =>
    let isSignal := rest.isEmpty || first.toNat?.isSome
    let action := if isSignal || first == "-" then none else some first
    let names := if isSignal then first :: rest else rest
    names.foldlM
      (fun status name => do
        if status != 0 then return status
        let p ← get
        match signalOf? p.dialect name with
        | none =>
          Run.complain (match p.dialect with
            | .plain => "trap: " ++ name ++ ": bad trap\n"
            | .extended => p.lead ++ name ++ ": invalid signal specification\n")
          return 1
        | some signal =>
          modify fun p =>
            let others := p.traps.filter (·.1 != signal)
            { p with traps := (action.toList.map (signal, ·)) ++ others }
          return 0)
      0

/-! ## Sending signals -/

/-- The process takes a signal in. -/
def receive (signal : Nat) : Run Unit := do
  let p ← get
  -- Two signals cannot be caught.
  match if signal == 9 || signal == 19 then none else (p.outerTraps.getD p.traps).lookup signal with
  | some "" => return
  | some _ => set { p with signals := p.signals ++ [signal] }
  | none => if Signal.harmless.contains signal then return else throw (.killed p.number signal)

/-- Sends a signal to the process of a number: whether there is one. -/
def send (signal : Nat) (target : Nat) : Run Bool := do
  let p ← get
  if target == p.number || target == 0 then
    receive signal
    return true
  else
    match p.jobs.find? fun (j : Job) => j.number == target && p.clock < j.endsAt with
    | some job =>
      if !Signal.harmless.contains signal then
        set { p with jobs := p.jobs.map fun (j : Job) =>
          if j.number == job.number then { j with ending := .killed signal, endsAt := p.clock } else j }
      return true
    | none => return false

/-- How the command is used. -/
def killUsage {α : Type} : Run α := do
  if (← get).dialect == .extended then refuseUsage
  Run.fail (.stated ("Usage: kill [-s sigspec | -signum | -sigspec] [pid | job]... or\n" ++
    "kill -l [exitstatus]"))

/-- The process that an argument means. -/
def targetOf (text : String) : Run Nat := do
  if text.startsWith "%" then
    match (← get).jobs.head?, text == "%1" || text == "%%" || text == "%+" with
    | some job, true => return job.number
    | _, _ =>
      Run.fail (.stated (if (← get).dialect == .plain then "No such job: " ++ text
        else text ++ ": no such job"))
  else if (← get).dialect == .extended then
    match Arithmetic.ofText? true text with
    | some n => return n.natAbs
    | none => Run.fail (.stated (if (← get).command == some "wait" then
        "\x60" ++ text ++ "': not a pid or valid job spec"
      else text ++ ": arguments must be process or job IDs"))
  else if text.startsWith "-" then number (text.drop 1).toString
  else number text

/-- Shows the names of signals. -/
def listSignals (arguments : List String) : Run Nat := do
  match arguments with
  | [] =>
    Run.print ("0\n" ++ String.join ((List.range (Signal.count - 1)).map fun n =>
      Signal.name (n + 1) ++ "\n"))
    return 0
  | text :: _ =>
    let d := (← get).dialect
    if d == .extended && text.toNat?.isNone then
      match signalOf? d text with
      | some signal =>
        Run.print (Numeral.decimal signal ++ "\n")
        return 0
      | none => Run.fail (.stated (text ++ ": invalid signal specification"))
    let n ← number text
    let signal := if 128 < n then n - 128 else n
    if 0 < signal && signal < Signal.count then
      Run.print (Signal.name signal ++ "\n")
      return 0
    else Run.fail (.stated ("invalid signal number or exit status: " ++ text))

/-- Sends signals to processes. -/
def kill : Builtin := fun arguments => do
  let d := (← get).dialect
  let byName (text : String) : Option Nat := (signalOf? d text).filter fun _ => text != "EXIT"
  let (signal, arguments) ← match arguments with
    | [] => killUsage
    | first :: rest =>
      match first.toList with
      | '-' :: name =>
        match byName (String.ofList name) with
        | some signal => pure (some signal, rest)
        | none => do
          if d == .extended && name != ['-'] && name.head? != some 'l' && name.head? != some 's' &&
              name.head? != some 'n' then
            Run.fail (.stated (String.ofList name ++ ": invalid signal specification"))
          let (options, rest) ← options ['l'] (if d == .plain then ['s'] else ['s', 'n'])
            (arguments.length + 1) arguments
          if options.any (·.1 == 'l') then return (← listSignals rest)
          match options.getLast? with
          | some (_, name) =>
            match byName name with
            | some signal => pure (some signal, rest)
            | none =>
              Run.fail (.stated (if d == .plain then "invalid signal number or name: " ++ name
                else name ++ ": invalid signal specification"))
          | none => pure (none, rest)
      | _ => pure (none, arguments)
  if arguments.isEmpty then killUsage
  arguments.foldlM
    (fun status text => do
      let target ← targetOf text
      if ← send (signal.getD 15) target then return status
      else
        Run.report (.stated (if d == .plain then "No such process\n"
          else "(" ++ Numeral.decimal target ++ ") - No such process"))
        return 1)
    0

/-! ## Jobs -/

/-- Says that a signal has ended a process, unless that is nothing to speak of. -/
def sayEnding (ending : Ending) : Run Unit :=
  match ending with
  | .killed signal =>
    if signal == 2 || signal == 13 then return else Run.complain (Signal.description signal ++ "\n")
  | .exited _ => return

/-- Waits until a job is over. -/
def waitFor (job : Job) : Run Nat := do
  modify fun p =>
    { p with
      clock := max p.clock job.endsAt
      jobs := p.jobs.map fun (j : Job) => if j.number == job.number then { j with endsAt := 0 } else j }
  sayEnding job.ending
  return statusOf job.ending

/-- Waits for commands in the background. -/
def wait : Builtin := fun arguments => do
  let (_, arguments) ← lettersIn "" "fn" arguments
  match arguments with
  | [] =>
    modify fun p => { p with clock := p.jobs.foldl (fun n (j : Job) => max n j.endsAt) p.clock }
    return 0
  | _ =>
    arguments.foldlM
      (fun _ text => do
        let target ← targetOf text
        match (← get).jobs.find? fun (j : Job) => j.number == target with
        | some job => waitFor job
        | none =>
          if (← get).dialect == .extended then
            Run.report (.stated ("pid " ++ text ++ " is not a child of this shell"))
          return 127)
      0

/-- Asks for a job that is stopped, of which there is none. -/
def noJob : Builtin := fun arguments => do
  if (← get).dialect == .extended then Run.fail (.stated "no job control")
  match arguments.head? with
  | some text => Run.fail (.stated ("No such job: " ++ text))
  | none => Run.fail (.stated "No current job")

end SysReg.Shell.Builtin
