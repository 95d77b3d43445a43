import SysReg.Shell.Execution.Basic

/-!
# Commands that steer

The commands of the shell that leave a part of a script, carry texts out or look at names; and what the name of
a command leads to: a command of the shell, a function, or a program.
-/

namespace SysReg.Shell.Execution

-- What carries out the commands that a command holds, and what runs programs.
variable (run : Executor) (launch : Launcher)

/-! ## Leaving parts of a script -/

/-- The status that a command is given, or else the one before it. -/
def givenStatus (arguments : List String) : Run Nat := do
  match (← get).dialect, arguments with
  | _, [] => return (← get).status
  | .plain, text :: _ => Builtin.number text
  | .extended, text :: _ =>
    match Arithmetic.ofText? true text with
    | some n => return (n % 256).toNat
    | none =>
      Run.report (.badNumber text)
      return 2

/-- Leaves the function or the file. -/
def goBack (arguments : List String) : Run Nat := do
  let p ← get
  if p.dialect == .extended && p.calls.isEmpty then
    Run.failWith 2 (.stated "can only \x60return' from a function or sourced script")
  Run.finish (← givenStatus arguments)
  throw .returned

/-- How many loops are to be left. -/
def loopCount (arguments : List String) : Run Nat := do
  match (← get).dialect, arguments with
  | _, [] => return 1
  | .plain, text :: _ =>
    let count ← Builtin.number text
    if count == 0 then Run.fail (.badNumber "0")
    return count
  | .extended, text :: _ =>
    match Arithmetic.ofText? true text with
    | some n =>
      if n < 1 then
        Run.report (.stated (text ++ ": loop count out of range"))
        Run.finish 1
        throw (.leaving (← get).loops false)
      return n.toNat
    | none =>
      Run.report (.badNumber text)
      Run.finish 128
      throw .exited

/-- Leaves loops. -/
def leave (again : Bool) (arguments : List String) : Run Nat := do
  if (← get).dialect == .extended && (← get).loops == 0 then
    Run.report (.stated "only meaningful in a \x60for', \x60while', or \x60until' loop")
    return 0
  let loops := min (← loopCount arguments) (← get).loops
  Run.finish 0
  if 0 < loops then throw (.leaving loops again)
  return 0

/-- The commands that leave a part of a script and take one number at most in one kind of shell. -/
def leavingNames : List String :=
  ["break", "continue", "exit", "return"]

/-- In one kind of shell it gives up the whole command if a number for leaving a part of the script is not
the only one. -/
def checkCount (name : String) (arguments : List String) : Run Unit := do
  match (← get).dialect, arguments with
  | .extended, text :: _ :: _ =>
    if leavingNames.contains name && (Arithmetic.ofText? true text).isSome then
      Run.fail (.stated "too many arguments")
  | _, _ => return

/-! ## Texts of files -/

/-- The path of a file with commands that a name means. -/
def fileOf? (p : Process) (name : String) : Option String :=
  if name.contains '/' then some name
  else
    match (((p.value? "PATH").getD "").splitOn ":").find? fun dir => isFile (below dir name) with
    | some dir => some (below dir name)
    | none => if p.dialect == .extended then some name else none
where
  /-- A path in a directory. -/
  below (dir name : String) : String :=
    if dir.isEmpty then name else dir ++ "/" ++ name
  /-- The path is that of a file. -/
  isFile (path : String) : Bool :=
    Condition.isKind p.channels.tree path fun node => match node with
      | .file _ _ => true
      | _ => false

/-- Carries a text out that is the part of a script: what it leaves as its status. -/
def untilReturn (step : Run Unit) : Run Nat := do
  match ← outcome step with
  | none | some .returned => return (← get).status
  | some i => throw i

/-- Carries the text of a file out, in the simpler kind of shell. -/
def plainFile (asked : Bool) (path : String) : Run Nat := do
  match (← Run.tree).find path with
  | .error fault => Run.fail (.notOpened path fault)
  | .ok node =>
    if node.isDirectory then return 0
    modify fun q => { q with command := some path }
    let text := textOfOctets (((← Run.tree).readOctets path).toOption.getD [])
    untilReturn (script run asked "" 1 text)

/-- Carries the text of a file out with arguments of its own, if there are some. -/
def extendedFile (asked : Bool) (path : String) (arguments : List String) : Run Nat := do
  let p ← get
  match p.channels.tree.find path with
  | .error fault =>
    set { p with command := none }
    Run.fail (.notOpened path fault)
  | .ok node =>
    if node.isDirectory then Run.fail (.stated (path ++ ": is a directory"))
    set { p with
      calls := ⟨"source", p.line, path⟩ :: p.calls
      file := path
      arguments := if arguments.isEmpty then p.arguments else arguments }
    let text := textOfOctets ((p.channels.tree.readOctets path).toOption.getD [])
    Run.andFinally (untilReturn (script run asked "" 1 text)) (modify fun q =>
      { q with
        calls := p.calls
        file := p.file
        line := p.line
        arguments := if arguments.isEmpty then q.arguments else p.arguments })

/-- Carries the text of a file out. -/
def fileScript (asked : Bool) (arguments : List String) : Run Nat := do
  let p ← get
  match p.dialect, arguments with
  | .plain, [] => return 0
  | .extended, [] => Builtin.refuse (.stated "filename argument required")
  | d, name :: rest =>
    match d, fileOf? p name with
    | _, none => Run.fail (.stated (name ++ ": not found"))
    | .plain, some path => plainFile run asked path
    | .extended, some path => extendedFile run asked path rest

/-! ## Programs -/

/-- Why a program at a path cannot be run. One kind of shell knows directories apart. -/
def unrunFault (p : Process) (path : String) (fault : FileFault) : FileFault :=
  let isDirectory := ((p.channels.tree.find path).toOption).any FileNode.isDirectory
  if p.dialect == .extended && isDirectory then .isADirectory else fault

/-- The status of a program that cannot be run. -/
def unrunStatus (d : Dialect) : FileFault → Nat
  | .notFound => 127
  | .notADirectory | .tooManyLinks | .nameTooLong => if d == .plain then 127 else 126
  | _ => 126

/-- Says why a program does not take the place of a shell of one kind, and what status that leaves. -/
def refuseBecoming (name : String) (fault : FileFault) : Run Nat := do
  let p ← get
  if !name.contains '/' then
    Run.report (.stated (name ++ ": not found"))
    return 127
  else
    let name := if name.startsWith "./" then (name.drop 2).toString else name
    let path := if name.startsWith "/" then name
      else Builtin.pathOfPlace p.channels.tree.home ++ "/" ++ name
    set { p with command := none }
    Run.report (.notRun path fault)
    if fault != .notFound then
      Run.report (.stated ("exec: " ++ path ++ ": cannot execute: " ++ fault.reason))
    return unrunStatus .extended fault

/-- Lets a program take the place of the shell. -/
def becomeProgram (name : String) (arguments : List String) : Run Nat := do
  let p ← get
  let (fault, status) ← match p.program name with
    | .error fault => pure (fault, 127)
    | .ok path =>
      match ← launch path name arguments with
      | .ok (.killed signal) => throw (.killed p.number signal)
      | .ok (.exited status) =>
        modify fun p => { p with traps := p.traps.filter (·.1 != 0), status }
        throw .exited
      | .error fault =>
        let fault := unrunFault p path fault
        pure (fault, unrunStatus .plain fault)
  match p.dialect with
  | .plain =>
    Run.report (if fault == .notFound then .unknownCommand name else .notRun name fault)
    Run.finish (if fault == .permissionDenied then 126 else status)
  | .extended => Run.finish (← refuseBecoming name fault)
  throw .exited

/-- Runs a program. One kind of shell tells it its own path. -/
def program (name : String) (arguments : List String) : Run Unit := do
  let p ← get
  match p.program name with
  | .error fault =>
    Run.report (if fault == .notFound then .unknownCommand name else .notRun name fault)
    Run.finish (if p.dialect == .plain || fault == .notFound then 127 else 126)
  | .ok path =>
    modify fun p =>
      let p := p.remember name path
      if p.dialect == .plain then p else p.putVariable "_" (some (.given path))
    match ← launch path name arguments with
    | .ok ending =>
      Builtin.sayEnding ending
      Run.finish (statusOf ending)
    | .error fault =>
      let fault := unrunFault p path fault
      Run.report (.notRun name fault)
      Run.finish (unrunStatus p.dialect fault)

/-! ## Commands of the shell -/

/-- Says what names mean, as the options of the command ask. -/
def describeAsked (arguments : List String) : Run Nat := do
  let (options, names) ← Builtin.letters "pvV" arguments
  match options.filter (· != 'p'), names with
  | [], _ | _, [] => return 0
  | option :: _, name :: others =>
    if (← get).dialect == .plain then Builtin.describe (option == 'V') [name]
    else
      let found ← (name :: others).mapM fun name => Builtin.describe (option == 'V') [name]
      return if found.contains 0 then 0 else 1

/-- The commands that carry others out, leave a part of the script, or look at names. -/
def steering (asked : Bool) (name : String) (arguments : List String) : Run Nat := do
  match name with
  | "eval" =>
    let (_, arguments) ← Builtin.letters "" arguments
    if arguments.isEmpty then return 0
    script run asked "eval" (← get).line (" ".intercalate arguments)
    return (← get).status
  | "exec" =>
    let arguments ← if (← get).dialect == .plain then pure arguments
      else
        let (_, rest) ← Builtin.options ['c', 'l'] ['a'] (arguments.length + 1) arguments
        pure rest
    match arguments with
    | [] => return 0
    | name :: arguments => becomeProgram launch name arguments
  | "exit" =>
    Run.finish (← givenStatus arguments)
    throw .exited
  | "return" => goBack arguments
  | "break" => leave false arguments
  | "continue" => leave true arguments
  | "hash" => Builtin.hash arguments
  | "type" =>
    if (← get).dialect == .plain then Builtin.describe true (arguments.filter fun text => text != "--")
    else Builtin.describeMore arguments
  | "command" => describeAsked arguments
  | "builtin" =>
    match arguments.head? with
    | none => return 0
    | some name => Run.fail (.stated (name ++ ": not a shell builtin"))
  | _ => fileScript run asked (← Builtin.letters "" arguments).2

/-- Carries a command of the shell out. A fault of it ends the script only if the command is special. -/
def builtin (asked isSpecial : Bool) (name : String) (arguments : List String) : Run Unit := do
  let before ← get
  set { before with command := some name, lost := none }
  let goOn : Run Unit := modify fun p => { p with command := before.command }
  Run.andFinally (checkCount name arguments) goOn
  modify fun p => { p with command := some name }
  let body : Run Nat := match Builtin.simple? before.dialect name with
    | some body => body arguments
    | none => steering run launch asked name arguments
  let result ← outcome do
    let status ← body
    if (← get).lost.isSome then
      Run.report (.stated (match before.dialect, (← get).lost with
        | .extended, some fault => "write error: " ++ fault.reason
        | _, _ => name ++ ": I/O error"))
      Run.finish (status ||| 1)
    else Run.finish status
  goOn
  match result with
  | none => return
  | some .failed => if isSpecial then throw .failed
  | some i => throw i

/-! ## Functions -/

/-- Calls a function, which has options of its own in the simpler kind of shell. -/
def call (asked : Bool) (name : String) (body : Command) (arguments : List String) : Run Unit := do
  let before ← get
  let step : Run Unit :=
    tryCatch (run asked body) fun i => if i == .returned then return else throw i
  set { before with arguments, loops := 0 }
  match before.dialect with
  | .plain =>
    modify fun p => { p with optionPlace := (1, 0) }
    Run.andFinally step (modify fun after =>
      { after with
        arguments := before.arguments
        loops := before.loops
        optionPlace := before.optionPlace })
  | .extended =>
    modify fun p => { p with calls := ⟨name, p.line, p.file⟩ :: p.calls }
    Run.andFinally (Run.framed step) (modify fun after =>
      { after with
        arguments := before.arguments
        loops := before.loops
        calls := before.calls
        line := before.line })

end SysReg.Shell.Execution
