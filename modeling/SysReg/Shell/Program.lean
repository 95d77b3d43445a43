import SysReg.Shell.Execution
import SysReg.Shell.Tool.Column
import SysReg.Shell.Tool.Copying
import SysReg.Shell.Tool.Cutting
import SysReg.Shell.Tool.Difference
import SysReg.Shell.Tool.Digest
import SysReg.Shell.Tool.Directory
import SysReg.Shell.Tool.Dump
import SysReg.Shell.Tool.Editor.Editing
import SysReg.Shell.Tool.Excerpt
import SysReg.Shell.Tool.Finding
import SysReg.Shell.Tool.Formula
import SysReg.Shell.Tool.Launching
import SysReg.Shell.Tool.Letters
import SysReg.Shell.Tool.Machine
import SysReg.Shell.Tool.Order
import SysReg.Shell.Tool.Printing
import SysReg.Shell.Tool.Records.Running
import SysReg.Shell.Tool.Search
import SysReg.Shell.Tool.Sequence

/-!
# Running programs

A program is a script, which its first line gives to another program, or one of those that are always
there: a shell or a tool. Each works in a process of its own, which is given the variables that are
exported and leaves nothing behind but files and output.
-/

namespace SysReg.Shell

/-! ## Tools by name -/

namespace Tool

/-- The tools whose output does not wait. -/
def direct : List (String × Tool) :=
  [("awk", awk), ("cat", cat), ("env", env), ("false", fun _ _ => return 1), ("find", find), ("mawk", awk),
    ("nice", nice), ("nohup", nohup), ("setsid", setsid), ("stdbuf", stdbuf), ("sync", fun _ _ => return 0),
    ("tee", tee), ("timeout", timeout), ("true", fun _ _ => return 0), ("xargs", xargs), ("yes", yes)]

/-- The tools whose output waits for their end. -/
def waiting : List (String × Tool) :=
  [("[", test true), ("arch", saying "x86_64"), ("base32", lettered letters32 5 5),
    ("base64", lettered letters64 6 3), ("basename", basename), ("chmod", chmod), ("cksum", cksum), ("cmp", cmp),
    ("comm", comm), ("cp", cp), ("cut", cut), ("date", date), ("dd", dd), ("diff", diff), ("dirname", dirname),
    ("echo", echo),
    ("egrep", searchAs .extended "grep"), ("expand", expand), ("expr", expr), ("factor", factor),
    ("fgrep", searchAs .fixed "grep"), ("fold", fold), ("grep", grep), ("groups", saying "root"),
    ("head", head), ("hostname", hostname), ("id", identity), ("join", join), ("link", link), ("ln", ln),
    ("ls", ls),
    ("mkdir", mkdir), ("mktemp", mktemp), ("mv", mv), ("nl", nl), ("nproc", nproc), ("od", od),
    ("paste", paste),
    ("printenv", printenv), ("printf", printf), ("pwd", pwd), ("readlink", readlink),
    ("realpath", realpath), ("rev", rev), ("rm", rm), ("rmdir", rmdir), ("sed", sed), ("seq", seq),
    ("shuf", shuf), ("sleep", sleep), ("sort", sort),
    ("split", splitFile), ("stat", stat), ("sum", sum), ("tac", tac), ("tail", tail), ("test", test false),
    ("touch", touch), ("tr", tr), ("truncate", truncate), ("tsort", tsort),
    ("tty", tty), ("uname", uname),
    ("unexpand", unexpand), ("uniq", uniq), ("unlink", unlink), ("wc", wc), ("which", which),
    ("whoami", whoami)] ++ digests.map fun (name, d) => (name, digest d)

/-- All tools. -/
def all : List (String × Tool) :=
  direct ++ waiting.map fun (name, tool) => (name, fun c arguments => holding (tool c arguments))

end Tool

namespace Program

/-! ## What is there -/

/-- What is on the first line of a script: a program and perhaps one argument for it. -/
def interpreter? (octets : List Nat) : Option (String × List String) :=
  match (textOfOctets octets).toList with
  | '#' :: '!' :: rest =>
    let isBlank (c : Char) : Bool := c == ' ' || c == '\t'
    let line := (rest.takeWhile (· != '\n')).dropWhile isBlank
    let line := (line.reverse.dropWhile isBlank).reverse
    let path := line.takeWhile fun c => !isBlank c
    let argument := (line.drop path.length).dropWhile isBlank
    if path.isEmpty then none
    else
      some (String.ofList path, if argument.isEmpty then [] else [String.ofList argument])
  | _ => none

/-- The programs that carry out scripts. -/
def shells : List String := ["bash", "dash", "sh"]

/-- The names of all programs that are there. -/
def names : List String :=
  shells ++ Tool.all.map (·.1)

/-- The directories of programs. -/
def directories : List (List String) :=
  [["bin"], ["usr", "bin"]]

/-- The program at a place, if it is one of those that are always there. -/
def programAt? (place : List String) : Option String :=
  match place.getLast? with
  | some name =>
    if directories.contains place.dropLast && names.contains name then some name else none
  | none => none

/-! ## Processes of their own -/

/-- A process for a program, which has nothing of what its parent has set but what that exports. -/
def child (p : Process) (called : String) : Process :=
  { p with
    number := p.number + 1
    dialect := .plain
    name := called
    arguments := []
    scope := p.environment.map fun (name, value) => (name, .given value)
    frames := []
    functions := []
    aliases := []
    traps := p.traps.filter fun (_, action) => action.isEmpty
    outerTraps := none
    signals := []
    options := []
    switches := []
    status := 0
    latest := 0
    command := none
    line := 0
    readLine := 0
    loops := 0
    nesting := 0
    statuses := [0]
    calls := []
    file := ""
    documents := []
    jobs := []
    optionPlace := (1, 0)
    found := []
    lost := none
    lists := []
    sinks := []
    indirection := 0
    stack := [] }

/-- Carries a step out in a process for a program: how it ends. -/
def within (called : String) (step : Run Ending) : Run Ending := do
  let before ← get
  set (child before called)
  let ending ← tryCatch step fun i => do
    match i with
    | .killed number signal =>
      if number == before.number + 1 then return .killed signal else throw i
    | _ => return .exited ((← get).status % 256)
  modify (Execution.rejoined before)
  return ending

/-! ## Shells -/

/-- What a shell is asked to carry out. -/
inductive Task where
  | text (text : String)
  | file (path : String)
  | input
  deriving DecidableEq, Repr

/-- The options of a shell and what stands behind them: whether a text is given, and whether the input is
to be carried out. The number is at least that of the arguments. -/
def optionsOf (isGiven isInput : Bool) : Nat → List String → Run (Bool × Bool × List String)
  | 0, arguments => return (isGiven, isInput, arguments)
  | _, [] => return (isGiven, isInput, [])
  | n + 1, argument :: rest => do
    match argument.toList with
    | ['-'] | ['-', '-'] => return (isGiven, isInput, rest)
    | sign :: cs =>
      if sign != '-' && sign != '+' then return (isGiven, isInput, argument :: rest)
      let p ← get
      if p.dialect == .extended then
        if String.ofList cs == "-posix" || String.ofList cs == "-norc" ||
            String.ofList cs == "-noprofile" || String.ofList cs == "-login" then
          return (← optionsOf isGiven isInput n rest)
        if cs.head? == some '-' then Run.fail (.badOption argument)
      let known := Builtin.optionLetters p.dialect
      match cs.find? fun c => !(known ++ ['c', 'o', 'l', 's']).contains c with
      | some c => Run.fail (.badOption (sign.toString ++ c.toString))
      | none =>
        (cs.filter known.contains).forM (Builtin.setOption (sign == '-'))
        let isGiven := isGiven || cs.contains 'c'
        let isInput := isInput || cs.contains 's'
        if cs.contains 'o' then
          Builtin.setNamedOption (sign == '-') rest.head?
          optionsOf isGiven isInput n (rest.drop 1)
        else optionsOf isGiven isInput n rest
    | [] => return (isGiven, isInput, argument :: rest)

/-- What a shell is to carry out, and the arguments for it; the first of them is its name. -/
def taskOf (called : String) (arguments : List String) : Run (Task × List String) := do
  let (isGiven, isInput, rest) ← optionsOf false false (arguments.length + 1) arguments
  match isGiven, rest with
  | true, text :: rest => return (.text text, if rest.isEmpty then [called] else rest)
  | true, [] =>
    match (← get).dialect with
    | .plain => Run.fail (.stated "-c requires an argument")
    | .extended => Run.fail (.stated "-c: option requires an argument")
  | false, [] => return (.input, [called])
  | false, file :: words =>
    if isInput then return (.input, called :: file :: words) else return (.file file, file :: words)

/-- The variables that the simpler kind of shell sets by itself. -/
def plainVariables (p : Process) : List (String × Variable) :=
  [("IFS", " \t\n"), ("OPTIND", "1"), ("PPID", Numeral.decimal (p.number - 1)), ("PS1", "$ "),
    ("PS2", "> "), ("PS4", "+ "), ("PWD", Builtin.pathOfPlace p.channels.tree.home)].map
    fun (name, value) => (name, .ofText value)

/-- The variables that the other kind of shell sets by itself. -/
def extendedVariables (p : Process) : List (String × Variable) :=
  let kept (text : String) : Variable := { Variable.ofText text with isInteger := true, isReadOnly := true }
  let version : Content := .list ((["5", "2", "21", "1", "release", machine].zipIdx).map
    fun (text, n) => (n, text))
  [("BASH", .ofText "/bin/bash"),
    ("BASH_VERSINFO", { Variable.empty with content := some version, isReadOnly := true }),
    ("BASH_VERSION", .ofText "5.2.21(1)-release"), ("EUID", kept "0"), ("HOSTTYPE", .ofText "x86_64"),
    ("IFS", .ofText " \t\n"), ("MACHTYPE", .ofText machine), ("OPTERR", .ofText "1"), ("OPTIND", .ofText "1"),
    ("OSTYPE", .ofText "linux-gnu"), ("PPID", kept (Numeral.decimal (p.number - 1))), ("PS4", .ofText "+ "),
    ("PWD", .given (Builtin.pathOfPlace p.channels.tree.home)), ("SHELL", .ofText "/bin/bash"),
    ("TERM", .ofText "dumb"), ("UID", kept "0"), ("_", .ofText "/bin/bash")]
where
  /-- The kind of machine. -/
  machine : String := "x86_64-pc-linux-gnu"

/-- The process with what a kind of shell sets by itself. One kind counts how deep shells are nested. -/
def withOwn (p : Process) (dialect : Dialect) : Process :=
  let put (p : Process) (name : String) (v : Variable) : Process :=
    if (p.variableOf? name).isSome then p else p.putVariable name (some v)
  match dialect with
  | .plain => (plainVariables p).foldl (fun p (name, v) => put p name v) p
  | .extended =>
    let level := ((p.value? "SHLVL").bind String.toNat?).getD 0 + 1
    let p := p.putVariable "SHLVL" (some (.given (Numeral.decimal level)))
    { (extendedVariables p).foldl (fun p (name, v) => put p name v) p with
      options := ['h', 'B']
      switches := Builtin.firstSwitches }

/-- How a shell is used. -/
def usage : String :=
  "Usage:\tbash [GNU long option] [option] ...\n\tbash [GNU long option] [option] script-file ...\n" ++
    "GNU long options:\n" ++ String.join (["debug", "debugger", "dump-po-strings", "dump-strings", "help",
      "init-file", "login", "noediting", "noprofile", "norc", "posix", "pretty-print", "rcfile",
      "restricted", "verbose", "version"].map fun name => "\t--" ++ name ++ "\n") ++
    "Shell options:\n\t-ilrsD or -c command or -O shopt_option\t\t(invocation only)\n" ++
    "\t-abefhkmnptuvxBCEHPT or -o option\n"

/-- The text that a shell is to carry out. -/
def textOf (task : Task) : Run String := do
  match task with
  | .text text => return text
  | .input => return String.ofList ((← Run.readAll 0).toOption.getD [])
  | .file path =>
    let p ← get
    match p.channels.tree.find path, p.dialect with
    | .error fault, _ =>
      Run.report (.notOpened path fault)
      Run.finish (if p.dialect == .plain then 2 else 127)
      throw .exited
    | .ok node, .extended =>
      if node.isDirectory then
        set { p with name := path, line := 0 }
        Run.report (.stated (path ++ ": Is a directory"))
        Run.finish 126
        throw .exited
    | _, _ => pure ()
    return textOfOctets ((p.channels.tree.readOctets path).toOption.getD [])

/-- Carries out what a shell is asked to carry out, with arguments of which the first is its name. -/
def work (run : Executor) (called : String) (task : Task) (words : List String) : Run Unit := do
  let text ← textOf task
  let name := words.headD called
  modify fun p =>
    { p with
      name
      arguments := words.drop 1
      file := if task == .file name && p.dialect == .extended then name else "" }
  let isPlain := (← get).dialect == .plain
  let (letter, kind) : Option Char × String := match task with
    | .text _ => (if isPlain then none else some 'c', "-c")
    | .input => (some 's', "")
    | .file _ => (none, "")
  letter.forM (Builtin.setOption true)
  match ← Execution.outcome (Execution.script run false kind 1 text) with
  | some (.killed number signal) => throw (.killed number signal)
  | _ => return

/-- Lets a shell do its work. -/
def shell (run : Executor) (dialect : Dialect) (called : String) (arguments : List String) :
    Run Ending := do
  modify fun p => { withOwn p dialect with dialect, name := called }
  let isUsed ← Execution.outcome do
    let (task, words) ← taskOf called arguments
    work run called task words
  match isUsed with
  | none => Execution.conclude run
  | some .failed =>
    if dialect == .extended then Run.complain usage
    return .exited 2
  | some (.killed number signal) => throw (.killed number signal)
  | some _ => return .exited ((← get).status % 256)

/-! ## Launching -/

/-- Lets a tool do its work. -/
def tool (launch : Launcher) (called : String) (body : Tool) (arguments : List String) :
    Run Ending := do
  let lookedUp (name : String) (words : List String) : Run (Except FileFault Ending) := do
    match (← get).program name with
    | .ok path => launch path name words
    | .error fault => return .error fault
  let status ← body ⟨called, lookedUp⟩ arguments
  match (← get).lost with
  | none => return .exited (status % 256)
  | some fault =>
    Run.complain (called ++ ": write error: " ++ fault.reason ++ "\n")
    return .exited (if status == 0 then 1 else status % 256)

/-- How deep commands of one program are nested at most. -/
def depth : Nat := 2500

/-- Runs a program. A file in no form that can be run is taken for a script. The number bounds how deep
programs are nested. -/
def launch : Nat → (asScript : Bool) → Launcher
  | 0, _, _, _, _ => return .error .permissionDenied
  | n + 1, asScript, path, called, arguments => do
    let t ← Run.tree
    match t.readProgram path, t.walk path (FileTree.names path) with
    | .error fault, _ | _, .error fault => return .error fault
    | .ok octets, .ok place =>
      match interpreter? octets, programAt? place with
      | some (program, option), _ => launch n asScript program program (option ++ path :: arguments)
      | none, some name =>
        let run : Executor := Execution.command (launch n true) depth
        let ending ← within called <|
          if shells.contains name then
            shell run (if name == "bash" then .extended else .plain) called arguments
          else tool (launch n true) called ((Tool.all.lookup name).getD fun _ _ => return 127) arguments
        return .ok ending
      | none, none =>
        if asScript then launch n asScript "/bin/sh" "/bin/sh" (path :: arguments)
        else return .error .unknownFormat

/-- How deep programs are nested at most. -/
def programDepth : Nat := 100

end Program

/-- Runs a program on files, in an environment: what it prints and how it ends, or why it cannot be
run, and the files after it. -/
def runProgram (t : FileTree) (environment : List (String × String)) (called : String)
    (arguments : List String) : Except FileFault Finished × FileTree :=
  let start := Process.ofFiles t environment
  let step : Run (Except FileFault Ending) := do
    match if called.isEmpty then .error .notFound else start.program called with
    | .ok path => Program.launch Program.programDepth false path called arguments
    | .error fault => return .error fault
  let (result, p) := step.run.run start
  match result with
  | .ok (.ok ending) =>
    (.ok ⟨octetsOfText (p.channels.stream 1).written, octetsOfText (p.channels.stream 2).written,
        ending⟩,
      { p.channels.tree with home := t.home })
  | .ok (.error fault) => (.error fault, t)
  | .error _ => (.error (.other "interrupted"), t)

end SysReg.Shell
