import SysReg.Shell.Builtin.Table
import SysReg.Shell.Tool.Basic

/-!
# Tools that run programs

A program is run with other arguments, in another environment or for a limited time.
-/

namespace SysReg.Shell.Tool

/-- Runs a program in the place of the tool: the status. What cannot be run is reported. -/
def instead (c : ToolCall) (message : String → String) : List String → Run Nat
  | [] => return 0
  | name :: arguments => do
    match ← c.launch name arguments with
    | .ok (.exited status) => return status
    | .ok (.killed signal) =>
      throw (.killed (← get).number signal)
    | .error fault =>
      let isMissing := fault == .notFound || fault == .notADirectory
      c.fail (if isMissing then 127 else 126) (message name ++ ": " ++ fault.reason)

/-! ## The environment -/

/-- The parts of a text between blanks, which may stand in quotes. -/
def wordsOf (text : List Char) : List String :=
  (go text.length none none text).map String.ofList
where
  /-- The words of a text, given the word that is begun and the quote that is open. The number is at
  least that of the characters. -/
  go : Nat → Option (List Char) → Option Char → List Char → List (List Char)
    | 0, word, _, _ | _, word, _, [] => (word.map List.reverse).toList
    | n + 1, word, open?, c :: cs =>
      let onward (c : Char) (rest : List Char) : List (List Char) :=
        go n (some (c :: word.getD [])) open? rest
      match open? with
      | some quote =>
        if c == quote then go n (some (word.getD [])) none cs
        else if c == '\\' && quote == '\x22' then
          match cs with
          | d :: rest => onward d rest
          | [] => onward c cs
        else onward c cs
      | none =>
        if c == '\x27' || c == '\x22' then go n (some (word.getD [])) (some c) cs
        else if c == ' ' || ('\t' ≤ c && c ≤ '\x0d') then
          (word.map List.reverse).toList ++ go n none none cs
        else if c == '\\' then
          match cs with
          | d :: rest => onward d rest
          | [] => onward c cs
        else onward c cs

/-- The arguments, where a text that is to be split is split. -/
def splitOut : List String → List String
  | "-S" :: text :: rest => wordsOf text.toList ++ rest
  | argument :: rest =>
    if argument.startsWith "-S" then wordsOf (argument.drop 2).toString.toList ++ rest
    else if argument.startsWith "--split-string=" then
      wordsOf (argument.drop 15).toString.toList ++ rest
    else if argument.startsWith "-vS" then wordsOf (argument.drop 3).toString.toList ++ rest
    else if argument.startsWith "-" then argument :: splitOut rest
    else argument :: rest
  | [] => []

/-- Sets what is exported. -/
def exportVariable (name value : String) : Run Unit :=
  modify fun p => p.putVariable name (some (.given value))

/-- Runs a program in another environment. -/
def env : Tool := fun c arguments =>
  withOptions [plain 'i' "ignore-environment", plain '0' "null", valued 'u' "unset", valued 'C' "chdir",
      plain 'v' "debug", ⟨'\x03', "block-signal", .optional⟩, ⟨'\x04', "default-signal", .optional⟩,
      ⟨'\x05', "ignore-signal", .optional⟩] 125 (fun c a => do
    let isDash := a.operands.head? == some "-"
    let operands := if isDash then a.operands.drop 1 else a.operands
    if a.has 'i' || isDash then modify fun p => { p with scope := [] }
    (a.values 'u').forM fun name => modify fun p => p.putVariable name none
    let settings := operands.takeWhile (·.contains '=')
    settings.forM fun setting =>
      let name := String.ofList (setting.toList.takeWhile (· != '='))
      exportVariable name (setting.drop (name.length + 1)).toString
    match operands.drop settings.length with
    | [] =>
      (← get).environment.forM fun (name, value) =>
        Run.print (name ++ "=" ++ value ++ (if a.has '0' then "\x00" else "\n"))
      return 0
    | command =>
      match a.value? 'C' with
      | some path =>
        let t ← Run.tree
        match t.locate true path with
        | .ok (place, node) =>
          if !node.isDirectory then
            return ← c.fail 125 ("cannot change directory to " ++ quoted path ++ ": Not a directory")
          Run.setTree { t with home := place }
        | .error fault =>
          return ← c.fail 125 ("cannot change directory to " ++ quoted path ++ ": " ++ fault.reason)
      | none => pure ()
      instead c quoted command) true c (splitOut arguments)

/-- Prints the values of variables that are exported. -/
def printenv : Tool := withOptions [plain '0' "null"] 2 (fun _ a => do
  let environment := (← get).environment
  let ending := if a.has '0' then "\x00" else "\n"
  if a.operands.isEmpty then
    environment.forM fun (name, value) => Run.print (name ++ "=" ++ value ++ ending)
    return 0
  else
    let found ← a.operands.mapM fun name => do
      match environment.lookup name with
      | some value =>
        Run.print (value ++ ending)
        return true
      | none => return false
    return statusIf (found.all (· == true))) false

/-- Prints where programs are. -/
def which : Tool := fun c arguments => do
  let names := arguments.filter fun text => text != "-a"
  match names.find? fun text => text.startsWith "-" with
  | some text =>
    Run.complain ("Illegal option " ++ text ++ "\nUsage: /usr/bin/which [-a] args\n")
    return 2
  | none =>
    let _ := c
    let found ← names.mapM fun name => do
      match (← get).program name with
      | .ok path =>
        match (← Run.tree).find path with
        | .ok (.file _ true) =>
          Run.print (path ++ "\n")
          return true
        | _ => return false
      | .error _ => return false
    return statusIf (!names.isEmpty && found.all (· == true))

/-! ## Time and rank -/

/-- The milliseconds that a text names. -/
def duration? (text : String) : Option Nat :=
  match Real.ofText? text.toList with
  | some (.fraction false n d, rest) =>
    (match rest with
      | [] | ['s'] => some 1000
      | ['m'] => some 60000
      | ['h'] => some 3600000
      | ['d'] => some 86400000
      | _ => none).map fun unit => (n * unit + d - 1) / d
  | some (.infinite false, []) => some 1000000000000
  | _ => none

/-- Waits. -/
def sleep : Tool := withOptions [] 1 (fun c a => do
  if a.operands.isEmpty then return ← c.misuse 1 "missing operand"
  match a.operands.filter fun text => (duration? text).isNone with
  | [] =>
    modify fun p => { p with clock := p.clock + (a.operands.filterMap duration?).foldl (· + ·) 0 }
    return 0
  | text :: others =>
    (text :: others).forM fun text => c.report ("invalid time interval " ++ quoted text)
    c.hint
    return 1) false

/-- Runs a program for a limited time. -/
def timeout : Tool := withOptions
  [valued 'k' "kill-after", plain 'f' "foreground", plain 'p' "preserve-status", valued 's' "signal",
    plain 'v' "verbose"] 125 (fun c a => do
  match a.operands with
  | [] | [_] =>
    c.hint
    return 125
  | limit :: command =>
    match duration? limit with
    | none => c.misuse 125 ("invalid time interval " ++ quoted limit)
    | some limit =>
      let start := (← get).clock
      let status ← instead c (fun name => "failed to run command " ++ quoted name) command
      if limit != 0 && start + limit < (← get).clock then
        modify fun p => { p with clock := start + limit }
        let signal := ((a.value? 's').bind Signal.ofName?).getD 15
        if signal == 9 then throw (.killed (← get).number 9)
        return if a.has 'p' then 128 + signal else 124
      else return status) true

/-- Runs a program that is not ended when the terminal is closed. -/
def nohup : Tool := withOptions [] 125 (fun c a =>
  if a.operands.isEmpty then c.misuse 125 "missing operand"
  else instead c (fun name => "failed to run command " ++ quoted name) a.operands) true

/-- Runs a program with another rank. -/
def nice : Tool := withOptions [valued 'n' "adjustment"] 125 (fun c a =>
  if a.operands.isEmpty then do
    Run.print "0\n"
    return 0
  else instead c quoted a.operands) true

/-- Runs a program in a session of its own. -/
def setsid : Tool := withOptions [plain 'c' "ctty", plain 'f' "fork", plain 'w' "wait"] 1 (fun c a =>
  if a.operands.isEmpty then c.misuse 1 "no command specified"
  else instead c (fun name => "failed to execute " ++ name) a.operands) true

/-- Runs a program whose output waits longer or not so long. -/
def stdbuf : Tool := withOptions [valued 'i' "input", valued 'o' "output", valued 'e' "error"] 125
  (fun c a =>
    if a.operands.isEmpty then c.misuse 125 "missing operand"
    else if a.options.isEmpty then c.misuse 125 "you must specify a buffering mode option"
    else instead c (fun name => "failed to run command " ++ quoted name) a.operands) true

/-! ## Arguments from the input -/

/-- The words of each line, given the word that is begun and the quote that is open. The number is at
least that of the characters. -/
def lineWords : Nat → Option (List Char) → Option Char → List Char → List (List (List Char)) × Option Char
  | 0, word, quote, _ | _, word, quote, [] =>
    (if quote.isSome then [[]] else [(word.map List.reverse).toList], quote)
  | n + 1, word, quote, c :: cs =>
    let onward (word : Option (List Char)) (quote : Option Char) (rest : List Char) :
        List (List (List Char)) × Option Char := lineWords n word quote rest
    let add (finished : List Char) (found : List (List (List Char)) × Option Char) :
        List (List (List Char)) × Option Char :=
      match found.1 with
      | line :: lines => ((finished :: line) :: lines, found.2)
      | [] => ([[finished]], found.2)
    match quote with
    | some q =>
      if c == q then onward (some (word.getD [])) none cs
      else if c == '\n' then ([[]], some q)
      else onward (some (c :: word.getD [])) quote cs
    | none =>
      if c == '\x27' || c == '\x22' then onward (some (word.getD [])) (some c) cs
      else if c == '\n' then
        let (lines, quote) := onward none none cs
        ((word.map List.reverse).toList :: lines, quote)
      else if c == ' ' || c == '\t' then
        match word with
        | some word => add word.reverse (onward none none cs)
        | none => onward none none cs
      else if c == '\\' then
        match cs with
        | d :: rest => onward (some (d :: word.getD [])) none rest
        | [] => onward word none []
      else onward (some (c :: word.getD [])) none cs

/-- The text with another put in the place of a mark. The number is greater than that of the
characters. -/
def replacing (mark new : List Char) : Nat → List Char → List Char
  | 0, cs => cs
  | _, [] => []
  | n + 1, c :: cs =>
    match Text.dropPrefix? mark (c :: cs) with
    | some rest => new ++ replacing mark new n rest
    | none => c :: replacing mark new n cs

/-- Pieces of so many elements. The first number is at least that of the elements. -/
def piecesOf {α : Type} (size : Nat) : Nat → List α → List (List α)
  | 0, _ | _, [] => []
  | n + 1, xs => xs.take (max size 1) :: piecesOf size n (xs.drop (max size 1))

/-- Runs commands one after the other, as long as none is to stop that: the status. -/
def runAll (c : ToolCall) (shows : Bool) : Nat → List (List String) → Run Nat
  | status, [] => return status
  | status, command :: commands => do
    if shows then Run.complain (" ".intercalate command ++ "\n")
    let before ← get
    let (channels, number) := before.channels.add (.incoming [])
    set { before with channels := channels.assign 0 number }
    let result ← Run.andFinally (c.launch (command.headD "echo") (command.drop 1)) <| modify fun p =>
      { p with
        channels := match before.channels.streamOf? 0 with
          | some stdin => p.channels.assign 0 stdin
          | none => p.channels.close 0 }
    match result with
    | .error fault =>
      c.fail (if fault == .notFound || fault == .notADirectory then 127 else 126)
        (command.headD "" ++ ": " ++ fault.reason)
    | .ok (.killed signal) =>
      c.fail 125 (command.headD "" ++ ": terminated by signal " ++ Numeral.decimal signal)
    | .ok (.exited 255) =>
      c.fail 124 (command.headD "" ++ ": exited with status 255; aborting")
    | .ok (.exited 0) => runAll c shows status commands
    | .ok (.exited _) => runAll c shows 123 commands

/-- The commands for the words of each line. -/
def commandsFor (a : Arguments) (command : List String) (mark : Option String)
    (lines : List (List (List Char))) : List (List String) :=
  let number (letter : Char) : Option Nat := (a.value? letter).bind String.toNat?
  match mark with
  | some mark =>
    (lines.filter (!·.isEmpty)).map fun line =>
      let text := (line.head?.getD []).dropWhile fun c => c == ' ' || c == '\t'
      command.map fun word =>
        String.ofList (replacing mark.toList text (word.length + 1) word.toList)
  | none =>
    match number 'L' with
    | some count =>
      let used := lines.filter (!·.isEmpty)
      (piecesOf count used.length used).map fun lines =>
        command ++ (lines.flatten.map String.ofList)
    | none =>
      let words := lines.flatten.map String.ofList
      if words.isEmpty then if a.has 'r' then [] else [command]
      else (piecesOf ((number 'n').getD words.length) words.length words).map (command ++ ·)

/-- Runs a program with words of the input as arguments. -/
def xargs : Tool := withOptions
  [plain '0' "null", valued 'a' "arg-file", valued 'd' "delimiter", valued 'E' "", valued 'I' "",
    ⟨'i', "replace", .optional⟩, valued 'L' "max-lines", valued 'n' "max-args", valued 'P' "max-procs",
    plain 'o' "open-tty", plain 'p' "interactive", plain 'r' "no-run-if-empty", valued 's' "max-chars",
    plain 't' "verbose", plain 'x' "exit"] 1 (fun c a => do
  match ['n', 'L', 'P', 's'].find? fun letter => (a.value? letter).any fun text => text.toNat?.isNone with
  | some letter =>
    c.misuse 1 ("invalid number \x22" ++ (a.value? letter).getD "" ++ "\x22 for -" ++ letter.toString ++
      " option")
  | none =>
    match ← readFile ((a.value? 'a').getD "-") with
    | .error fault =>
      c.fail 1 ("Cannot open input file " ++ quoted ((a.value? 'a').getD "-") ++ ": " ++ fault.reason)
    | .ok text =>
      let mark := (a.value? 'I').or ((a.value? 'i').map fun text => if text.isEmpty then "\x7b\x7d" else text)
      let separator := if a.has '0' then some '\x00'
        else (a.value? 'd').map fun text =>
          match text.toList with
          | '\\' :: c :: _ => if c == 'n' then '\n' else if c == 't' then '\t' else if c == '0' then '\x00' else c
          | c :: _ => c
          | [] => '\x00'
      let command := if a.operands.isEmpty then ["echo"] else a.operands
      let (lines, quote) : List (List (List Char)) × Option Char :=
        match separator with
        | some separator => ((linesBy separator text).1.map ([·]), none)
        | none =>
          if mark.isSome then
            -- Only the ends of lines separate words.
            let marked := (linesOf text).1.map fun line => lineWords line.length none none
              (line.flatMap fun c => if c == ' ' || c == '\t' then ['\\', c] else [c])
            (marked.flatMap fun (lines, _) => lines.map fun line =>
                if line.all fun word => word.all fun c => c == ' ' || c == '\t' then [] else line,
              marked.findSome? (·.2))
          else lineWords text.length none none text
      let status ← if quote.isSome && lines.flatten.isEmpty then pure 1
        else runAll c (a.has 't') 0 (commandsFor a command mark lines)
      match quote with
      | some q =>
        c.fail 1 ("unmatched " ++ (if q == '\x27' then "single" else "double") ++
          " quote; by default quotes are special to xargs unless you use the -0 option")
      | none => return status) true

end SysReg.Shell.Tool
