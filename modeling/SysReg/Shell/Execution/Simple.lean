import SysReg.Shell.Execution.Redirecting
import SysReg.Shell.Execution.Steering

/-!
# Simple commands

A simple command sets variables, or carries out what its words name. The variables that it sets are its own
if it has words.
-/

namespace SysReg.Shell.Execution

-- What carries out the commands that a command holds, and what runs programs.
variable (run : Executor) (launch : Launcher)

/-! ## Words -/

/-- The elements that a list is to have, some of them with the texts of their keys. -/
def elementsOf (found : List (Option Word × Word)) : Run (List (Option String × String)) := do
  let parts ← found.mapM fun (key, value) => do
    match key with
    | none => return (← Expansion.fields (makers run) value).map (none, ·)
    | some key =>
      let key ← Expansion.text (makers run) .never key
      return [(some key, ← Expansion.text (makers run) .atStart value)]
  return parts.flatten

/-- The fields of a word behind the name of a command that declares. One that sets a variable is not split, and
the elements of a list are kept for the command. -/
def declaredFields (word : Word) : Run (List String) := do
  match Word.setting? (← get).dialect word with
  | none => Expansion.fields (makers run) word
  | some (.mk name none isAdded [.elements found]) =>
    let elements ← elementsOf run found
    modify fun p => { p with lists := (name, isAdded, elements) :: p.lists }
    return [name]
  | some _ => return [← Expansion.text (makers run) .inPath word]

/-- The words of a command in use. -/
def commandFields : List Word → Run (List String)
  | [] => return []
  | word :: words => do
    match ← Expansion.fields (makers run) word with
    | [] => commandFields words
    | name :: others =>
      let p ← get
      let declares := Builtin.declaringNames.contains name && !p.functions.any (·.1 == name) &&
        Builtin.isBuiltin p.dialect name
      set { p with lists := [] }
      let rest ← words.mapM fun word =>
        if declares then declaredFields run word else Expansion.fields (makers run) word
      return name :: others ++ rest.flatten

/-- The words of a command without those in front that only say that no function is meant, and whether
there were some. The number is greater than that of the words. -/
def withoutCommand (d : Dialect) : Nat → List String → List String × Bool
  | 0, words => (words, false)
  | n + 1, words =>
    match words with
    | "command" :: rest =>
      let options := rest.takeWhile fun text =>
        text.startsWith "-" && 1 < text.length && (text.drop 1).all (· == 'p')
      match rest.drop options.length with
      | "--" :: name :: others => ((withoutCommand d n (name :: others)).1, true)
      | name :: others =>
        if name.startsWith "-" && name != "-" then (words, false)
        else ((withoutCommand d n (name :: others)).1, true)
      | [] => (words, false)
    | "builtin" :: name :: others =>
      if d == .extended && Builtin.isBuiltin d name then ((withoutCommand d n (name :: others)).1, true)
      else (words, false)
    | _ => (words, false)

/-! ## Showing commands -/

/-- Shows something before it is carried out, on a stream. -/
def trace (stream : Option Nat) (text : String) : Run Unit := do
  let p ← get
  if p.has 'x' then
    let lead := (p.value? "PS4").getD "+ "
    let depth := match p.dialect with
      | .plain => 0
      | .extended => p.indirection
    let lead := String.ofList ((List.replicate depth lead.front).filter fun _ => !lead.isEmpty) ++ lead
    match stream.bind fun number => (p.channels.writeTo number (lead ++ text ++ "\n")).toOption with
    | some channels => set { p with channels }
    | none => return

/-- A word as it is shown. -/
def shownWord (d : Dialect) (text : String) : String :=
  match d with
  | .plain => text
  | .extended => Builtin.inQuotesIfNeeded text

/-- A setting as it is shown, with what was set. -/
def shownSetting (s : Setting) (value : String) : String :=
  match s with
  | .mk name _ isAdded _ =>
    name ++ (if isAdded then "+=" else "=") ++ (if value.isEmpty then "" else Builtin.inQuotesIfNeeded value)

/-- Shows a command before it is carried out. The simpler kind of shell shows the variables that it sets in
the same line. -/
def traceCommand (stream : Option Nat) (settings : List (String × String)) (words : List String) :
    Run Unit := do
  match (← get).dialect with
  | .plain =>
    trace stream (" ".intercalate (settings.map (fun (name, value) => name ++ "=" ++ value) ++ words))
  | .extended =>
    if !words.isEmpty then trace stream (" ".intercalate (words.map (shownWord .extended)))

/-! ## Settings -/

/-- Sets a variable of a command: its name and its value. -/
def setOne (stream : Option Nat) (s : Setting) : Run (String × String) := do
  match s with
  | .mk name none isAdded [.elements found] =>
    let elements ← elementsOf run found
    Run.assignList name isAdded elements
    return (name, "")
  | .mk name key isAdded word =>
    let key ← key.mapM (Expansion.text (makers run) .never)
    let value ← Expansion.text (makers run) .inPath word
    if (← get).dialect == .extended then
      trace stream (shownSetting s value)
      Run.assign name key isAdded value
    else Run.setVariable name value
    return (name, value)

/-- Sets the variables of a command, which are given back their values afterwards if the command has
them for itself. What cannot be set does not keep one kind of shell from the command. -/
def settle (stream : Option Nat) (isOwn isExported : Bool) (settings : List Setting) :
    Run (List (String × String)) := do
  let found ← settings.mapM fun s => do
    let .mk name _ _ _ := s
    if isOwn then Run.keepVariable name
    let step : Run (List (String × String)) := do
      let made ← setOne run stream s
      if isOwn || isExported then Run.markVariable name fun v => { v with isExported := true }
      return [made]
    if isOwn && (← get).dialect == .extended then
      tryCatch step fun i => if i == .failed then return [] else throw i
    else step
  return found.flatten

/-! ## Simple commands -/

/-- Carries out what the words of a command name. -/
def invoke (asked isSpecial viaCommand : Bool) (words : List String) : Run Unit := do
  let p ← get
  match words with
  | [] => Run.finish p.latest
  | name :: arguments =>
    match if viaCommand then none else p.functions.lookup name with
    | some body => call run asked name body arguments
    | none =>
      if Builtin.isBuiltin p.dialect name then builtin run launch asked isSpecial name arguments
      else program launch name arguments

/-- Keeps what one kind of shell knows of the last command: its status and its last word. -/
def keepLatest (fields : List String) : Run Unit :=
  modify fun p =>
    match p.dialect with
    | .plain => p
    | .extended =>
      let last := fields.getLast?.getD ""
      { p.putVariable "_" (some (.ofText last)) with statuses := [p.status] }

/-- Carries a simple command out. -/
def simple (asked : Bool) (settings : List Setting) (words : List Word)
    (redirections : List Redirection) : Run Unit := do
  modify fun p => { p with latest := 0 }
  let fields ← commandFields run words
  let p ← get
  let isFunction (name : String) : Bool := p.functions.any (·.1 == name)
  let (found, viaCommand) := if isFunction "command" then (fields, false)
    else withoutCommand p.dialect (fields.length + 1) fields
  let isSpecial := !viaCommand &&
    (found.head?.any fun name => specialCommands.contains name && !isFunction name) &&
    p.dialect == .plain
  let isExec := found.head? == some "exec" && !isFunction "exec"
  let isOwn := !found.isEmpty && !isSpecial && (p.dialect == .plain || !settings.isEmpty)
  let aims ← allTargets run redirections
  let body : Run Unit := do
    let errors := p.channels.streamOf? 2
    let isMade ← redirected aims isExec do
      let made ← settle run errors isOwn (isExec && 1 < found.length) settings
      traceCommand errors made fields
      invoke run launch asked isSpecial viaCommand found
    if !isMade then
      Run.finish (if p.dialect == .plain then 2 else 1)
      if isSpecial then throw .failed
  if isOwn then Run.framed body else body
  keepLatest fields

end SysReg.Shell.Execution
