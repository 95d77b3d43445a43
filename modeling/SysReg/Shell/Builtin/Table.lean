import SysReg.Shell.Builtin.Input
import SysReg.Shell.Builtin.Output
import SysReg.Shell.Builtin.Signals
import SysReg.Shell.Builtin.Surroundings
import SysReg.Shell.Builtin.Variables
import SysReg.Shell.Grammar

/-!
# The commands of the shell by name

What a name of a command means: a function, a command of the shell, or a program that is looked for in
some directories.
-/

namespace SysReg.Shell

namespace Builtin

/-- The commands that need nothing but their arguments. -/
def simple : List (String × Builtin) :=
  [(":", succeeding fun _ => return), ("true", succeeding fun _ => return), ("false", fun _ => return 1),
    ("echo", echo), ("printf", printf), ("test", test false), ("[", test true),
    ("export", exportVariables), ("readonly", readonlyVariables), ("local", localVariables),
    ("unset", unset), ("set", setCommand), ("shift", shift), ("getopts", getopts),
    ("alias", aliasNames), ("unalias", unaliasNames), ("read", read), ("pwd", pwd), ("cd", cd),
    ("chdir", cd), ("umask", umask), ("ulimit", ulimit), ("times", times), ("trap", trap),
    ("kill", kill), ("wait", wait), ("jobs", succeeding fun _ => return), ("fg", noJob), ("bg", noJob)]

/-- The commands that carry others out, leave a part of the script, or look at names. -/
def steering : List String :=
  [".", "break", "command", "continue", "eval", "exec", "exit", "hash", "return", "type"]

/-- The names of switches in one kind of shell. -/
def switchNames : List String :=
  ["autocd", "assoc_expand_once", "cdable_vars", "cdspell", "checkhash", "checkjobs", "checkwinsize", "cmdhist",
    "compat31", "compat32", "compat40", "compat41", "compat42", "compat43", "compat44", "complete_fullquote",
    "direxpand", "dirspell", "dotglob", "execfail", "expand_aliases", "extdebug", "extglob", "extquote", "failglob",
    "force_fignore", "globasciiranges", "globskipdots", "globstar", "gnu_errfmt", "histappend", "histreedit",
    "histverify", "hostcomplete", "huponexit", "inherit_errexit", "interactive_comments", "lastpipe", "lithist",
    "localvar_inherit", "localvar_unset", "login_shell", "mailwarn", "no_empty_cmd_completion", "nocaseglob",
    "nocasematch", "noexpand_translation", "nullglob", "patsub_replacement", "progcomp", "progcomp_alias",
    "promptvars", "restricted_shell", "shift_verbose", "sourcepath", "varredir_close", "xpg_echo"]

/-- The switches that are set from the start. -/
def firstSwitches : List String :=
  ["checkwinsize", "cmdhist", "complete_fullquote", "extquote", "force_fignore", "globasciiranges", "globskipdots",
    "hostcomplete", "interactive_comments", "patsub_replacement", "progcomp", "promptvars", "sourcepath"]

/-- Sets switches, takes them back, or shows them. -/
def shopt : Builtin := fun arguments => do
  let (options, names) ← letters "pqsuo" arguments
  let isLong := options.contains 'o'
  let known : List String := if isLong then optionNamesExtended.map (·.1) else switchNames
  let isSet (p : Process) (name : String) : Bool := if isLong then isOn p name else p.switches.contains name
  let entry (p : Process) (name : String) : String :=
    if options.contains 'p' then
      (if isLong then "set " ++ (if isSet p name then "-o " else "+o ")
        else "shopt " ++ (if isSet p name then "-s " else "-u ")) ++ name ++ "\n"
    else String.ofList (name.toList.rightpad 15 ' ') ++ "\t" ++ (if isSet p name then "on" else "off") ++ "\n"
  let changes := options.contains 's' || options.contains 'u'
  if names.isEmpty then
    let p ← get
    let found := if options.contains 's' then known.filter (isSet p)
      else if options.contains 'u' then known.filter fun name => !isSet p name else known
    Run.print (String.join (found.map (entry p)))
    return 0
  else
    names.foldlM
      (fun status name => do
        if !known.contains name then
          Run.report (.stated (name ++ (if isLong then ": invalid option name" else ": invalid shell option name")))
          return 1
        if changes then
          if isLong then setNamedOption (options.contains 's') (some name)
          else setSwitch (options.contains 's') name
          return status
        else
          let p ← get
          if !options.contains 'q' then Run.print (entry p name)
          return if isSet p name then status else 1)
      0

/-- Shows from where the function at work was called. -/
def caller : Builtin := fun arguments => do
  let p ← get
  let depth := match arguments with
    | [] => some 0
    | text :: _ => text.toNat?
  match depth with
  | none => refuse (.stated ((arguments.headD "") ++ ": invalid number"))
  | some depth =>
    match p.calls[depth]? with
    | none => return 1
    | some call =>
      let above := ((p.calls[depth + 1]?).map (·.name)).getD "main"
      let line := Numeral.decimal call.line
      Run.print (line ++ " " ++ (if arguments.isEmpty then "" else above ++ " ") ++ call.file ++ "\n")
      return 0

/-- The commands that only one kind of shell has, or that do more there. -/
def extended : List (String × Builtin) :=
  [("declare", declaring "aAfFgiIlnprtuxc" [] false), ("typeset", declaring "aAfFgiIlnprtuxc" [] false),
    ("local", declaring "aAfFgiIlnprtuxc" [] true), ("export", declaring "fnp" ['x'] false),
    ("readonly", declaring "aAfp" ['r'] false), ("unset", unsetExtended), ("shopt", shopt), ("let", letValues),
    ("mapfile", mapfile), ("readarray", mapfile), ("caller", caller), ("dirs", dirs), ("pushd", pushd),
    ("popd", popd), ("disown", succeeding fun _ => return), ("enable", succeeding fun _ => return),
    ("help", succeeding fun _ => return), ("history", succeeding fun _ => return),
    ("suspend", fun _ => Run.fail (.stated "cannot suspend: no job control")),
    ("logout", fun _ => Run.fail (.stated "not login shell: use \x60exit'"))]

/-- The command of a name that needs nothing but its arguments. -/
def simple? (d : Dialect) (name : String) : Option Builtin :=
  match d with
  | .plain => simple.lookup name
  | .extended => (extended.lookup name).or (if name == "chdir" then none else simple.lookup name)

/-- The name is that of a command of the shell. -/
def isBuiltin (d : Dialect) (name : String) : Bool :=
  (simple? d name).isSome || steering.contains name ||
    (d == .extended && (name == "source" || name == "builtin"))

/-- The commands whose arguments may set variables and are then not split. -/
def declaringNames : List String :=
  ["alias", "export", "local", "readonly", "declare", "typeset", "command"]

end Builtin

namespace Process

/-- The program of a name in some directories, between which colons stand. -/
def programIn (p : Process) (directories name : String) : Except FileFault String :=
  let t := p.channels.tree
  let places := (directories.splitOn ":").map fun dir => if dir.isEmpty then name else dir ++ "/" ++ name
  let isProgram (path : String) : Bool := ((t.find path).toOption).any fun node => match node with
    | .file _ runnable => runnable
    | _ => false
  match places.find? isProgram with
  | some path => .ok path
  | none =>
    .error (if places.any fun path => (t.find path).isOk then .permissionDenied else .notFound)

/-- The program that a name means: the name itself, if it has a slash. -/
def program (p : Process) (name : String) : Except FileFault String :=
  if name.contains '/' then .ok name
  else if name.isEmpty && p.dialect == .extended then .error .notFound
  else p.programIn ((p.value? "PATH").getD ((defaults.lookup "PATH").getD "")) name

/-- Remembers where a program was found. -/
def remember (p : Process) (name path : String) : Process :=
  if name.contains '/' || p.found.any (·.1 == name) then p
  else { p with found := (name, path) :: p.found }

/-! ## What names mean -/

/-- What a name means, in a word or in a sentence. -/
def meaning? (p : Process) (inWords : Bool) (name : String) : Option String :=
  let say (short long : String) : Option String := some ((if inWords then name ++ long else short) ++ "\n")
  let aliases := if p.dialect == .plain || p.switches.contains "expand_aliases" then p.aliases else []
  match aliases.lookup name, p.program name with
  | some text, _ =>
    say ("alias " ++ name ++ "=" ++ Builtin.inQuotes text)
      (if p.dialect == .plain then " is an alias for " ++ text else " is aliased to \x60" ++ text ++ "'")
  | none, found =>
    if (Token.keywords p.dialect).contains name then say name " is a shell keyword"
    else if p.functions.any (·.1 == name) then
      say name (if p.dialect == .plain then " is a shell function" else " is a function")
    else if Builtin.isBuiltin p.dialect name then
      say name (if specialCommands.contains name && p.dialect == .plain
        then " is a special shell builtin" else " is a shell builtin")
    else
      match found with
      | .error _ => none
      | .ok path =>
        if (p.channels.tree.find path).isOk then
          say path ((if p.found.any (·.1 == name) then
            if p.dialect == .plain then " is a tracked alias for " else " is hashed " else " is ") ++
            if p.dialect == .extended && p.found.any (·.1 == name) then "(" ++ path ++ ")" else path)
        else none

end Process

namespace Builtin

/-- Says what names mean; all of them are looked at, and one without a meaning leaves a failure. -/
def describe (inWords : Bool) (names : List String) : Run Nat :=
  names.foldlM
    (fun status name => do
      let p ← get
      match p.meaning? inWords name with
      | some text =>
        Run.print text
        return status
      | none =>
        if inWords then
          match p.dialect with
          | .plain => Run.print (name ++ ": not found\n")
          | .extended => Run.report (.stated (name ++ ": not found"))
        return if p.dialect == .plain then 127 else 1)
    0

/-- The kind of what a name means, in one word. -/
def kindOf? (p : Process) (name : String) : Option String :=
  if p.switches.contains "expand_aliases" && (p.aliases.lookup name).isSome then some "alias"
  else if (Token.keywords p.dialect).contains name then some "keyword"
  else if p.functions.any (·.1 == name) then some "function"
  else if isBuiltin p.dialect name then some "builtin"
  else
    match p.program name with
    | .ok path => if (p.channels.tree.find path).isOk then some "file" else none
    | .error _ => none

/-- Says what names mean, in one kind of shell. -/
def describeMore (arguments : List String) : Run Nat := do
  let (options, names) ← letters "afptP" arguments
  names.foldlM
    (fun status name => do
      let p ← get
      let path? := (p.program name).toOption.filter fun path => (p.channels.tree.find path).isOk
      if options.contains 't' then
        match kindOf? p name with
        | some kind =>
          Run.print (kind ++ "\n")
          return status
        | none => return 1
      else if options.contains 'P' || options.contains 'p' then
        match path? with
        | some path =>
          if options.contains 'P' || kindOf? p name == some "file" then Run.print (path ++ "\n")
          return status
        | none => return if options.contains 'p' && (kindOf? p name).isSome then status else 1
      else
        match p.meaning? true name with
        | some text =>
          Run.print text
          if options.contains 'a' && kindOf? p name != some "file" then
            (["/usr/bin/", "/bin/"].map (· ++ name)).forM fun path => do
              if (p.channels.tree.find path).isOk then Run.print (name ++ " is " ++ path ++ "\n")
          return status
        | none =>
          Run.report (.stated (name ++ ": not found"))
          return 1)
    0

/-- Shows or finds programs that are remembered. -/
def hash : Builtin := fun arguments => do
  let (options, names) ← lettersIn "rv" "lrdt" arguments
  if options.contains 'r' then modify fun p => { p with found := [] }
  if names.isEmpty && !options.contains 'r' then
    let p ← get
    Run.print (match p.dialect, p.found with
      | .plain, found => String.join (found.reverse.map fun (_, path) => path ++ "\n")
      | .extended, [] => "hash: hash table empty\n"
      | .extended, found =>
        "hits\tcommand\n" ++ String.join (found.reverse.map fun (_, path) => "   1\t" ++ path ++ "\n"))
  names.foldlM
    (fun status name => do
      let p ← get
      if isBuiltin p.dialect name || p.functions.any (·.1 == name) then return status
      match p.program name with
      | .ok path =>
        set (p.remember name path)
        return status
      | .error _ =>
        Run.report (if p.dialect == .plain then .unknownCommand name else .stated (name ++ ": not found"))
        return 1)
    0

end Builtin
end SysReg.Shell
