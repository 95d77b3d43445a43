import SysReg.Shell.Process

/-!
# Commands of the shell

Some commands are the shell's own, because they change what it has set. Such a command is given its
arguments and leaves a status.
-/

namespace SysReg.Shell

/-- A command of the shell, given its arguments. -/
abbrev Builtin : Type := List String → Run Nat

namespace Builtin

/-- A command whose work leaves the status of a success. -/
def succeeding (body : List String → Run Unit) : Builtin := fun arguments => do
  body arguments
  return 0

/-! ## How commands are used -/

/-- What stands behind the names of the commands of one kind of shell. -/
def usages : List (String × String) :=
  [(".", "filename [arguments]"), (":", ""), ("[", "arg... ]"), ("alias", "[-p] [name[=value] ... ]"),
    ("bg", "[job_spec ...]"), ("break", "[n]"), ("builtin", "[shell-builtin [arg ...]]"), ("caller", "[expr]"),
    ("cd", "[-L|[-P [-e]] [-@]] [dir]"), ("command", "[-pVv] command [arg ...]"), ("continue", "[n]"),
    ("declare", "[-aAfFgiIlnrtux] [name[=value] ...] or declare -p [-aAfFilnrtux] [name ...]"),
    ("dirs", "[-clpv] [+N] [-N]"), ("disown", "[-h] [-ar] [jobspec ... | pid ...]"),
    ("echo", "[-neE] [arg ...]"), ("enable", "[-a] [-dnps] [-f filename] [name ...]"), ("eval", "[arg ...]"),
    ("exec", "[-cl] [-a name] [command [argument ...]] [redirection ...]"), ("exit", "[n]"),
    ("export", "[-fn] [name[=value] ...] or export -p"), ("false", ""), ("fg", "[job_spec]"),
    ("getopts", "optstring name [arg ...]"), ("hash", "[-lr] [-p pathname] [-dt] [name ...]"),
    ("help", "[-dms] [pattern ...]"),
    ("history", "[-c] [-d offset] [n] or history -anrw [filename] or history -ps arg [arg...]"),
    ("jobs", "[-lnprs] [jobspec ...] or jobs -x command [args]"),
    ("kill", "[-s sigspec | -n signum | -sigspec] pid | jobspec ... or kill -l [sigspec]"),
    ("let", "arg [arg ...]"), ("local", "[option] name[=value] ..."),
    ("mapfile", "[-d delim] [-n count] [-O origin] [-s count] [-t] [-u fd] [-C callback] [-c quantum] [array]"),
    ("popd", "[-n] [+N | -N]"), ("printf", "[-v var] format [arguments]"), ("pushd", "[-n] [+N | -N | dir]"),
    ("pwd", "[-LP]"),
    ("read", "[-ers] [-a array] [-d delim] [-i text] [-n nchars] [-N nchars] [-p prompt] [-t timeout] [-u fd] [name ...]"),
    ("readarray", "[-d delim] [-n count] [-O origin] [-s count] [-t] [-u fd] [-C callback] [-c quantum] [array]"),
    ("readonly", "[-aAf] [name[=value] ...] or readonly -p"), ("return", "[n]"),
    ("set", "[-abefhkmnptuvxBCEHPT] [-o option-name] [--] [-] [arg ...]"), ("shift", "[n]"),
    ("shopt", "[-pqsu] [-o] [optname ...]"), ("source", "filename [arguments]"), ("suspend", "[-f]"),
    ("test", "[expr]"), ("times", ""), ("trap", "[-lp] [[arg] signal_spec ...]"), ("true", ""),
    ("type", "[-afptP] name [name ...]"),
    ("typeset", "[-aAfFgiIlnrtux] name[=value] ... or typeset -p [-aAfFilnrtux] [name ...]"),
    ("ulimit", "[-SHabcdefiklmnpqrstuvxPRT] [limit]"), ("umask", "[-p] [-S] [mode]"),
    ("unalias", "[-a] name [name ...]"), ("unset", "[-f] [-v] [-n] [name ...]"),
    ("wait", "[-fn] [-p var] [id ...]")]

/-- Says how the command at work is used, and breaks off. -/
def refuseUsage {α : Type} : Run α := do
  let name := ((← get).command).getD ""
  let usage := (usages.lookup name).getD ""
  Run.complain (name ++ ": usage: " ++ name ++ (if usage.isEmpty then "" else " " ++ usage) ++ "\n")
  Run.finish 2
  throw .failed

/-- Reports a fault in how a command is used, and breaks off. -/
def refuse {α : Type} (f : Fault) : Run α := do
  if (← get).dialect == .plain then Run.fail f
  else
    Run.report f
    refuseUsage

/-! ## Options -/

/-- The options at the start of some arguments, by their letters, and the other arguments. The first
letters have no value and the second ones have. The number is at least that of the arguments. -/
def options (plain valued : List Char) : Nat → List String → Run (List (Char × String) × List String)
  | 0, arguments => return ([], arguments)
  | _, [] => return ([], [])
  | n + 1, argument :: rest => do
    match argument.toList with
    | ['-', '-'] => return ([], rest)
    | '-' :: c :: cs =>
      let letters := (c :: cs).takeWhile plain.contains
      let found := letters.map (·, "")
      match (c :: cs).drop letters.length, rest with
      | [], _ =>
        let (others, left) ← options plain valued n rest
        return (found ++ others, left)
      | d :: value, _ =>
        if !valued.contains d then refuse (.badOption ("-" ++ d.toString))
        match value, rest with
        | [], [] =>
          if (← get).dialect == .plain then Run.fail (.stated ("No arg for -" ++ d.toString ++ " option"))
          else refuse (.stated ("-" ++ d.toString ++ ": option requires an argument"))
        | [], value :: rest =>
          let (others, left) ← options plain valued n rest
          return (found ++ (d, value) :: others, left)
        | value, _ =>
          let (others, left) ← options plain valued n rest
          return (found ++ (d, String.ofList value) :: others, left)
    | _ => return ([], argument :: rest)

/-- The options of some letters without values, and the other arguments. -/
def letters (plain : String) (arguments : List String) : Run (List Char × List String) := do
  let (found, rest) ← options plain.toList [] (arguments.length + 1) arguments
  return (found.map (·.1), rest)

/-- The options of some letters, without values in one kind of shell and with others in the other. -/
def lettersIn (plain extended : String) (arguments : List String) : Run (List Char × List String) := do
  letters (if (← get).dialect == .plain then plain else extended) arguments

/-! ## Numbers -/

/-- A number that an argument has to be. -/
def number (text : String) : Run Nat :=
  match (text.toNat?, text.all Char.isDigit) with
  | (some n, true) => return n
  | _ => Run.fail (.badNumber text)

/-- A status that an argument has to be. In one kind of shell it may be negative. -/
def status (text : String) : Run Nat := do
  if (← get).dialect == .plain then number text
  else
    match Arithmetic.ofText? true text with
    | some n => return (n % 256).toNat
    | none => Run.failWith 2 (.badNumber text)

/-- The text between single quotes, as a shell reads it. -/
def inQuotes (text : String) : String :=
  let parts := text.toList.splitBy fun a b => (a == '\x27') == (b == '\x27')
  if text.isEmpty then "\x27\x27"
  else String.join (parts.map fun part =>
    if part.head? == some '\x27' then "\x22" ++ String.ofList part ++ "\x22"
    else "\x27" ++ String.ofList part ++ "\x27")

end Builtin
end SysReg.Shell
