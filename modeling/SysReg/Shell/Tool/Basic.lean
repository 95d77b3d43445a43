import SysReg.Shell.Process
import SysReg.Shell.Real

/-!
# Tools

The programs that a script finds ready. A tool works in a process of its own: it reads and writes by
descriptors, changes files, and may run other programs.
-/

namespace SysReg.Shell

/-- What a tool is given beside its arguments. -/
structure ToolCall where
  /-- The name by which the tool was called. -/
  called : String
  /-- Runs a program to its end, or says why it cannot be run. -/
  launch : String → List String → Run (Except FileFault Ending)

/-- A tool, which leaves a status. -/
abbrev Tool : Type := ToolCall → List String → Run Nat

namespace ToolCall

/-! ## Messages -/

/-- Reports a fault. -/
def report (c : ToolCall) (text : String) : Run Unit :=
  Run.complain (c.called ++ ": " ++ text ++ "\n")

/-- Reports a fault and leaves a status. -/
def fail (c : ToolCall) (status : Nat) (text : String) : Run Nat := do
  c.report text
  return status

/-- Names the option that helps. -/
def hint (c : ToolCall) : Run Unit :=
  Run.complain ("Try '" ++ c.called ++ " --help' for more information.\n")

/-- Reports a fault in how the tool is used, and leaves a status. -/
def misuse (c : ToolCall) (status : Nat) (text : String) : Run Nat := do
  c.report text
  c.hint
  return status

end ToolCall

namespace Tool

/-- Quotes a text in a message. -/
def quoted (text : String) : String :=
  "'" ++ text ++ "'"

/-! ## Options -/

/-- Whether an option has a value. -/
inductive Arity where
  | none
  | required
  | optional
  deriving DecidableEq, Repr

/-- An option, by its letter and its name, of which one may be missing. -/
structure OptionForm where
  letter : Char
  name : String
  arity : Arity
  deriving DecidableEq, Repr

/-- An option without a value. -/
def plain (letter : Char) (name : String) : OptionForm :=
  ⟨letter, name, .none⟩

/-- An option with a value. -/
def valued (letter : Char) (name : String) : OptionForm :=
  ⟨letter, name, .required⟩

/-- The arguments of a tool, taken apart: its options by their letters with their values, in order, and
the other arguments. -/
structure Arguments where
  options : List (Char × String)
  operands : List String

namespace Arguments

/-- The option was given. -/
def has (a : Arguments) (c : Char) : Bool :=
  a.options.any (·.1 == c)

/-- The value of an option, of which the last one counts. -/
def value? (a : Arguments) (c : Char) : Option String :=
  (a.options.filter (·.1 == c)).getLast?.map (·.2)

/-- The last of some options. -/
def lastOf? (a : Arguments) (cs : List Char) : Option Char :=
  (a.options.filter fun o => cs.contains o.1).getLast?.map (·.1)

/-- The values of an option that may be given more than once. -/
def values (a : Arguments) (c : Char) : List String :=
  (a.options.filter (·.1 == c)).map (·.2)

end Arguments

/-- The option that a name means, which may be cut short, or what is wrong with the name. -/
def named? (forms : List OptionForm) (name : String) : Except String OptionForm :=
  match forms.find? (·.name == name) with
  | some form => .ok form
  | none =>
    match forms.filter fun form => !form.name.isEmpty && form.name.startsWith name with
    | [form] => .ok form
    | [] => .error ("unrecognized option " ++ quoted ("--" ++ name))
    | found =>
      .error ("option " ++ quoted ("--" ++ name) ++ " is ambiguous; possibilities:" ++
        String.join (found.map fun form => " " ++ quoted ("--" ++ form.name)))

/-- What options in letters are, what value the last of them has there, and which letter needs a value of
its own. -/
def lettersOf (forms : List OptionForm) :
    List Char → Except String (List (Char × String) × Option Char)
  | [] => .ok ([], none)
  | c :: cs =>
    match forms.find? (·.letter == c) with
    | none => .error ("invalid option -- " ++ quoted c.toString)
    | some form =>
      match form.arity, cs with
      | .none, _ => do
        let (others, open?) ← lettersOf forms cs
        return ((c, "") :: others, open?)
      | .required, [] => .ok ([], some c)
      | _, _ => .ok ([(c, String.ofList cs)], none)

/-- The arguments taken apart, or what is wrong with them. If `inOrder`, the first that is no option ends
the options. The number is at least that of the arguments. -/
def parse (forms : List OptionForm) (inOrder : Bool) : Nat → List String → Except String Arguments
  | 0, arguments => .ok ⟨[], arguments⟩
  | _, [] => .ok ⟨[], []⟩
  | n + 1, argument :: rest =>
    let before (found : List (Char × String)) (rest : List String) : Except String Arguments := do
      let others ← parse forms inOrder n rest
      return { others with options := found ++ others.options }
    match argument.toList with
    | ['-', '-'] => .ok ⟨[], rest⟩
    | '-' :: '-' :: long => do
      let name := String.ofList (long.takeWhile (· != '='))
      let value := (long.dropWhile (· != '=')).drop 1
      let form ← named? forms name
      match form.arity, long.contains '=', rest with
      | .none, true, _ =>
        throw ("option " ++ quoted ("--" ++ form.name) ++ " doesn't allow an argument")
      | .required, false, value :: rest => before [(form.letter, value)] rest
      | .required, false, [] =>
        throw ("option " ++ quoted ("--" ++ form.name) ++ " requires an argument")
      | _, _, _ => before [(form.letter, String.ofList value)] rest
    | '-' :: c :: cs => do
      match ← lettersOf forms (c :: cs), rest with
      | (found, none), _ => before found rest
      | (found, some letter), value :: rest => before (found ++ [(letter, value)]) rest
      | (_, some letter), [] =>
        throw ("option requires an argument -- " ++ quoted letter.toString)
    | _ =>
      if inOrder then .ok ⟨[], argument :: rest⟩
      else do
        let others ← parse forms inOrder n rest
        return { others with operands := argument :: others.operands }

/-- The options that every tool has: they print a text and do nothing else. -/
def always : List OptionForm :=
  [plain '\x01' "help", plain '\x02' "version"]

/-- A tool with options. What is wrong with them leaves a status. -/
def withOptions (forms : List OptionForm) (status : Nat) (body : ToolCall → Arguments → Run Nat)
    (inOrder : Bool) : Tool := fun c arguments => do
  match parse (forms ++ always) inOrder (arguments.length + 1) arguments with
  | .error text => c.misuse status text
  | .ok found =>
    if found.has '\x01' then
      Run.print ("Usage: " ++ c.called ++ " [OPTION]...\n")
      return 0
    else if found.has '\x02' then
      Run.print (c.called ++ " (GNU coreutils) 9.4\n")
      return 0
    else body c found

/-! ## Input -/

/-- The text of a file, or of the input for a dash. -/
def readFile (path : String) : Run (Except FileFault (List Char)) := do
  if path == "-" then Run.readAll 0
  else
    let p ← get
    match p.channels.openPath .toRead path with
    | .error fault => return .error fault
    | .ok (channels, number) =>
      match channels.pending number with
      | .error fault => return .error fault
      | .ok text =>
        set { p with channels := channels.skip number text.length }
        return .ok text

/-- The text of a file, of which a fault is reported. -/
def readOr (c : ToolCall) (message : String → String) (path : String) : Run (Option (List Char)) := do
  match ← readFile path with
  | .ok text => return some text
  | .error fault =>
    c.report (message path ++ ": " ++ fault.reason)
    return none

/-- The texts of files with their paths, or of the input if there is none, and whether all could be
read. -/
def readFiles (c : ToolCall) (message : String → String) (paths : List String) :
    Run (List (String × List Char) × Bool) := do
  let found ← (if paths.isEmpty then ["-"] else paths).mapM fun path => do
    return (← readOr c message path).map (path, ·)
  return (found.filterMap id, found.all Option.isSome)

/-- Carries a step out and keeps what it prints. -/
def captured {α : Type} (step : Run α) : Run (α × String) := do
  let before ← get
  let (channels, number) := before.channels.add (.outgoing "")
  set { before with channels := channels.assign 1 number }
  let found ← Run.andFinally step <| modify fun p =>
    { p with
      channels := match before.channels.streamOf? 1 with
        | some stdout => p.channels.assign 1 stdout
        | none => p.channels.close 1 }
  return (found, ((← get).channels.stream number).written)

/-- Carries a tool out whose output waits for its end, and comes after all that it complains of. -/
def holding (step : Run Nat) : Run Nat := do
  let before ← get
  let (channels, number) := before.channels.add (.outgoing "")
  set { before with channels := channels.assign 1 number }
  let status ← Run.andFinally step <| modify fun p =>
    let text := (p.channels.stream number).written
    let channels := match before.channels.streamOf? 1 with
      | some stdout => p.channels.assign 1 stdout
      | none => p.channels.close 1
    { p with channels }.write 1 text
  return status

/-! ## Numbers -/

/-- What letters behind a number multiply it by. -/
def multipliers : List (String × Nat) :=
  [("", 1), ("b", 512), ("c", 1), ("w", 2), ("kB", 1000), ("K", 1024), ("k", 1024), ("KiB", 1024),
    ("MB", 1000000), ("M", 1048576), ("m", 1048576), ("MiB", 1048576), ("GB", 1000000000), ("G", 1073741824)]

/-- The natural number that characters name, perhaps with letters behind it. -/
def magnitude? (cs : List Char) : Option Nat :=
  let digits := cs.takeWhile Char.isDigit
  if digits.isEmpty then none
  else (multipliers.lookup (String.ofList (cs.drop digits.length))).map (Real.ofDigits digits * ·)

/-! ## Lines -/

/-- The lines of a text, and whether the last of them has an end. -/
def linesBy (separator : Char) (text : List Char) : List (List Char) × Bool :=
  match (text.splitOn separator).reverse with
  | [] :: rest => (rest.reverse, true)
  | rest => (rest.reverse, false)

/-- The text of lines. -/
def ofLinesBy (separator : Char) (lines : List (List Char)) (ended : Bool) : String :=
  if lines.isEmpty then ""
  else String.ofList ([separator].intercalate lines ++ (if ended then [separator] else []))

/-- The lines of a text, and whether the last of them has an end. -/
def linesOf (text : List Char) : List (List Char) × Bool :=
  linesBy '\n' text

/-- The text of lines. -/
def ofLines (lines : List (List Char)) (ended : Bool) : String :=
  ofLinesBy '\n' lines ended

/-- The status of a success or a failure. -/
def statusIf (isGood : Bool) : Nat :=
  if isGood then 0 else 1

end Tool
end SysReg.Shell
