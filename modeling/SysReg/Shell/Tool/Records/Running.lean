import SysReg.Shell.Tool.Records.Evaluation
import SysReg.Shell.Tool.Records.Reading

/-!
# Running programs on records

A program is carried out on the records of files: first the rules for the start, then all others for each
record, and in the end those for the end.
-/

namespace SysReg.Shell.Records

/-- What the arguments ask for. -/
structure Request where
  /-- The files of the program. -/
  files : List String
  separator : Option String
  /-- What variables are set, with their values. -/
  settings : List String
  /-- What stands behind the options. -/
  operands : List String

namespace Request

/-- The arguments taken apart, or what is wrong with them. The number is at least that of the
arguments. -/
def ofArguments : Nat → Request → List String → Except String Request
  | 0, r, arguments => .ok { r with operands := arguments }
  | _, r, [] => .ok r
  | n + 1, r, argument :: rest =>
    let valued (letter : Char) (value : List Char) (use : String → Request) : Except String Request :=
      match value, rest with
      | [], value :: rest => ofArguments n (use value) rest
      | [], [] => .error ("option -" ++ letter.toString ++ " lacks argument")
      | _, _ => ofArguments n (use (String.ofList value)) rest
    match argument.toList with
    | ['-', '-'] => .ok { r with operands := rest }
    | '-' :: 'f' :: value => valued 'f' value fun file => { r with files := r.files ++ [file] }
    | '-' :: 'F' :: value => valued 'F' value fun text => { r with separator := some text }
    | '-' :: 'v' :: value => valued 'v' value fun text => { r with settings := r.settings ++ [text] }
    | '-' :: 'W' :: value => valued 'W' value fun _ => r
    | '-' :: _ :: _ => .error ("not an option: " ++ argument)
    | _ => .ok { r with operands := argument :: rest }

end Request

namespace Step

/-- How many records are gone over at most. -/
def mostRecords : Nat := 10000000

/-- How deep expressions and functions are nested at most. -/
def depth : Nat := 6000

/-- Carries out what a rule does. -/
def performBody (p : Program) (body : Option Statement) : Step Unit :=
  match body with
  | some statement => perform p.routines depth statement
  | none => perform p.routines depth (.print [] none)

/-- Carries a rule out for a record, if the record triggers it. -/
def performRule (p : Program) (rule : Rule) (place : Nat) : Step Unit := do
  match rule.trigger with
  | .atStart | .atEnd => return
  | .always => performBody p rule.body
  | .when e => if (← evaluate p.routines depth e).isTrue then performBody p rule.body
  | .between first last =>
    let isIn ← if (← get).begun.contains place then pure true else do
      pure (← evaluate p.routines depth first).isTrue
    if isIn then
      let isLast := (← evaluate p.routines depth last).isTrue
      modify fun s =>
        let others := s.begun.filter (· != place)
        { s with begun := if isLast then others else place :: others }
      performBody p rule.body

/-- The rules of a kind. -/
def performAll (p : Program) (isKind : Trigger → Bool) : Step Unit :=
  (p.rules.filter fun rule => isKind rule.trigger).forM fun rule => performBody p rule.body

/-- The rule is one for the start. -/
def isStart : Trigger → Bool
  | .atStart => true
  | _ => false

/-- The rule is one for the end. -/
def isEnd : Trigger → Bool
  | .atEnd => true
  | _ => false

/-- Goes over all records. -/
def performRecords (p : Program) : Step Unit :=
  repeated mostRecords do
    match ← nextRecord mostFiles with
    | none => return false
    | some record =>
      setRecord record
      tryCatch (p.rules.zipIdx.forM fun (rule, place) => performRule p rule place) fun leaving => do
        match leaving with
        | .next => return
        | .nextFile => modify fun s => { s with file := none }
        | other => throw other
      return true

/-- Carries a step out: whether the program goes on, and whether it may go on with its end. -/
def phase (step : Step Unit) : Step (Bool × Bool) :=
  tryCatch (do
    step
    return (true, true)) fun leaving => do
    match leaving with
    | .failed => return (false, false)
    | .exit => return (false, true)
    | _ => return (true, true)

/-- Carries a program out. -/
def performProgram (p : Program) (settings : List (String × String)) : Step Unit := do
  settings.forM fun (name, value) => assignArgument name value
  let (isOn, isGood) ← phase (performAll p isStart)
  let (_, isGood) ←
    if isOn && p.rules.any fun rule => !isStart rule.trigger then do
      if p.rules.isEmpty then pure (true, true) else phase (performRecords p)
    else pure (isOn, isGood)
  if isGood then discard (phase (performAll p isEnd))
  closeAll

end Step

/-- What variables hold in the beginning. -/
def firstCells : List (String × Datum) :=
  [("NF", .number 0.0), ("NR", .number 0.0), ("FNR", .number 0.0), ("FS", .text [' ']), ("OFS", .text [' ']),
    ("ORS", .text ['\n']), ("RS", .text ['\n']), ("SUBSEP", .text ['\x1c']), ("CONVFMT", .text ['%', '.', '6', 'g']),
    ("OFMT", .text ['%', '.', '6', 'g']), ("FILENAME", .text []), ("RSTART", .number 0.0),
    ("RLENGTH", .number (-1.0))]

/-- A program that has not begun, with arguments and an environment. -/
def Working.start (call : ToolCall) (arguments : List String) (environment : List (String × String)) :
    Working where
  call := call
  shared := Std.HashMap.ofList <| (firstCells.map fun (name, d) => (name, Cell.value d)) ++
    [("ARGC", .value (.ofNat arguments.length)), ("ARGV", .table 0), ("ENVIRON", .table 1)]
  own := #[]
  tables := #[
    arguments.zipIdx.foldl (fun t (argument, n) => t.put (.inl n) (.ofInput argument.toList)) Table.empty,
    environment.foldl (fun t (name, value) => t.put (.inr name.toList) (.ofInput value.toList)) Table.empty]
  record := .unset
  fields := #[]
  patterns := ∅
  held := []
  sinks := []
  sources := []
  argument := 1
  file := none
  hasRead := false
  begun := []
  seed := .number 0.0
  random := 42
  status := 0

/-- How the tool is used. -/
def usage : String :=
  "Usage: mawk [Options] [Program] [file ...]\n\nProgram:\n" ++
    "    The -f option value is the name of a file containing program text.\n" ++
    "    If no -f option is given, a \x22--\x22 ends option processing; the following\n" ++
    "    parameters are the program text.\n\nOptions:\n" ++
    "    -f program-file  Program  text is read from file instead of from the\n" ++
    "                     command-line.  Multiple -f options are accepted.\n" ++
    "    -F value         sets the field separator, FS, to value.\n" ++
    "    -v var=value     assigns value to program variable var.\n" ++
    "    --               unambiguous end of options.\n\n" ++
    "    Implementation-specific options are prefixed with \x22-W\x22.  They can be\n" ++
    "    abbreviated:\n\n" ++
    "    -W version       show version information and exit.\n" ++
    "    -W compat        pre-POSIX 2001.\n" ++
    "    -W dump          show assembler-like listing of program and exit.\n" ++
    "    -W help          show this message and exit.\n" ++
    "    -W interactive   set unbuffered output, line-buffered input.\n" ++
    "    -W exec file     use file as program as well as last option.\n" ++
    "    -W posix         stricter POSIX checking.\n" ++
    "    -W random=number set initial random seed.\n" ++
    "    -W sprintf=number adjust size of sprintf buffer.\n" ++
    "    -W usage         show this message and exit.\n"

/-- The version of the tool. -/
def version : String :=
  "mawk 1.3.4 20240123\n"

/-- Runs a text as a program. -/
def run (c : ToolCall) (request : Request) (lead : String) (text : List Char) (operands : List String) :
    Run Nat := do
  match Program.ofText c.called lead text with
  | .error lines =>
    Run.complain (String.join (lines.map (· ++ "\n")))
    return 2
  | .ok program =>
    let settings := (request.separator.map (("FS", ·))).toList ++
      request.settings.filterMap Step.assignmentOf?
    let start := Working.start c (c.called :: operands) (← get).environment
    let (_, s) ← ((Step.performProgram program settings).run).run start
    return s.status

/-- The texts of the files of a program, or else the status. -/
def textOfFiles (c : ToolCall) : List String → Run (Except Nat (List Char))
  | [] => return .ok []
  | path :: paths => do
    match ← Tool.readFile path with
    | .error fault =>
      return .error (← c.fail 2 ("cannot open \x22" ++ path ++ "\x22 (" ++ fault.reason ++ ")"))
    | .ok text =>
      match ← textOfFiles c paths with
      | .error status => return .error status
      | .ok others => return .ok (text ++ '\n' :: others)

end Records

namespace Tool

/-- Runs a program on records. -/
def awk : Tool := fun call arguments => do
  let name := (call.called.splitOn "/").getLastD call.called
  let c : ToolCall := { call with called := name }
  if ["--version", "-version", "-Wversion", "-Wv"].contains (arguments.headD "") ||
      arguments.take 2 == ["-W", "version"] then
    Run.print Records.version
    return 0
  if ["--help", "-help", "-Whelp", "-Wusage"].contains (arguments.headD "") ||
      arguments.take 2 == ["-W", "help"] || arguments.take 2 == ["-W", "usage"] then
    Run.print Records.usage
    return 0
  match Records.Request.ofArguments (arguments.length + 1) ⟨[], none, [], []⟩ arguments with
  | .error text => c.fail 2 text
  | .ok request =>
    match request.settings.find? fun text => (Records.Step.assignmentOf? text).isNone with
    | some text => c.fail 2 ("improper assignment: -v " ++ text)
    | none =>
      match request.files, request.operands with
      | [], [] =>
        Run.complain Records.usage
        return 0
      | [], text :: operands => Records.run c request (name ++ ": ") (text.toList ++ ['\n']) operands
      | files, operands =>
        match ← Records.textOfFiles c files with
        | .error status => return status
        | .ok text => Records.run c request (name ++ ": " ++ files.headD "" ++ ": ") text operands

end Tool
end SysReg.Shell
