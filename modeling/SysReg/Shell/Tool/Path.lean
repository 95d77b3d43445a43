import SysReg.Shell.Builtin.Surroundings
import SysReg.Shell.Tool.Basic

/-!
# Tools for paths

Parts of paths, and the places that paths lead to.
-/

namespace SysReg.Shell.Tool

/-- A path without slashes at its end, unless it has nothing else. -/
def withoutSlashes (path : List Char) : List Char :=
  match (path.reverse.dropWhile (· == '/')).reverse with
  | [] => path.take 1
  | found => found

/-- The last name of a path. -/
def lastName (path : String) : String :=
  let cs := withoutSlashes path.toList
  if cs == ['/'] then "/" else String.ofList (cs.reverse.takeWhile (· != '/')).reverse

/-- The path of what a path lies in. -/
def directoryName (path : String) : String :=
  let cs := withoutSlashes path.toList
  if !cs.contains '/' then "."
  else String.ofList (withoutSlashes ((cs.reverse.dropWhile (· != '/')).reverse))

/-- A name without an ending, unless that is all of it. -/
def withoutEnding (ending name : String) : String :=
  if name.endsWith ending && name != ending then (name.dropEnd ending.length).toString else name

/-- Prints the last names of paths. -/
def basename : Tool := withOptions
  [plain 'a' "multiple", valued 's' "suffix", plain 'z' "zero"] 1 (fun c a => do
  let ending := if a.has 'z' then "\x00" else "\n"
  let all := a.has 'a' || a.has 's'
  match a.operands, all with
  | [], _ => c.misuse 1 "missing operand"
  | paths, true =>
    paths.forM fun path => Run.print (withoutEnding ((a.value? 's').getD "") (lastName path) ++ ending)
    return 0
  | [path], false =>
    Run.print (lastName path ++ ending)
    return 0
  | [path, cut], false =>
    Run.print (withoutEnding cut (lastName path) ++ ending)
    return 0
  | _ :: _ :: extra :: _, false => c.misuse 1 ("extra operand " ++ quoted extra)) true

/-- Prints the paths of what paths lie in. -/
def dirname : Tool := withOptions [plain 'z' "zero"] 1 (fun c a => do
  if a.operands.isEmpty then c.misuse 1 "missing operand"
  else
    a.operands.forM fun path => Run.print (directoryName path ++ (if a.has 'z' then "\x00" else "\n"))
    return 0) false

/-- What has to be there for a path to have a place. -/
inductive Presence where
  /-- Everything. -/
  | all
  /-- Everything but what the last name stands for. -/
  | above
  | nothing
  deriving DecidableEq, Repr

/-- The names of a path without those that lead nowhere. -/
def cleaned (place : List String) : List String → List String
  | [] => place
  | name :: names =>
    if name == "" || name == "." then cleaned place names
    else if name == ".." then cleaned place.dropLast names
    else cleaned (place ++ [name]) names

/-- The place of a path. -/
def placeOf (t : FileTree) (presence : Presence) (path : String) : Except FileFault (List String) :=
  match presence with
  | .all => (t.locate true path).map (·.1)
  | .above => t.walk path ((FileTree.names path).reverse.dropWhile (· == "")).reverse
  | .nothing =>
    match t.walk path (FileTree.names path) with
    | .ok place => .ok place
    | .error _ =>
      if path.isEmpty then .error .notFound
      else .ok (cleaned (FileTree.originAt t.home path) (FileTree.names path))

/-- The path to a place from another. -/
def relativePath (start place : List String) : String :=
  let shared := ((start.zip place).takeWhile fun (a, b) => a == b).length
  let names := List.replicate (start.length - shared) ".." ++ place.drop shared
  if names.isEmpty then "." else "/".intercalate names

/-- Prints the places of paths. -/
def realpath : Tool := withOptions
  [plain 'e' "canonicalize-existing", plain 'm' "canonicalize-missing", plain 'L' "logical",
    plain 'P' "physical", plain 'q' "quiet", plain 's' "strip", plain 's' "no-symlinks",
    valued '\x03' "relative-to", valued '\x04' "relative-base", plain 'z' "zero"] 1 (fun c a => do
  if a.operands.isEmpty then return ← c.misuse 1 "missing operand"
  let presence : Presence := if a.has 'm' then .nothing else if a.has 'e' then .all else .above
  let found ← a.operands.mapM fun path => do
    let t ← Run.tree
    match placeOf t presence path with
    | .error fault =>
      if !a.has 'q' then c.report (path ++ ": " ++ fault.reason)
      return false
    | .ok place =>
      let text := match (a.value? '\x03').bind fun start => (placeOf t .nothing start).toOption with
        | some start => relativePath start place
        | none => Builtin.pathOfPlace place
      Run.print (text ++ (if a.has 'z' then "\x00" else "\n"))
      return true
  return statusIf (found.all id)) false

/-- Prints where links lead. -/
def readlink : Tool := withOptions
  [plain 'e' "canonicalize-existing", plain 'f' "canonicalize", plain 'm' "canonicalize-missing",
    plain 'n' "no-newline", plain 'q' "quiet", plain 's' "silent", plain 'v' "verbose", plain 'z' "zero"] 1
  (fun c a => do
  if a.operands.isEmpty then return ← c.misuse 1 "missing operand"
  let ending := if a.has 'z' then "\x00" else if a.has 'n' && a.operands.length == 1 then "" else "\n"
  let found ← a.operands.mapM fun path => do
    let t ← Run.tree
    let text? : Except FileFault String :=
      if a.has 'e' || a.has 'f' || a.has 'm' then
        (placeOf t (if a.has 'e' then .all else if a.has 'f' then .above else .nothing) path).map
          Builtin.pathOfPlace
      else
        match t.locate false path with
        | .ok (_, .link target) => .ok target
        | .ok _ => .error (.other "Invalid argument")
        | .error fault => .error fault
    match text? with
    | .ok text =>
      Run.print (text ++ ending)
      return true
    | .error fault =>
      if a.has 'v' then c.report (path ++ ": " ++ fault.reason)
      return false
  return statusIf (found.all id)) false

/-- Prints the directory. -/
def pwd : Tool := withOptions [plain 'L' "logical", plain 'P' "physical"] 1 (fun c a => do
  if !a.operands.isEmpty then c.report "ignoring non-option arguments"
  Run.print (Builtin.pathOfPlace (← Run.tree).home ++ "\n")
  return 0) false

/-- The names that a name with letters to fill in may become. -/
def filledIn (front back : String) (width : Nat) (n : Nat) : String :=
  front ++ String.ofList ((Nat.toDigits 10 n).leftpad width 'A') ++ back

/-- Makes a file or a directory with a name that nothing has. -/
def mktemp : Tool := withOptions
  [plain 'd' "directory", plain 'q' "quiet", plain 'u' "dry-run", valued 'p' "", plain 't' "",
    valued '\x03' "suffix", ⟨'\x04', "tmpdir", .optional⟩] 1 (fun c a => do
  match a.operands with
  | _ :: _ :: _ => c.misuse 1 "too many templates"
  | operands =>
    let form := operands.headD "tmp.XXXXXXXXXX" ++ (a.value? '\x03').getD ""
    let cs := form.toList
    let back := cs.reverse.takeWhile (· != 'X')
    let letters := ((cs.reverse.drop back.length).takeWhile (· == 'X')).length
    if letters < 3 then return ← c.fail 1 ("too few X's in template " ++ quoted form)
    let p ← get
    let inside := operands.isEmpty || a.has 't' || a.has 'p' || a.has '\x04'
    let above := (a.value? 'p').or ((a.value? '\x04').filter (!·.isEmpty)) |>.getD
      ((p.value? "TMPDIR").getD "/tmp")
    let front := String.ofList (cs.take (cs.length - back.length - letters))
    let path (n : Nat) : String :=
      (if inside then above ++ "/" else "") ++ filledIn front (String.ofList back.reverse) letters n
    let t := p.channels.tree
    match (List.range 1000).find? fun n => (t.locate false (path n)).toOption.isNone with
    | none => c.fail 1 "no name is left"
    | some n =>
      let changed : Except FileFault FileTree :=
        if a.has 'u' then .ok t
        else if a.has 'd' then t.makeAt (path n) (FileTree.names (path n)) else t.openFile (path n)
      match changed with
      | .error fault =>
        c.fail 1 ("failed to create " ++ (if a.has 'd' then "directory" else "file") ++ " via template " ++
          quoted ((if inside then above ++ "/" else "") ++ form) ++ ": " ++ fault.reason)
      | .ok t =>
        Run.setTree t
        Run.print (path n ++ "\n")
        return 0) false

end SysReg.Shell.Tool
