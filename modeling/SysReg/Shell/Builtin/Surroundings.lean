import SysReg.Shell.Builtin.Basic

/-!
# Commands about the surroundings

The directory of the shell, the marks that files are made with, and the limits and times of the
process.
-/

namespace SysReg.Shell.Builtin

/-! ## The directory -/

/-- The path of a place. -/
def pathOfPlace (place : List String) : String :=
  "/" ++ "/".intercalate place

/-- Prints the directory. -/
def pwd : Builtin := succeeding fun arguments => do
  let _ ← letters "LP" arguments
  Run.print (pathOfPlace (← Run.tree).home ++ "\n")

/-- The directory that a path leads to, if it does. -/
def directory? (t : FileTree) (path : String) : Except FileFault (List String) := do
  let (place, node) ← t.locate true path
  if node.isDirectory then return place else throw .notADirectory

/-- Goes to a place. -/
def goTo (place : List String) : Run Unit := do
  let t ← Run.tree
  Run.setTree { t with home := place }
  Run.setVariable "OLDPWD" (pathOfPlace t.home)
  Run.setVariable "PWD" (pathOfPlace place)

/-- Goes to another directory. -/
def cd : Builtin := fun arguments => do
  let (_, arguments) ← lettersIn "LP" "LPe@" arguments
  let p ← get
  if p.dialect == .extended then
    match arguments with
    | [] => if (p.value? "HOME").isNone then Run.fail (.stated "HOME not set")
    | ["-"] => if (p.value? "OLDPWD").isNone then Run.fail (.stated "OLDPWD not set")
    | [_] => pure ()
    | _ => Run.fail (.stated "too many arguments")
  let path := match arguments.head? with
    | none => (p.value? "HOME").getD ""
    | some "-" => (p.value? "OLDPWD").getD (pathOfPlace p.channels.tree.home)
    | some path => path
  let isRelative := !path.startsWith "/" && !path.startsWith "./" && !path.startsWith "../" &&
    path != "." && path != ".."
  let above := if isRelative then (((p.value? "CDPATH").getD "").splitOn ":") else [""]
  if p.dialect == .extended && path.isEmpty then return 0
  let found := above.findSome? fun dir =>
    ((directory? p.channels.tree (if dir.isEmpty then path else dir ++ "/" ++ path)).toOption).map
      (dir, ·)
  match found with
  | some (dir, place) =>
    goTo place
    if arguments.head? == some "-" || (dir != "" && dir != ".") then
      Run.print (pathOfPlace place ++ "\n")
    return 0
  | none =>
    match p.dialect, directory? p.channels.tree path with
    | .extended, .error fault =>
      Run.report (.stated (path ++ ": " ++ fault.reason))
      return 1
    | _, _ => Run.fail (.stated ("can't cd to " ++ path))

/-! ## Directories to go back to -/

/-- The path of a place, with a tilde for the directory of the user. -/
def shortPath (p : Process) (place : List String) : String :=
  let path := pathOfPlace place
  let home := (p.value? "HOME").getD ""
  if home.isEmpty || home == "/" then path
  else if path == home then "~"
  else if path.startsWith (home ++ "/") then "~" ++ (path.drop home.length).toString
  else path

/-- Shows the directory and those that may be gone back to. -/
def dirs : Builtin := succeeding fun arguments => do
  let (options, _) ← letters "clpv" arguments
  if options.contains 'c' then modify fun p => { p with stack := [] }
  else
    let p ← get
    let all := p.channels.tree.home :: p.stack
    let texts := all.map fun place => if options.contains 'l' then pathOfPlace place else shortPath p place
    Run.print (
      if options.contains 'v' then
        String.join (texts.zipIdx.map fun (text, n) =>
          String.ofList ((Numeral.decimal n).toList.leftpad 2 ' ') ++ "  " ++ text ++ "\n")
      else if options.contains 'p' then String.join (texts.map (· ++ "\n"))
      else " ".intercalate texts ++ "\n")

/-- Goes to another directory, such that this one may be gone back to. -/
def pushd : Builtin := fun arguments => do
  let p ← get
  let here := p.channels.tree.home
  match arguments.filter (· != "--") with
  | [] =>
    match p.stack with
    | [] => Run.fail (.stated "no other directory")
    | top :: rest =>
      goTo top
      modify fun p => { p with stack := here :: rest }
      dirs []
  | path :: _ =>
    match directory? p.channels.tree path with
    | .error fault => Run.fail (.stated (path ++ ": " ++ fault.reason))
    | .ok place =>
      goTo place
      modify fun p => { p with stack := here :: p.stack }
      dirs []

/-- Goes back to a directory. -/
def popd : Builtin := fun _ => do
  match (← get).stack with
  | [] => Run.fail (.stated "directory stack empty")
  | top :: rest =>
    goTo top
    modify fun p => { p with stack := rest }
    dirs []

/-! ## Marks, limits and times -/

/-- What is allowed by three bits that are taken away. -/
def allowed (bits : Nat) : String :=
  String.ofList ((if bits / 4 % 2 == 0 then ['r'] else []) ++ (if bits / 2 % 2 == 0 then ['w'] else []) ++
    (if bits % 2 == 0 then ['x'] else []))

/-- The mask that a text gives. -/
def maskOf? (before : Nat) (text : String) : Option Nat :=
  if text.all fun c => '0' ≤ c && c ≤ '7' then
    let n := text.toList.foldl (fun n c => 8 * n + (c.toNat - 48)) 0
    if n < 512 && !text.isEmpty then some n else none
  else (text.splitOn ",").foldlM change before
where
  /-- The mask after one part of the text. -/
  change (mask : Nat) (part : String) : Option Nat :=
    let who := part.toList.takeWhile fun c => ['u', 'g', 'o', 'a'].contains c
    match part.toList.drop who.length with
    | sign :: what =>
      if ['=', '+', '-'].contains sign && what.all fun c => ['r', 'w', 'x'].contains c then
        let bits := (if what.contains 'r' then 4 else 0) + (if what.contains 'w' then 2 else 0) +
          (if what.contains 'x' then 1 else 0)
        let all := who.isEmpty || who.contains 'a'
        let one (isMeant : Bool) (shift : Nat) : Nat :=
          let old := mask / shift % 8
          let new := if !isMeant then old
            else if sign == '=' then 7 - bits
            else if sign == '+' then old &&& (7 - bits) else old ||| bits
          new * shift
        some (one (all || who.contains 'u') 64 + one (all || who.contains 'g') 8 +
          one (all || who.contains 'o') 1)
      else none
    | [] => none

/-- Shows or sets what new files are not allowed. -/
def umask : Builtin := succeeding fun arguments => do
  let (options, arguments) ← lettersIn "S" "Sp" arguments
  let mask := (← get).mask
  match arguments with
  | [] =>
    if options.contains 'S' then
      Run.print ("u=" ++ allowed (mask / 64 % 8) ++ ",g=" ++ allowed (mask / 8 % 8) ++ ",o=" ++
        allowed (mask % 8) ++ "\n")
    else Run.print (String.ofList ((Nat.toDigits 8 mask).leftpad 4 '0') ++ "\n")
  | text :: _ =>
    match maskOf? mask text with
    | some mask => modify fun p => { p with mask }
    | none =>
      match (← get).dialect, text.toList.head?.any Char.isDigit with
      | .plain, _ =>
        if text.all Char.isDigit then Run.fail (.badNumber text)
        else Run.fail (.stated ("Illegal mode: " ++ text))
      | .extended, true => Run.fail (.stated (text ++ ": octal number out of range"))
      | .extended, false =>
        Run.fail (.stated ("\x60" ++ text.front.toString ++ "': invalid symbolic mode operator"))

/-- Shows limits, of which there are none. -/
def ulimit : Builtin := succeeding fun arguments => do
  let (_, arguments) ← lettersIn "HSatfdscmlpnvwr" "HSabcdefiklmnpqrstuvxPRT" arguments
  if arguments.isEmpty then Run.print "unlimited\n"

/-- Shows the times that the process has taken. -/
def times : Builtin := succeeding fun _ => do
  Run.print (match (← get).dialect with
    | .plain => "0m0.000000s 0m0.000000s\n0m0.000000s 0m0.000000s\n"
    | .extended => "0m0.000s 0m0.000s\n0m0.000s 0m0.000s\n")

end SysReg.Shell.Builtin
