import SysReg.Shell.Tool.Path

/-!
# Tools for files and directories

Files and directories are listed, made, moved, copied, marked and taken away.
-/

namespace SysReg.Shell.Tool

/-! ## Trees -/

/-- The place lies in another, or is it. -/
def isWithin (outer place : List String) : Bool :=
  outer.isPrefixOf place

/-- The tree without a place and all that lies in it. -/
def removed (t : FileTree) (place : List String) : FileTree :=
  { t with nodes := t.nodes.filter fun entry => !isWithin place entry.1 }

/-- The tree with a place and all that lies in it put at another place as well. -/
def duplicated (t : FileTree) (source target : List String) : FileTree :=
  let found := (t.nodes.filter fun entry => isWithin source entry.1).map fun (place, node) =>
    (target ++ place.drop source.length, node)
  found.reverse.foldl (fun t (place, node) => t.put place node) t

/-- Whether directories lie in a directory, or files. -/
def isEmptyDirectory (t : FileTree) (place : List String) : Bool :=
  !t.nodes.any fun entry => entry.1.dropLast == place && !entry.1.isEmpty

/-- Changes the tree for each of some paths, of which faults are reported. -/
def changeEach (c : ToolCall) (message : String → String)
    (change : FileTree → String → Except FileFault FileTree) (paths : List String) : Run Nat := do
  let found ← paths.mapM fun path => do
    match change (← Run.tree) path with
    | .ok t =>
      Run.setTree t
      return true
    | .error fault =>
      c.report (message path ++ ": " ++ fault.reason)
      return false
  return statusIf (found.all id)

/-! ## Making -/

/-- The tree after a directory was made, perhaps with those that it lies in. -/
def makeDirectories (t : FileTree) (withAbove : Bool) (path : String) : Except FileFault FileTree :=
  let names := (((FileTree.names path).reverse.dropWhile (· == "")).reverse)
  if withAbove then t.makeUpwards path (names.filter fun name => name != "" && name != ".").reverse
  else t.makeAt path names

/-- The shortest part of a path from its start that leads to no directory. -/
def blocking (t : FileTree) (path : String) : String :=
  let names := path.splitOn "/"
  let parts := (List.range names.length).map fun n => "/".intercalate (names.take (n + 1))
  (parts.find? fun part => (t.find part).toOption.any (!·.isDirectory)).getD path

/-- Makes directories. -/
def mkdir : Tool := withOptions
  [valued 'm' "mode", plain 'p' "parents", plain 'v' "verbose"] 1 (fun c a => do
  if a.operands.isEmpty then return ← c.misuse 1 "missing operand"
  let found ← a.operands.mapM fun path => do
    let t ← Run.tree
    match makeDirectories t (a.has 'p') path with
    | .ok t =>
      Run.setTree t
      if a.has 'v' then Run.print (c.called ++ ": created directory " ++ quoted path ++ "\n")
      return true
    | .error fault =>
      let shown := if fault == .notADirectory && a.has 'p' then blocking t path else path
      c.report ("cannot create directory " ++ quoted shown ++ ": " ++ fault.reason)
      return false
  return statusIf (found.all id)) false

/-- The tree after a directory with nothing in it was taken away. -/
def withoutDirectory (t : FileTree) (path : String) : Except FileFault FileTree := do
  let (place, node) ← t.locate false path
  if !node.isDirectory then throw .notADirectory
  if !isEmptyDirectory t place then throw (.other "Directory not empty")
  return t.remove place

/-- Takes away directories with nothing in them. -/
def rmdir : Tool := withOptions
  [plain 'p' "parents", plain 'v' "verbose", plain '\x03' "ignore-fail-on-non-empty"] 1 (fun c a => do
  if a.operands.isEmpty then return ← c.misuse 1 "missing operand"
  let paths := a.operands.flatMap fun path =>
    if a.has 'p' then
      let names := path.splitOn "/"
      (List.range names.length).map fun n => "/".intercalate (names.take (names.length - n))
    else [path]
  changeEach c (fun path => "failed to remove " ++ quoted path) withoutDirectory paths) false

/-- Makes files unless they are there. -/
def touch : Tool := withOptions
  [plain 'a' "", plain 'c' "no-create", valued 'd' "date", plain 'f' "", plain 'h' "no-dereference",
    plain 'm' "", valued 'r' "reference", valued 't' "", valued '\x03' "time"] 1 (fun c a => do
  if a.operands.isEmpty then return ← c.misuse 1 "missing file operand"
  changeEach c (fun path => "cannot touch " ++ quoted path) (fun t path =>
    match t.find path with
    | .ok _ => .ok t
    | .error _ => if a.has 'c' then .ok t else t.openFile path) a.operands) false

/-! ## Taking away -/

/-- Takes files and directories away. -/
def rm : Tool := withOptions
  [plain 'd' "dir", plain 'f' "force", plain 'i' "", plain 'I' "", plain 'r' "recursive", plain 'R' "",
    plain 'v' "verbose", plain '\x03' "one-file-system", plain '\x04' "no-preserve-root",
    ⟨'\x05', "interactive", .optional⟩] 1 (fun c a => do
  if a.operands.isEmpty then
    return ← if a.has 'f' then pure 0 else c.misuse 1 "missing operand"
  let found ← a.operands.mapM fun path => do
    let t ← Run.tree
    let refuse (text : String) : Run Bool := do
      c.report ("cannot remove " ++ quoted path ++ ": " ++ text)
      return false
    match t.locate false path with
    | .error fault =>
      if a.has 'f' && (fault == .notFound || fault == .notADirectory) then return true
      else refuse fault.reason
    | .ok (place, node) =>
      let name := lastName path
      if node.isDirectory && (name == "." || name == "..") && (a.has 'r' || a.has 'R') then
        c.report ("refusing to remove '.' or '..' directory: skipping " ++ quoted path)
        return false
      else if node.isDirectory && !(a.has 'r' || a.has 'R') then
        if a.has 'd' && isEmptyDirectory t place then
          Run.setTree (t.remove place)
          return true
        else refuse (if a.has 'd' then "Directory not empty" else FileFault.isADirectory.reason)
      else
        Run.setTree (removed t place)
        if a.has 'v' then
          Run.print ("removed " ++ (if node.isDirectory then "directory " else "") ++ quoted path ++ "\n")
        return true
  return statusIf (found.all id)) false

/-- Takes one file away. -/
def unlink : Tool := withOptions [] 1 (fun c a => do
  match a.operands with
  | [] => c.misuse 1 "missing operand"
  | [path] =>
    changeEach c (fun path => "cannot unlink " ++ quoted path) (fun t path => do
      let (place, node) ← t.locate false path
      if node.isDirectory then throw .isADirectory
      return t.remove place) [path]
  | _ :: extra :: _ => c.misuse 1 ("extra operand " ++ quoted extra)) false

/-! ## Moving and copying -/

/-- What files are to become: the path of each, and what it is to be. -/
def destinations (c : ToolCall) (a : Arguments) : Run (Except Nat (List (String × String))) := do
  let t ← Run.tree
  let isDirectory (path : String) : Bool := (t.find path).toOption.any FileNode.isDirectory
  let into (target : String) (paths : List String) : List (String × String) :=
    paths.map fun path =>
      (path, (if target.endsWith "/" then target else target ++ "/") ++ lastName path)
  match a.value? 't', a.operands.reverse with
  | _, [] => return .error (← c.misuse 1 "missing file operand")
  | some target, paths =>
    if isDirectory target then return .ok (into target paths.reverse)
    else
      return .error (← c.fail 1 ("target directory " ++ quoted target ++ ": " ++ (match t.find target with
        | .ok _ => FileFault.notADirectory.reason
        | .error fault => fault.reason)))
  | none, [path] =>
    return .error (← c.misuse 1 ("missing destination file operand after " ++ quoted path))
  | none, [target, path] =>
    if isDirectory target && !a.has 'T' then return .ok (into target [path])
    else return .ok [(path, target)]
  | none, target :: paths =>
    if isDirectory target && !a.has 'T' then return .ok (into target paths.reverse)
    else if a.has 'T' then
      return .error (← c.misuse 1 ("extra operand " ++ quoted (a.operands.getD 2 "")))
    else
      return .error (← c.fail 1 ("target " ++ quoted target ++ ": " ++ (match t.find target with
        | .ok _ => FileFault.notADirectory.reason
        | .error fault => fault.reason)))

/-- The place that something is to be put at. -/
def targetPlace (t : FileTree) (follows : Bool) (path : String) : Except FileFault (List String) := do
  let names := ((FileTree.names path).reverse.dropWhile (· == "")).reverse
  let place ← t.walkTo follows path names
  if (t.node? place.dropLast).isNone then throw .notFound
  return place

/-- Copies one file or directory: what is wrong, if it cannot be copied. -/
def copyOne (t : FileTree) (a : Arguments) (path target : String) : Except String FileTree :=
  let whole := a.has 'r' || a.has 'R' || a.has 'a'
  let keepsLinks := a.has 'P' || a.has 'd' || a.has 'a' || (whole && !a.has 'L')
  match t.locate (!keepsLinks) path with
  | .error fault => .error ("cannot stat " ++ quoted path ++ ": " ++ fault.reason)
  | .ok (place, node) =>
    let create (fault : FileFault) : String :=
      "cannot create " ++ (if node.isDirectory then "directory " else "regular file ") ++ quoted target ++
        ": " ++ fault.reason
    if node.isDirectory && !whole then .error ("-r not specified; omitting directory " ++ quoted path)
    else
      match targetPlace t true target with
      | .error fault => .error (create fault)
      | .ok there =>
        let old := t.node? there
        if there == place then
          .error (quoted path ++ " and " ++ quoted target ++ " are the same file")
        else if node.isDirectory then
          if old.any (!·.isDirectory) then
            .error ("cannot overwrite non-directory " ++ quoted target ++ " with directory " ++ quoted path)
          else if isWithin place there then
            .error ("cannot copy a directory, " ++ quoted path ++ ", into itself, " ++ quoted target)
          else .ok (duplicated t place there)
        else if old.any FileNode.isDirectory then
          .error ("cannot overwrite directory " ++ quoted target ++ " with non-directory")
        else if a.has 'n' && old.isSome then .ok t
        else if target.endsWith "/" && old.isNone then
          .error ("cannot create regular file " ++ quoted target ++ ": " ++ FileFault.notADirectory.reason)
        else if t.isSealed there then .error (create .notFound)
        else
          match node, old with
          | .file octets _, some (.file _ runnable) =>
            .ok (t.put there (.file octets runnable))
          | .file octets _, some (.device _) => ((t.writeOctets there octets).toOption.getD t) |> .ok
          | node, _ => .ok (t.put there (match node with
              | .device _ => .file [] false
              | node => node))

/-- Carries a change out for each file and what it is to become. -/
def forPairs (c : ToolCall) (a : Arguments) (done : String)
    (change : FileTree → String → String → Except String FileTree) : Run Nat := do
  match ← destinations c a with
  | .error status => return status
  | .ok found =>
    let results ← found.mapM fun (path, target) => do
      match change (← Run.tree) path target with
      | .ok t =>
        Run.setTree t
        if a.has 'v' then Run.print (done ++ quoted path ++ " -> " ++ quoted target ++ "\n")
        return true
      | .error text =>
        c.report text
        return false
    return statusIf (results.all id)

/-- Copies files and directories. -/
def cp : Tool := withOptions
  [plain 'a' "archive", ⟨'b', "backup", .none⟩, plain 'd' "", plain 'f' "force", plain 'i' "interactive",
    plain 'l' "link", plain 'L' "dereference", plain 'n' "no-clobber", plain 'P' "no-dereference",
    plain 'p' "", plain 'r' "recursive", plain 'R' "", plain 's' "symbolic-link",
    valued 't' "target-directory", plain 'T' "no-target-directory", plain 'u' "", plain 'v' "verbose",
    ⟨'\x03', "preserve", .optional⟩, plain '\x04' "parents"] 1 (fun c a =>
  forPairs c a "" fun t path target => copyOne t a path target) false

/-- Moves one file or directory: what is wrong, if it cannot be moved. -/
def moveOne (t : FileTree) (a : Arguments) (path target : String) : Except String FileTree :=
  match t.locate false path with
  | .error fault => .error ("cannot stat " ++ quoted path ++ ": " ++ fault.reason)
  | .ok (place, node) =>
    let refuse (fault : FileFault) : Except String FileTree :=
      .error ("cannot move " ++ quoted path ++ " to " ++ quoted target ++ ": " ++ fault.reason)
    match targetPlace t false target with
    | .error fault => refuse fault
    | .ok there =>
      let old := t.node? there
      if there == place then .error (quoted path ++ " and " ++ quoted target ++ " are the same file")
      else if node.isDirectory && isWithin place there then
        .error ("cannot move " ++ quoted path ++ " to a subdirectory of itself, " ++ quoted target)
      else if node.isDirectory && old.any (!·.isDirectory) then
        .error ("cannot overwrite non-directory " ++ quoted target ++ " with directory " ++ quoted path)
      else if !node.isDirectory && old.any FileNode.isDirectory then
        .error ("cannot overwrite directory " ++ quoted target ++ " with non-directory")
      else if node.isDirectory && old.isSome && !isEmptyDirectory t there then
        refuse (.other "Directory not empty")
      else if a.has 'n' && old.isSome then .ok t
      else if target.endsWith "/" && !node.isDirectory && old.isNone then refuse .notADirectory
      else if t.isSealed there then refuse .notFound
      else if node.isDirectory then .ok (removed (duplicated t place there) place)
      else .ok ((t.remove place).put there node)

/-- Moves files and directories. -/
def mv : Tool := withOptions
  [plain 'b' "", plain 'f' "force", plain 'i' "interactive", plain 'n' "no-clobber",
    valued 't' "target-directory", plain 'T' "no-target-directory", plain 'u' "", plain 'v' "verbose"] 1
  (fun c a => forPairs c a "renamed " fun t path target => moveOne t a path target) false

/-- Links one file: what is wrong, if it cannot be linked. -/
def linkOne (t : FileTree) (a : Arguments) (path target : String) : Except String FileTree :=
  let isSymbolic := a.has 's'
  let source? := if isSymbolic then .ok ([], .link path) else t.locate false path
  match source? with
  | .error fault => .error ("failed to access " ++ quoted path ++ ": " ++ fault.reason)
  | .ok (place, node) =>
    let refuse (fault : FileFault) : Except String FileTree :=
      .error ("failed to create " ++ (if isSymbolic then "symbolic" else "hard") ++ " link " ++
        quoted target ++ (if isSymbolic || fault == .alreadyExists then "" else " => " ++ quoted path) ++
        ": " ++ fault.reason)
    if node.isDirectory then .error (path ++ ": hard link not allowed for directory")
    else
      match targetPlace t false target with
      | .error fault => refuse fault
      | .ok there =>
        if (t.node? there).isSome && !a.has 'f' then refuse .alreadyExists
        else if !isSymbolic && there == place then
          .error (quoted path ++ " and " ++ quoted target ++ " are the same file")
        else if (t.node? there).any FileNode.isDirectory then
          .error (target ++ ": cannot overwrite directory")
        else if t.isSealed there then refuse .notFound
        else .ok (t.put there node)

/-- Links files. -/
def ln : Tool := withOptions
  [plain 'b' "", plain 'f' "force", plain 'i' "interactive", plain 'L' "logical",
    plain 'n' "no-dereference", plain 'P' "physical", plain 'r' "relative", plain 's' "symbolic",
    valued 't' "target-directory", plain 'T' "no-target-directory", plain 'v' "verbose"] 1 (fun c a => do
  match a.operands with
  | [path] => forPairs c { a with operands := [path, "."] } "" fun t path target => linkOne t a path target
  | [path, target] =>
    -- A link to a directory may be replaced itself.
    let isLink := ((← Run.tree).locate false target).toOption.any fun found => match found.2 with
      | .link _ => true
      | _ => false
    let a := if a.has 'n' && isLink then { a with options := a.options ++ [('T', "")] } else a
    forPairs c { a with operands := [path, target] } "" fun t path target => linkOne t a path target
  | _ => forPairs c a "" fun t path target => linkOne t a path target) false

/-! ## Marks -/

/-- Whether a file can be run after its marks were changed as a text says, if the text is good. -/
def runnableAfter? (text : String) (before : Bool) : Option Bool :=
  if text.all fun c => '0' ≤ c && c ≤ '7' then
    if text.isEmpty then none
    else
      let bits := (text.toList.reverse.take 3).map fun c => c.toNat % 2
      some (bits.contains 1)
  else (text.splitOn ",").foldlM part before
where
  /-- Whether the file can be run after one part of the text. -/
  part (before : Bool) (text : String) : Option Bool :=
    let who := text.toList.takeWhile fun c => ['u', 'g', 'o', 'a'].contains c
    match text.toList.drop who.length with
    | sign :: what =>
      if ['=', '+', '-'].contains sign &&
          what.all fun c => ['r', 'w', 'x', 'X', 's', 't', 'u', 'g', 'o', '=', '+', '-'].contains c then
        let marks := what.contains 'x' || (what.contains 'X' && before)
        some (match sign with
          | '+' => before || marks
          | '-' => before && !(marks && (who.isEmpty || who.contains 'a' || who.contains 'u'))
          | _ => marks)
      else none
    | [] => none

/-- Changes the marks of files. -/
def chmod : Tool := fun c arguments => do
  let forms := [plain 'R' "recursive", plain 'v' "verbose", plain 'c' "changes", plain 'f' "silent",
    plain 'f' "quiet", valued '\x03' "reference"]
  -- Marks that are taken away look like options.
  let isMarks (text : String) : Bool :=
    text.startsWith "-" && 1 < text.length &&
      (text.drop 1).all fun c => ['r', 'w', 'x', 'X', 's', 't', 'u', 'g', 'o', ','].contains c
  let front := arguments.takeWhile fun text => !isMarks text
  let arguments := if front.length < arguments.length && front.all (·.startsWith "-") then
      front ++ "--" :: arguments.drop front.length
    else arguments
  withOptions forms 1 (fun c a => do
    match a.operands with
    | [] => c.misuse 1 "missing operand"
    | [mode] => c.misuse 1 ("missing operand after " ++ quoted mode)
    | mode :: paths =>
      if (runnableAfter? mode false).isNone then return ← c.misuse 1 ("invalid mode: " ++ quoted mode)
      let mark (t : FileTree) (place : List String) : FileTree :=
        match t.node? place with
        | some (.file octets runnable) =>
          t.put place (.file octets ((runnableAfter? mode runnable).getD runnable))
        | _ => t
      changeEach c (fun path => "cannot access " ++ quoted path) (fun t path => do
        let (place, _) ← t.locate true path
        let places := if a.has 'R' then (t.nodes.map (·.1)).filter (isWithin place) else [place]
        return places.foldl mark t) paths) false c arguments

/-! ## Lists -/

/-- The marks of what stands at a place. -/
def modeText : FileNode → String
  | .directory | .sealedDirectory => "drwxr-xr-x"
  | .file _ true => "-rwxr-xr-x"
  | .file _ false => "-rw-r--r--"
  | .device _ => "crw-rw-rw-"
  | .link _ => "lrwxrwxrwx"

/-- The size of what stands at a place. -/
def sizeOf : FileNode → Nat
  | .directory | .sealedDirectory => 4096
  | .file octets _ => octets.length
  | .device _ => 0
  | .link path => path.length

/-- What is added to a name in a list. -/
def markOf (a : Arguments) (node : FileNode) : String :=
  match node with
  | .directory | .sealedDirectory => if a.has 'F' || a.has 'p' then "/" else ""
  | .link _ => if a.has 'F' && !a.has 'l' then "@" else ""
  | .file _ true => if a.has 'F' then "*" else ""
  | _ => ""

/-- The lines of a list of names with what stands there. -/
def listLines (a : Arguments) (found : List (String × FileNode)) : List String :=
  let ordered := if a.has 'S' then found.mergeSort fun x y => sizeOf y.2 ≤ sizeOf x.2 else found
  let ordered := if a.has 'r' then ordered.reverse else ordered
  let width := (found.map fun (_, node) => (Numeral.decimal (sizeOf node)).length).foldl max 1
  ordered.map fun (name, node) =>
    let shown := name ++ markOf a node
    if a.has 'l' then
      modeText node ++ (if node.isDirectory then " 2" else " 1") ++ " root root " ++
        String.ofList ((Numeral.decimal (sizeOf node)).toList.leftpad width ' ') ++ " Jan  1 00:00 " ++
        shown ++ (match node with
          | .link path => " -> " ++ path
          | _ => "")
    else shown

/-- The names in a directory that are listed. -/
def listedIn (a : Arguments) (t : FileTree) (place : List String) : List (String × FileNode) :=
  let names := (t.namesIn place).filter fun name =>
    a.has 'a' || a.has 'A' || a.has 'f' || !name.startsWith "."
  let found := names.filterMap fun name => (t.node? (place ++ [name])).map (name, ·)
  (if a.has 'a' || a.has 'f' then [(".", .directory), ("..", .directory)] else []) ++ found

/-- Lists a directory, and those in it if that is asked for, with their names. The number bounds how
deep directories are nested. -/
def listDirectory (a : Arguments) (t : FileTree) : Nat → (path : String) → (place : List String) →
    List (Option String × List String)
  | 0, _, _ => []
  | n + 1, path, place =>
    let found := listedIn a t place
    let inner := if a.has 'R' then
        (found.filter fun (name, node) => node.isDirectory && name != "." && name != "..").flatMap
          fun (name, _) => listDirectory a t n (path ++ "/" ++ name) (place ++ [name])
      else []
    let total := if a.has 'l' then
        ["total " ++ Numeral.decimal ((found.map fun (_, node) => (sizeOf node + 4095) / 4096 * 4).foldl (· + ·) 0)]
      else []
    (some path, total ++ listLines a found) :: inner

/-- Lists files and directories. -/
def ls : Tool := withOptions
  ((['1', 'a', 'A', 'B', 'c', 'C', 'd', 'f', 'F', 'g', 'G', 'h', 'H', 'i', 'k', 'l', 'L', 'm', 'n', 'N',
    'o', 'p', 'q', 'Q', 'r', 'R', 's', 'S', 't', 'u', 'U', 'v', 'x', 'X', 'Z'].map (plain · "")) ++
    [plain 'a' "all", plain 'A' "almost-all", plain 'd' "directory", plain 'r' "reverse",
      plain 'R' "recursive", valued 'I' "ignore", valued 'w' "width", ⟨'\x03', "color", .optional⟩,
      valued '\x04' "sort", ⟨'F', "classify", .optional⟩]) 2 (fun c a => do
  let t ← Run.tree
  let paths := if a.operands.isEmpty then ["."] else a.operands
  let found ← paths.mapM fun path => do
    match t.locate true path, t.locate false path with
    | .ok (place, node), .ok (_, self) =>
      if node.isDirectory && !a.has 'd' then return some (path, some place, node)
      else return some (path, none, if a.has 'l' || a.has 'd' then self else node)
    | .error fault, _ | _, .error fault =>
      c.report ("cannot access " ++ quoted path ++ ": " ++ fault.reason)
      return none
  let found := found.filterMap id |>.mergeSort fun x y => decide (x.1 ≤ y.1)
  let files := found.filter (·.2.1.isNone)
  let parts := found.filterMap fun (path, place, _) => place.map (path, ·)
  let listed := parts.flatMap fun (path, place) => listDirectory a t (t.nodes.length + 1) path place
  let named := 1 < paths.length || a.has 'R'
  let first := listLines a (files.map fun (path, _, node) => (path, node))
  let joined (lines : List String) : String :=
    if a.has 'm' && !lines.isEmpty then ", ".intercalate lines ++ "\n" else String.join (lines.map (· ++ "\n"))
  let texts := listed.map fun (path, lines) =>
    (if named then (path.getD "") ++ ":\n" else "") ++ joined lines
  let front := joined first
  Run.print (if files.isEmpty then "\n".intercalate texts else "\n".intercalate (front :: texts))
  return if found.length == paths.length then 0 else 2) false

/-- The name of a kind of file. -/
def kindName : FileNode → String
  | .directory | .sealedDirectory => "directory"
  | .file [] _ => "regular empty file"
  | .file _ _ => "regular file"
  | .device _ => "character special file"
  | .link _ => "symbolic link"

/-- A form with what is known of a file put in. The number is at least that of the characters. -/
def statText (path : String) (node : FileNode) (withEscapes : Bool) : Nat → List Char → List Char
  | 0, _ | _, [] => []
  | n + 1, '%' :: c :: cs =>
    let runnable := match node with
      | .file _ runnable => runnable
      | node => node.isDirectory
    let text := match c with
      | 'n' => path
      | 's' => Numeral.decimal (sizeOf node)
      | 'F' => kindName node
      | 'A' => modeText node
      | 'a' => match node with
        | .link _ => "777"
        | .device _ => "666"
        | _ => if runnable then "755" else "644"
      | 'U' | 'G' => "root"
      | 'u' | 'g' => "0"
      | 'h' => if node.isDirectory then "2" else "1"
      | 'N' => match node with
        | .link target => quoted path ++ " -> " ++ quoted target
        | _ => quoted path
      | '%' => "%"
      | _ => "0"
    text.toList ++ statText path node withEscapes n cs
  | n + 1, '\\' :: c :: cs =>
    if withEscapes then
      (match c with
        | 'n' => '\n'
        | 't' => '\t'
        | c => c) :: statText path node withEscapes n cs
    else '\\' :: statText path node withEscapes n (c :: cs)
  | n + 1, c :: cs => c :: statText path node withEscapes n cs

/-- Prints what is known of files. -/
def stat : Tool := withOptions
  [valued 'c' "format", plain 'f' "file-system", plain 'L' "dereference", valued '\x03' "printf",
    plain 't' "terse"] 1 (fun c a => do
  if a.operands.isEmpty then return ← c.misuse 1 "missing operand"
  let t ← Run.tree
  let found ← a.operands.mapM fun path => do
    match t.locate (a.has 'L') path with
    | .error fault =>
      c.report ("cannot statx " ++ quoted path ++ ": " ++ fault.reason)
      return false
    | .ok (_, node) =>
      let text (form : String) (withEscapes : Bool) : String :=
        String.ofList (statText path node withEscapes form.length form.toList)
      match a.value? 'c', a.value? '\x03' with
      | some form, _ => Run.print (text form false ++ "\n")
      | none, some form => Run.print (text form true)
      | none, none => Run.print (text "  File: %n\n  Size: %s\t%F\nAccess: (0%a/%A)  Uid: (    0/    root)\n" false)
      return true
  return statusIf (found.all id)) false

/-- Cuts files short or makes them longer. -/
def truncate : Tool := withOptions
  [plain 'c' "no-create", plain 'o' "io-blocks", valued 'r' "reference", valued 's' "size"] 1 (fun c a => do
  match a.value? 's' with
  | none => c.misuse 1 "you must specify either '--size' or '--reference'"
  | some text =>
    let (sign, cs) := match text.toList with
      | c :: cs => if ['+', '-', '<', '>', '/', '%'].contains c then (c, cs) else ('=', c :: cs)
      | [] => ('=', [])
    match magnitude? cs with
    | none => c.fail 1 ("Invalid number: " ++ quoted text)
    | some n =>
      if a.operands.isEmpty then return ← c.misuse 1 "missing file operand"
      changeEach c (fun path => "cannot open " ++ quoted path ++ " for writing") (fun t path => do
        let place ← t.placeToWrite path
        let octets := t.octetsAt place
        let old := octets.length
        let size := match sign with
          | '+' => old + n
          | '-' => old - n
          | '<' => min old n
          | '>' => max old n
          | '/' => old / max n 1 * n
          | '%' => (old + n - 1) / max n 1 * n
          | _ => n
        if a.has 'c' && (t.node? place).isNone then return t
        if 10000000 < size then throw (.other "File too large")
        t.writeOctets place ((octets.take size).rightpad size 0)) a.operands) false

end SysReg.Shell.Tool
