import SysReg.Failure

/-!
# Trees of files

A tree of files that is held in memory, with the faults that a file system reports. Commands can be
carried out on it, and what they leave behind can be stated, without a system.

A path is the names between slashes. It is walked from the root, if it begins with a slash, or else
from the home of the tree; every name that is left behind has to be that of a directory. A link is
followed along its own path, from where it stands.
-/

namespace SysReg

/-- What stands at a place of a tree. -/
inductive FileNode where
  | directory
  /-- A directory in which nothing can be made. -/
  | sealedDirectory
  | file (octets : List Nat) (runnable : Bool)
  /-- A device, which is read as an empty file. What is written to it is lost, or refused if it has no
  room. -/
  | device (roomy : Bool)
  /-- A link to what a path leads to. -/
  | link (path : String)
  deriving DecidableEq

/-- What stands there is a directory. -/
def FileNode.isDirectory : FileNode → Bool
  | directory | sealedDirectory => true
  | _ => false

/-- A tree of files. A place is given by the names on the way to it from the root. -/
structure FileTree where
  nodes : List (List String × FileNode)
  /-- The place from which a path is walked that does not begin at the root. -/
  home : List String

namespace FileTree

/-- The most octets that a name may have. -/
def nameLimit : Nat := 255

/-- The number of octets that a path has to stay below. -/
def pathLimit : Nat := 4096

/-- The most links on the way along a path. -/
def linkLimit : Nat := 40

/-- What stands at a place; the root is always there. -/
def node? (t : FileTree) (place : List String) : Option FileNode :=
  if place = [] then some .directory else t.nodes.lookup place

/-- The tree without what stands at a place. -/
def remove (t : FileTree) (place : List String) : FileTree :=
  { t with nodes := t.nodes.filter (·.1 ≠ place) }

/-- The tree with something put at a place. -/
def put (t : FileTree) (place : List String) (n : FileNode) : FileTree :=
  { t with nodes := (place, n) :: (t.remove place).nodes }

/-! ## Walking -/

/-- The place that a name leads to from a place, where something may stand or not. -/
def enter (t : FileTree) (place : List String) (name : String) :
    Except FileFault (List String) :=
  match t.node? place with
  | none => .error .notFound
  | some n =>
    if !n.isDirectory then .error .notADirectory
    else if name = "" ∨ name = "." then .ok place
    else if name = ".." then .ok place.dropLast
    else if nameLimit < name.utf8ByteSize then .error .nameTooLong
    else .ok (place ++ [name])

/-- The names of a path. -/
def names (path : String) : List String :=
  (path.toList.splitOn '/').map String.ofList

/-- The place where the walk along a path begins that is met at a place. -/
def originAt (place : List String) (path : String) : List String :=
  if Text.startsWith ['/'] path.toList then [] else place

/-- The place that names lead to from a place. Only so many links are followed; a link at the very end
is followed if that is asked for. -/
def follow (t : FileTree) (final : Bool) (links : Nat) (place : List String) (rest : List String) :
    Except FileFault (List String) :=
  match rest with
  | [] => .ok place
  | name :: rest =>
    match t.enter place name with
    | .error fault => .error fault
    | .ok next =>
      match t.node? next with
      | some (.link path) =>
        if rest.isEmpty && !final then .ok next
        else
          match links with
          | 0 => .error .tooManyLinks
          | links + 1 => t.follow final links (originAt place path) (names path ++ rest)
      | _ => t.follow final links next rest
termination_by (links, rest.length)

/-- The place that names lead to from where a path begins. -/
def walkTo (t : FileTree) (final : Bool) (path : String) (names : List String) :
    Except FileFault (List String) :=
  if path.contains '\x00' then .error .zeroInPath
  else if path.isEmpty then .error .notFound
  else if pathLimit ≤ path.utf8ByteSize then .error .nameTooLong
  else t.follow final linkLimit (originAt t.home path) names

/-- The place that names lead to, with all links followed. -/
def walk (t : FileTree) (path : String) (names : List String) : Except FileFault (List String) :=
  t.walkTo true path names

/-- What a path leads to, and where it stands. -/
def locate (t : FileTree) (final : Bool) (path : String) :
    Except FileFault (List String × FileNode) := do
  let place ← t.walkTo final path (names path)
  match t.node? place with
  | some n => return (place, n)
  | none => throw .notFound

/-- What a path leads to. -/
def find (t : FileTree) (path : String) : Except FileFault FileNode :=
  (t.locate true path).map (·.2)

/-! ## Files -/

/-- The octets of a file. -/
def readOctets (t : FileTree) (path : String) : Except FileFault (List Nat) := do
  match ← t.find path with
  | .file octets _ => return octets
  | .device _ => return []
  | _ => throw .isADirectory

/-- The text of a file. -/
def readText (t : FileTree) (path : String) : Except FileFault String := do
  let octets ← t.readOctets path
  match String.fromUTF8? ⟨(octets.map UInt8.ofNat).toArray⟩ with
  | some text => return text
  | none => throw .invalidText

/-- The octets of a program. -/
def readProgram (t : FileTree) (path : String) : Except FileFault (List Nat) := do
  match ← t.find path with
  | .file octets true => return octets
  | _ => throw .permissionDenied

/-- The octets of a text. -/
def octetsOf (text : String) : List Nat :=
  text.toUTF8.toList.map UInt8.toNat

/-- The place of the file that a path names, for writing to it. A path that ends in a slash names no
file, whatever stands there, if only what is before its last name is a directory. -/
def placeToWrite (t : FileTree) (path : String) : Except FileFault (List String) := do
  match (names path).reverse with
  | "" :: above@(_ :: _) =>
    let _ ← t.walk path (((above.dropWhile (· = "")).drop 1).reverse ++ [""])
    throw .isADirectory
  | _ =>
    let place ← t.walk path (names path)
    if (t.node? place).any FileNode.isDirectory then throw .isADirectory
    else return place

/-- Nothing can be made at a place, because of the directory that it lies in. -/
def isSealed (t : FileTree) (place : List String) : Bool :=
  t.node? place.dropLast = some .sealedDirectory

/-- The tree after octets were written to the file at a place, which may have been run before and may
be run still. -/
def writeOctets (t : FileTree) (place : List String) (octets : List Nat) :
    Except FileFault FileTree :=
  match t.node? place with
  | some (.device roomy) => if roomy then .ok t else .error .noSpace
  | some (.file _ runnable) => .ok (t.put place (.file octets runnable))
  | some _ => .error .isADirectory
  | none => if t.isSealed place then .error .notFound else .ok (t.put place (.file octets false))

/-- The tree after a text was written to a file. -/
def writeText (t : FileTree) (path text : String) : Except FileFault FileTree := do
  t.writeOctets (← t.placeToWrite path) (octetsOf text)

/-- The tree after a file was made, unless it is there. -/
def openFile (t : FileTree) (path : String) : Except FileFault FileTree := do
  let place ← t.placeToWrite path
  if (t.node? place).isSome then return t else t.writeOctets place []

/-- The octets of the file at a place. -/
def octetsAt (t : FileTree) (place : List String) : List Nat :=
  match t.node? place with
  | some (.file octets _) => octets
  | _ => []

/-! ## Directories -/

/-- The tree after a directory was made where a walk ends. -/
def makeAt (t : FileTree) (path : String) (names : List String) : Except FileFault FileTree := do
  let place ← t.walkTo false path names
  if (t.node? place).isSome then throw .alreadyExists
  else if t.isSealed place then throw .notFound
  else return t.put place .directory

/-- The tree after a directory was made unless it is there. -/
def ensureAt (t : FileTree) (path : String) (names : List String) : Except FileFault FileTree :=
  match t.makeAt path names with
  | .error .alreadyExists =>
    match (t.walk path names).map t.node? with
    | .ok (some n) => if n.isDirectory then .ok t else .error .alreadyExists
    | _ => .error .alreadyExists
  | result => result

/-- The tree after directories were made from the bottom up, of names that are given in reverse:
what a directory lies in is made only if it is found to be missing. -/
def makeUpwards (t : FileTree) (path : String) : List String → Except FileFault FileTree
  | [] => .ok t
  | name :: above =>
    match t.ensureAt path (name :: above).reverse with
    | .error .notFound => do
      let t ← t.makeUpwards path above
      t.ensureAt path (name :: above).reverse
    | result => result

/-- The names in the directory at a place, in order. -/
def namesIn (t : FileTree) (place : List String) : List String :=
  let names := t.nodes.filterMap fun entry =>
    if entry.1.dropLast = place then entry.1.getLast? else none
  names.eraseDups.mergeSort fun a b => decide (a ≤ b)

/-- The tree after a directory was made, with all that it lies in. -/
def makeDirectory (t : FileTree) (path : String) : Except FileFault FileTree :=
  t.makeUpwards path ((names path).filter fun name => name != "" && name != ".").reverse

end FileTree
end SysReg
