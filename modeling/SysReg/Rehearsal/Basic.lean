import SysReg.CommandLine.Execution
import SysReg.FileTree
import SysReg.Log.Message

/-!
# Worlds in memory

A world that is held in memory. Commands act on a tree of files in it, no time passes, and what is
printed and logged is kept. What a command does can thus be stated without a system.

Which programs there are, and what comes of running one, is a parameter: a `Host` takes the files, runs
the program to its end and gives the files back.
-/

namespace SysReg

open CommandLine

/-- The programs beside the files, and what comes of running one. -/
structure Host where
  /-- The places where programs always stand. -/
  places : List (List String)
  /-- Runs a program with arguments on the files, in an environment: what it prints and how it ends, or
  why it cannot be run, and the files after it. -/
  run : FileTree → List (String × String) → String → List String → Except FileFault Finished × FileTree

/-- A world in memory. -/
structure Rehearsal where
  host : Host
  tree : FileTree
  out : String
  err : String
  environment : List (String × String)
  /-- How messages are logged, if they are. -/
  setup : Option Log.Setup

namespace Host

/-- The directories that are always there. -/
def directories : List String :=
  ["bin", "dev", "etc", "home", "lib", "root", "scratch", "sys", "tmp", "usr", "var"]

/-- The devices that are always there. -/
def devices : List (List String × FileNode) :=
  (["dev", "full"], .device false) ::
    ["null", "random", "stderr", "stdin", "stdout", "tty", "urandom", "zero"].map fun name =>
      (["dev", name], .device true)

/-- A tree with files in the directory where it is at home, and what is always there. -/
def treeOf (h : Host) (files : List (String × FileNode)) : FileTree where
  nodes := files.map (fun (name, node) => ("scratch" :: FileTree.names name, node)) ++
    directories.map (fun name => ([name], .directory)) ++
    [["proc"], ["proc", "self"], ["proc", "self", "fd"], ["dev", "fd"]].map (·, .sealedDirectory) ++
    (["usr", "bin"], .directory) :: devices ++ h.places.map fun place => (place, .file [] true)
  home := ["scratch"]

/-- The start of a rehearsal with files and an environment. -/
def start (h : Host) (files : List (String × FileNode)) (environment : List (String × String)) :
    Rehearsal :=
  ⟨h, h.treeOf files, "", "", environment, none⟩

end Host

namespace Rehearsal

/-- The environment as the program sees it. -/
def given (r : Rehearsal) : Environment := fun name =>
  r.environment.lookup name

/-- An action that looks at the files. -/
def look {α : Type} (f : FileTree → Except FileFault α) : StateM Rehearsal (Except FileFault α) := do
  return f (← get).tree

/-- An action that changes the files, if it succeeds. -/
def change (f : FileTree → Except FileFault FileTree) :
    StateM Rehearsal (Except FileFault Unit) := do
  match f (← get).tree with
  | .error fault => return .error fault
  | .ok tree =>
    modify fun r => { r with tree }
    return .ok ()

/-- Makes a directory with those it lies in. -/
def makeDirectory (path : String) : StateM Rehearsal (Except FileFault Unit) :=
  change fun t => t.makeDirectory path

/-- Makes an empty file, unless it is there. -/
def openFile (path : String) : StateM Rehearsal (Except FileFault Unit) :=
  change fun t => t.openFile path

/-- Runs a program to its end. -/
def run (program : String) (arguments : List String) :
    StateM Rehearsal (Except FileFault Finished) := do
  if (program :: arguments).any (·.contains '\x00') then return .error .zeroInArgument
  let r ← get
  let (result, tree) := r.host.run r.tree r.environment program arguments
  set { r with tree }
  return result

/-- Writes to the error output. -/
def complain (text : String) : StateM Rehearsal Unit :=
  modify fun r => { r with err := r.err ++ text }

/-- Writes the line of an event to the error output, if events are logged and this one passes. -/
def log (e : Log.Event) : StateM Rehearsal Unit := do
  match (← get).setup.bind fun setup => setup.line? ⟨.epoch, e⟩ with
  | some line => complain (line ++ "\n")
  | none => return

/-- The world of a rehearsal. -/
def world : World (StateM Rehearsal) where
  now := return .epoch
  pause _ := return
  readFile path := look fun t => t.readText path
  writeFile path content := change fun t => t.writeText path content
  makeDirectory := makeDirectory
  openFile := openFile
  run := run
  print text := modify fun r => { r with out := r.out ++ text }
  complain := complain
  log := log

/-- Rehearses the program: its exit status, and the world after it. -/
def ofProgram (r : Rehearsal) (arguments : List String) : Nat × Rehearsal :=
  (world.program (fun setup => modify fun r => { r with setup := some setup }) r.given
    arguments).run r

end Rehearsal
end SysReg
