import SysReg.Rehearsal.Basic
import SysReg.Shell.Program

/-!
# Rehearsals with scripts

A host on which a script can stand in for the debugger. Nothing but this host has to do with what scripts
are made of.
-/

namespace SysReg

/-- The host of scripts, with the shells and tools that these call. -/
def Host.scripts : Host where
  places := Shell.Program.directories.flatMap fun place =>
    Shell.Program.names.map fun name => place ++ [name]
  run tree environment program arguments :=
    let octets (text : String) : String := Shell.textOfOctets (FileTree.octetsOf text)
    Shell.runProgram tree (environment.map fun (name, value) => (name, octets value)) program
      (arguments.map octets)

namespace Rehearsal

/-- The files of a rehearsal with scripts. -/
def treeOf (files : List (String × FileNode)) : FileTree :=
  Host.scripts.treeOf files

/-- The start of a rehearsal with scripts. -/
def start (files : List (String × FileNode)) (environment : List (String × String)) : Rehearsal :=
  Host.scripts.start files environment

end Rehearsal
end SysReg
