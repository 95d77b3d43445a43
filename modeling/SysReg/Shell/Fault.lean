import SysReg.Failure
import SysReg.Shell.Syntax

/-!
# Faults of scripts

What can go wrong while a script is carried out, and how a shell puts it. There are two kinds of shells,
which have words of their own for the same things.
-/

namespace SysReg.Shell

/-- Why a command of a script is not carried out. -/
inductive Fault where
  /-- There is no command of a name. -/
  | unknownCommand (name : String)
  /-- A program is there but cannot be run. -/
  | notRun (name : String) (fault : FileFault)
  | notOpened (path : String) (fault : FileFault)
  | notCreated (path : String) (fault : FileFault)
  | badDescriptor (text : String)
  | readOnly (name : String)
  /-- The value of a parameter is absent. -/
  | absent (name : String) (absence : Absence)
  /-- An absent value for which the script has a message. -/
  | missing (name message : String)
  | badSubstitution (text : String)
  | badName (name : String)
  | badNumber (text : String)
  | badOption (text : String)
  /-- A fault whose wording is given. -/
  | stated (text : String)

namespace Fault

/-- What is wrong with a file, with a word of its own for one that is missing. -/
def reason (missing : String) : FileFault → String
  | .notFound | .notADirectory => missing
  | fault => fault.reason

/-- The wording of a fault. -/
def text (d : Dialect) (f : Fault) : String :=
  match d, f with
  | .plain, unknownCommand name => name ++ ": not found"
  | .extended, unknownCommand name => name ++ ": command not found"
  | .plain, notRun name fault => name ++ ": " ++ reason "not found" fault
  | .extended, notRun name fault => name ++ ": " ++ fault.reason
  | .plain, notOpened path fault => "cannot open " ++ path ++ ": " ++ reason "No such file" fault
  | .plain, notCreated path fault =>
    "cannot create " ++ path ++ ": " ++ reason "Directory nonexistent" fault
  | .extended, notCreated path .alreadyExists => path ++ ": cannot overwrite existing file"
  | .extended, notOpened path fault | .extended, notCreated path fault => path ++ ": " ++ fault.reason
  | _, badDescriptor text => text ++ ": Bad file descriptor"
  | .plain, readOnly name => name ++ ": is read only"
  | .extended, readOnly name => name ++ ": readonly variable"
  | .plain, absent name .unset => name ++ ": parameter not set"
  | .plain, absent name .unsetOrEmpty => name ++ ": parameter not set or null"
  | .extended, absent name .unset => name ++ ": unbound variable"
  | .extended, absent name .unsetOrEmpty => name ++ ": parameter null or not set"
  | _, missing name message => name ++ ": " ++ message
  | .plain, badSubstitution _ => "Bad substitution"
  | .extended, badSubstitution text => text ++ ": bad substitution"
  | .plain, badName name => name ++ ": bad variable name"
  | .extended, badName name => "\x60" ++ name ++ "': not a valid identifier"
  | .plain, badNumber text => "Illegal number: " ++ text
  | .extended, badNumber text => text ++ ": numeric argument required"
  | .plain, badOption text => "Illegal option " ++ text
  | .extended, badOption text => text ++ ": invalid option"
  | _, stated text => text

end Fault
end SysReg.Shell
