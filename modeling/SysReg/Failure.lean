import SysReg.Catalog.Violation

/-!
# Failures

Everything that can go wrong in an operation on registers, by cause, with the wording of each cause
in one place.
-/

namespace SysReg

/-- Why an argument cannot be acted on. -/
inductive ArgumentFault where
  /-- Nothing was named that could supply values. -/
  | noSource
  /-- A register was to be sampled zero times. -/
  | noIterations
  /-- The bounds of a component are inverted. -/
  | emptyRange (component : Component) (low high : Nat)
  /-- A reading was to be decoded with the layout of another register. -/
  | foreignReading (reading : String) (readAt : Encoding) (definition : Definition)
  /-- There is nothing to infer from. -/
  | noReadings
  /-- Readings to infer from belong to different registers. -/
  | mixedReadings (first other : Encoding)
  /-- No reading to infer from has a value. -/
  | noSuccess (encoding : Encoding)
  /-- A term has no expansion. -/
  | unknownTerm (term : String)
  /-- A fault that a reader states in its own words. -/
  | stated (text : String)
  deriving DecidableEq

/-- The wording of an argument fault. -/
def ArgumentFault.message : ArgumentFault → String
  | noSource => "no register source: pass --pid, --core or --replay"
  | noIterations => "iterations must be at least 1"
  | emptyRange component low high =>
    component.name ++ " range " ++ Numeral.decimal low ++ "-" ++ Numeral.decimal high ++ " is empty"
  | foreignReading reading readAt definition =>
    "reading of " ++ reading ++ " (" ++ readAt.canonical ++ ") does not match definition " ++
      definition.name ++ " (" ++ definition.encoding.canonical ++ ")"
  | noReadings => "no readings to analyse"
  | mixedReadings first other =>
    "readings mix encodings " ++ first.canonical ++ " and " ++ other.canonical
  | noSuccess encoding => "no successful readings of " ++ encoding.canonical ++ " to analyse"
  | unknownTerm term => "no glossary entry for " ++ term
  | stated text => text

/-- Why a well-typed document is not a snapshot. -/
inductive SnapshotFault where
  | newerVersion (version supported : Nat)
  | repeatedRegister (name : String)
  | successWithoutValue (name : String)
  | failureWithValue (name : String)
  deriving DecidableEq, Repr

/-- The wording of a snapshot fault. -/
def SnapshotFault.message : SnapshotFault → String
  | newerVersion version supported =>
    "format version " ++ Numeral.decimal version ++ " is newer than supported version " ++
      Numeral.decimal supported
  | repeatedRegister name => "register " ++ name ++ " appears more than once"
  | successWithoutValue name => "register " ++ name ++ " is marked successful but has no value"
  | failureWithValue name => "register " ++ name ++ " is marked failed but has a value"

/-- Why a text is not a document. The causes that concern register values have a wording of their
own; all others are told by their place in the text, which is not kept. -/
inductive DocumentFault where
  /-- The text is no JSON, or a part of it is missing, repeated or of another type. -/
  | malformed
  /-- A value does not start with `0x`. -/
  | valuePrefix (text : String)
  /-- What follows `0x` in a value is not one or more hexadecimal digits. -/
  | valueDigits (text : String)
  /-- A value has too many digits for a register. -/
  | valueSize (text : String) (fault : Numeral.Fault)
  /-- The filter names no category. -/
  | category (text : String)
  /-- An encoding is not in canonical spelling. -/
  | encoding (fault : EncodingError)
  deriving DecidableEq, Repr

/-- The wording of a document fault, for the causes that have one. -/
def DocumentFault.message? : DocumentFault → Option String
  | malformed => none
  | valuePrefix text => some ("expected a 0x-prefixed hex value, found `" ++ text ++ "`")
  | valueDigits text => some ("invalid hex value `" ++ text ++ "`")
  | valueSize text fault => some ("invalid hex value `" ++ text ++ "`: " ++ fault.message)
  | category text => some (Category.unknownMessage text)
  | encoding fault => some fault.message

/-- Why a file cannot be read, written or run. -/
inductive FileFault where
  | notFound
  | permissionDenied
  | alreadyExists
  | notADirectory
  | isADirectory
  | noSpace
  | nameTooLong
  | tooManyLinks
  /-- A program is in no form that can be run. -/
  | unknownFormat
  /-- A path holds the character of code zero. -/
  | zeroInPath
  /-- The name or an argument of a program holds the character of code zero. -/
  | zeroInArgument
  | invalidText
  | other (text : String)
  deriving DecidableEq, Repr

namespace FileFault

/-- The number that the system has for a fault of its own. -/
def number? : FileFault → Option Nat
  | notFound => some 2
  | unknownFormat => some 8
  | permissionDenied => some 13
  | alreadyExists => some 17
  | notADirectory => some 20
  | isADirectory => some 21
  | noSpace => some 28
  | nameTooLong => some 36
  | tooManyLinks => some 40
  | _ => none

/-- What is wrong. -/
def reason : FileFault → String
  | notFound => "No such file or directory"
  | unknownFormat => "Exec format error"
  | permissionDenied => "Permission denied"
  | alreadyExists => "File exists"
  | notADirectory => "Not a directory"
  | isADirectory => "Is a directory"
  | noSpace => "No space left on device"
  | nameTooLong => "File name too long"
  | tooManyLinks => "Too many levels of symbolic links"
  | zeroInPath => "file name contained an unexpected NUL byte"
  | zeroInArgument => "nul byte found in provided data"
  | invalidText => "stream did not contain valid UTF-8"
  | other text => text

/-- The wording of a file fault. -/
def message (f : FileFault) : String :=
  match f.number? with
  | some n => f.reason ++ " (os error " ++ Numeral.decimal n ++ ")"
  | none => f.reason

end FileFault

/-- The cause for which an operation on registers fails. -/
inductive Failure where
  /-- A list of definitions breaks invariants of a table. -/
  | integrity (violations : List Violation)
  /-- A text is neither a name in the table nor an encoding in it. -/
  | unresolved (text : String)
  /-- A text is meant as an encoding but is none. -/
  | encoding (fault : EncodingError)
  /-- A register could not be read. -/
  | unreadable (register detail : String)
  /-- A field lies outside the bits of a register. -/
  | fieldRange (register field : String) (range : BitRange)
  | snapshot (fault : SnapshotFault)
  | argument (fault : ArgumentFault)
  | document (fault : DocumentFault)
  | file (fault : FileFault)
  deriving DecidableEq

namespace Failure

/-- The wording of a failure. -/
def message : Failure → String
  | integrity violations =>
    "catalog integrity violated by " ++ ", ".intercalate (Violation.offenders violations) ++ ": " ++
      "; ".intercalate (violations.map Violation.message)
  | unresolved text =>
    "unresolved register: `" ++ text ++ "` is neither a catalog name nor a known encoding"
  | encoding fault => "invalid encoding: " ++ fault.message
  | unreadable register detail => "failed to read " ++ register ++ ": " ++ detail
  | fieldRange register field range =>
    "field `" ++ field ++ "` of " ++ register ++ " has invalid bit range " ++ range.bounds
  | snapshot fault => "invalid snapshot: " ++ fault.message
  | argument fault => "Invalid argument: " ++ fault.message
  | document fault => "JSON error: " ++ fault.message?.getD "malformed document"
  | file fault => "IO error: " ++ fault.message

/-- What a reading records of the failure to take it: the detail of an unreadable register, and the
wording of any other failure. -/
def detail : Failure → String
  | unreadable _ detail => detail
  | failure => failure.message

end Failure
end SysReg
