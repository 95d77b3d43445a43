import SysReg.Access.Basic
import SysReg.Snapshot.Basic
import SysReg.Table

/-!
# Access to a table of answers

A table answers for each encoding with a value or a failure, and keeps a log of what it was asked. A
snapshot is replayed through the table of its readings.
-/

namespace SysReg

/-- Answers for encodings. -/
structure AnswerTable where
  answers : Table Encoding Outcome
  deriving DecidableEq

namespace AnswerTable

/-- The table without answers. -/
def empty : AnswerTable :=
  ⟨.empty⟩

/-- The table with an answer set, in place of an earlier one for the encoding. -/
def set (t : AnswerTable) (e : Encoding) (answer : Outcome) : AnswerTable :=
  ⟨t.answers.insert e answer⟩

/-- The answer for an encoding. -/
def get? (t : AnswerTable) (e : Encoding) : Option Outcome :=
  t.answers.get? e

/-- What reading an encoding gives; an encoding without an answer is not available. -/
def read (t : AnswerTable) (e : Encoding) : Except Failure Word :=
  match t.get? e with
  | some (.value w) => .ok w
  | some (.failed detail) => .error (.unreadable e.canonical detail)
  | none => .error (.unreadable e.canonical "register not available")

/-- The table of the readings; a later one counts where two are of one encoding. -/
def ofReadings (readings : List Reading) : AnswerTable :=
  readings.foldl (fun t r => t.set r.encoding r.outcome) empty

/-- The table that replays a snapshot. -/
def ofSnapshot (s : Snapshot) : AnswerTable :=
  .ofReadings s.readings

end AnswerTable

/-- A table of answers, and the encodings it was asked for, the latest first. -/
structure LoggedTable where
  table : AnswerTable
  asked : List Encoding
  deriving DecidableEq

namespace LoggedTable

/-- The encodings that were asked for, in order. -/
def log (t : LoggedTable) : List Encoding :=
  t.asked.reverse

/-- Reads an encoding and logs that it was asked for. -/
def read (e : Encoding) : StateM LoggedTable (Except Failure Word) := do
  let t ← get
  set { t with asked := e :: t.asked }
  return t.table.read e

end LoggedTable
end SysReg
