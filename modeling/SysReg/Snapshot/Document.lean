import SysReg.Json.Source
import SysReg.Json.Value
import SysReg.Snapshot.Basic
import SysReg.Time.Text

/-!
# Snapshot documents

A snapshot is kept as a JSON document. `Snapshot.text` writes it and `Snapshot.ofText` reads it.

Reading has two stages. The text is first read as a `Document`, front to back, and the first problem
decides: the text is no JSON, a part is missing, repeated or of another type, or a value, category
or encoding is misspelt. Unknown keys are passed over. Objects may also be written as arrays of their
parts. The document is then checked as a whole: its version, each record's outcome, and that no name
repeats.
-/

namespace SysReg

/-- The version of the documents that are written, and the newest that is read. -/
def documentVersion : Nat := 1

/-- The record of a reading in a document. -/
structure Record where
  name : String
  encoding : Encoding
  value : Option Word
  success : Bool
  time : Time
  error : Option String
  deriving DecidableEq

/-- The parts of a document. -/
structure Document where
  version : Nat
  label : String
  filter : Option Category
  createdAt : Time
  records : List Record
  deriving DecidableEq

/-! ## Writing -/

namespace Record

/-- The record of a reading. -/
def ofReading (r : Reading) : Record :=
  ⟨r.name, r.encoding, r.value?, r.succeeded, r.time, r.detail?⟩

/-- The object of a record; the error is left out if there is none. -/
def json (r : Record) : Json :=
  .object
    ([("name", .string r.name), ("encoding", .string r.encoding.canonical),
      ("value", .optionalString (r.value.map Word.padded)), ("success", .bool r.success),
      ("timestamp", .string r.time.zuluText)] ++
      Json.optionalMember "error" (r.error.map .string))

end Record

namespace Document

/-- The document of a snapshot. -/
def ofSnapshot (s : Snapshot) : Document :=
  ⟨documentVersion, s.label, s.filter, s.createdAt, s.readings.map .ofReading⟩

/-- The object of a document. -/
def json (d : Document) : Json :=
  .object
    [("format_version", .number d.version), ("label", .string d.label),
      ("category_filter", .optionalString (d.filter.map Category.name)),
      ("created_at", .string d.createdAt.zuluText),
      ("registers", .array (d.records.map Record.json))]

end Document

/-- The document of a snapshot as a text. -/
def Snapshot.text (s : Snapshot) : String :=
  (Document.ofSnapshot s).json.text

/-! ## Reading the parts -/

namespace Document

open Json (Source)

/-- The result of reading a part of a document. -/
abbrev Result (α : Type) : Type := Except DocumentFault α

/-- A text. -/
def readText : Source → Result String
  | .string (some cs) => .ok (String.ofList cs)
  | _ => .error .malformed

/-- A truth value. -/
def readBool : Source → Result Bool
  | .bool b => .ok b
  | _ => .error .malformed

/-- Something, or `null`. -/
def readOptional {α : Type} (read : Source → Result α) : Source → Result (Option α)
  | .null => .ok none
  | source => (read source).map some

/-- A version: an unsigned integer of 32 bits, written without fraction and exponent. -/
def readVersion : Source → Result Nat
  | .number literal =>
    if literal.all Char.isDigit && Nat.ofDigitChars 10 literal 0 < 0x100000000 then
      .ok (Nat.ofDigitChars 10 literal 0)
    else .error .malformed
  | _ => .error .malformed

/-- The name of a category. -/
def readCategory (source : Source) : Result Category := do
  let text ← readText source
  match Category.ofText? text with
  | some category => .ok category
  | none => .error (.category text)

/-- An encoding in canonical spelling. -/
def readEncoding (source : Source) : Result Encoding := do
  let text ← readText source
  (Encoding.ofCanonical text).mapError .encoding

/-- A time. -/
def readTime (source : Source) : Result Time := do
  let text ← readText source
  match Time.ofText? text with
  | some time => .ok time
  | none => .error .malformed

/-- What follows `0x` or `0X`. -/
def hexBody? : List Char → Option (List Char)
  | '0' :: 'x' :: cs | '0' :: 'X' :: cs => some cs
  | _ => none

/-- The value that a text spells: `0x` and one or more hexadecimal digits, without a sign. -/
def wordOfText (text : String) : Result Word :=
  match hexBody? text.toList with
  | none => .error (.valuePrefix text)
  | some digits =>
    if digits.isEmpty || !digits.all Numeral.isHexDigit then .error (.valueDigits text)
    else (Word.ofNumeral 16 digits).mapError (.valueSize text)

/-- The value of a register. -/
def readWord (source : Source) : Result Word := do
  let text ← readText source
  wordOfText text

/-! ## Reading objects -/

/-- Fills a place that is still free. -/
def fill {α : Type} (place : Option α) (value : Result α) : Result (Option α) :=
  match place with
  | some _ => .error .malformed
  | none => value.map some

/-- What a place was filled with. -/
def filled {α : Type} : Option α → Result α
  | some a => .ok a
  | none => .error .malformed

/-- A value that is passed over only has to be JSON. -/
def passOver {α : Type} (parts : α) (source : Source) : Result α :=
  if source.isWhole then .ok parts else .error .malformed

/-- The parts of a record that were met so far. -/
structure RecordParts where
  name : Option String
  encoding : Option Encoding
  value : Option (Option Word)
  success : Option Bool
  time : Option Time
  error : Option (Option String)

namespace RecordParts

/-- No part was met. -/
def empty : RecordParts :=
  ⟨none, none, none, none, none, none⟩

/-- One member more. -/
def add (parts : RecordParts) (key : String) (source : Source) : Result RecordParts :=
  match key with
  | "name" => do return { parts with name := ← fill parts.name (readText source) }
  | "encoding" => do return { parts with encoding := ← fill parts.encoding (readEncoding source) }
  | "value" => do return { parts with value := ← fill parts.value (readOptional readWord source) }
  | "success" => do return { parts with success := ← fill parts.success (readBool source) }
  | "timestamp" => do return { parts with time := ← fill parts.time (readTime source) }
  | "error" => do return { parts with error := ← fill parts.error (readOptional readText source) }
  | _ => passOver parts source

/-- The record whose parts were all met; only the error may be missing. -/
def finish (parts : RecordParts) : Result Record := do
  return ⟨← filled parts.name, ← filled parts.encoding, ← filled parts.value,
    ← filled parts.success, ← filled parts.time, parts.error.getD none⟩

end RecordParts

/-- Adds the members of an object, front to back; a key has to be usable. -/
def addMembers {α : Type} (add : α → String → Source → Result α) (parts : α) :
    List (Option (List Char) × Source) → Result α
  | [] => .ok parts
  | (some key, source) :: members => do
    let parts ← add parts (String.ofList key) source
    addMembers add parts members
  | (none, _) :: _ => .error .malformed

/-- The part at a position of an array. -/
def readItem {α : Type} (items : List Source) (position : Nat) (read : Source → Result α) :
    Result α :=
  match items[position]? with
  | some source => read source
  | none => .error .malformed

/-- A record, as an object or as the array of its parts, of which the error may be left off. -/
def readRecord : Source → Result Record
  | .object members => do
    let parts ← addMembers RecordParts.add .empty members
    parts.finish
  | .array items => do
    let name ← readItem items 0 readText
    let encoding ← readItem items 1 readEncoding
    let value ← readItem items 2 (readOptional readWord)
    let success ← readItem items 3 readBool
    let time ← readItem items 4 readTime
    let error ← if items.length ≤ 5 then pure none else readItem items 5 (readOptional readText)
    if items.length ≤ 6 then return ⟨name, encoding, value, success, time, error⟩
    else throw .malformed
  | _ => .error .malformed

/-- The records of a document. -/
def readRecords : Source → Result (List Record)
  | .array items => items.mapM readRecord
  | _ => .error .malformed

/-- The parts of a document that were met so far. -/
structure Parts where
  version : Option Nat
  label : Option String
  filter : Option (Option Category)
  createdAt : Option Time
  records : Option (List Record)

namespace Parts

/-- No part was met. -/
def empty : Parts :=
  ⟨none, none, none, none, none⟩

/-- One member more. -/
def add (parts : Parts) (key : String) (source : Source) : Result Parts :=
  match key with
  | "format_version" => do
    return { parts with version := ← fill parts.version (readVersion source) }
  | "label" => do return { parts with label := ← fill parts.label (readText source) }
  | "category_filter" => do
    return { parts with filter := ← fill parts.filter (readOptional readCategory source) }
  | "created_at" => do return { parts with createdAt := ← fill parts.createdAt (readTime source) }
  | "registers" => do return { parts with records := ← fill parts.records (readRecords source) }
  | _ => passOver parts source

/-- The document whose parts were all met; a missing version is the present one. -/
def finish (parts : Parts) : Result Document := do
  return ⟨parts.version.getD documentVersion, ← filled parts.label, ← filled parts.filter,
    ← filled parts.createdAt, ← filled parts.records⟩

end Parts

/-- A document, as an object or as the array of its parts. -/
def ofSource : Source → Result Document
  | .object members => do
    let parts ← addMembers Parts.add .empty members
    parts.finish
  | .array items => do
    let version ← readItem items 0 readVersion
    let label ← readItem items 1 readText
    let filter ← readItem items 2 (readOptional readCategory)
    let createdAt ← readItem items 3 readTime
    let records ← readItem items 4 readRecords
    if items.length ≤ 5 then return ⟨version, label, filter, createdAt, records⟩
    else throw .malformed
  | _ => .error .malformed

/-- The document of a text, after which only blanks may follow. -/
def ofText (text : String) : Result Document := do
  let (root, ended) := Source.ofText text.toList
  let document ← ofSource root
  if ended then return document else throw .malformed

end Document

/-! ## Checking the whole -/

/-- The detail of a failed reading whose record gives none. -/
def defaultDetail : String := "read failed"

/-- The reading of a record, whose outcome has to agree with its value. -/
def Record.reading (r : Record) : Except SnapshotFault Reading :=
  match r.success, r.value with
  | true, some w => .ok ⟨r.name, r.encoding, r.time, .value w⟩
  | false, none => .ok ⟨r.name, r.encoding, r.time, .failed (r.error.getD defaultDetail)⟩
  | true, none => .error (.successWithoutValue r.name)
  | false, some _ => .error (.failureWithValue r.name)

namespace Snapshot

/-- The snapshot with the reading of one record more. -/
def pushRecord (s : Snapshot) (r : Record) : Except Failure Snapshot := do
  let reading ← r.reading.mapError .snapshot
  s.push? reading

/-- The snapshot of a document. -/
def ofDocument (d : Document) : Except Failure Snapshot :=
  if d.version ≤ documentVersion then
    d.records.foldlM pushRecord (.empty d.label d.filter d.createdAt)
  else .error (.snapshot (.newerVersion d.version documentVersion))

/-- The snapshot of a text. -/
def ofText (text : String) : Except Failure Snapshot := do
  let document ← (Document.ofText text).mapError .document
  ofDocument document

end Snapshot
end SysReg
