import SysReg.Json.Value
import SysReg.Log.Setup
import SysReg.Text.Column
import SysReg.Time.Text

/-!
# Log messages

A message is an event at a time. One that passes the filter is written for people, with the values
behind the text as `name=value`, or as a JSON object on one line.
-/

namespace SysReg.Log

/-- A message. -/
structure Message where
  time : Time
  event : Event
  deriving DecidableEq

namespace Message

/-- The spelling of a level in a line. -/
def levelText (level : Level) : String :=
  String.ofList (Text.asciiUpper level.name.toList)

/-! ## Lines for people -/

/-- The values of fields, behind their names. -/
def fieldsText (fields : List (String × Value)) : List String :=
  fields.map fun (name, value) => name ++ "=" ++ value.text

/-- A span in front of a message. -/
def spanText (s : Span) : String :=
  s.name ++ (if s.fields.isEmpty then "" else "\x7b" ++ " ".intercalate (fieldsText s.fields) ++ "\x7d") ++
    ":"

/-- The line of a message, in front of which some of its spans are shown. -/
def prettyLine (m : Message) (spans : List Span) : String :=
  m.time.offsetText ++ " " ++ Text.padLeft 5 (levelText m.event.level) ++ " " ++
    (if spans.isEmpty then "" else String.join (spans.map spanText) ++ " ") ++ m.event.target ++ ": " ++
    " ".intercalate (m.event.text :: fieldsText m.event.fields)

/-! ## Objects -/

/-- A text in JSON. -/
def textJson (s : String) : String :=
  String.ofList (Json.quote s.toList)

/-- A value in JSON. -/
def valueJson : Value → String
  | .quoted text | .plain text => textJson text
  | .number n => Numeral.decimal n

/-- An object on one line. -/
def objectJson (members : List (String × String)) : String :=
  "\x7b" ++ ",".intercalate (members.map fun (name, value) => textJson name ++ ":" ++ value) ++ "\x7d"

/-- The values of fields in JSON. -/
def fieldsJson (fields : List (String × Value)) : List (String × String) :=
  fields.map fun (name, value) => (name, valueJson value)

/-- A span in JSON. -/
def spanJson (s : Span) : String :=
  objectJson (fieldsJson s.fields ++ [("name", textJson s.name)])

/-- The members for the spans around a message: the innermost, and all. -/
def spansJson (spans : List Span) : List (String × String) :=
  match spans.getLast? with
  | none => []
  | some inner =>
    [("span", spanJson inner), ("spans", "[" ++ ",".intercalate (spans.map spanJson) ++ "]")]

/-- The object of a message, with some of its spans. -/
def jsonLine (m : Message) (spans : List Span) : String :=
  objectJson
    ([("timestamp", textJson m.time.offsetText), ("level", textJson (levelText m.event.level)),
      ("fields", objectJson (("message", textJson m.event.text) :: fieldsJson m.event.fields)),
      ("target", textJson m.event.target)] ++ spansJson spans)

/-- The line of a message, with some of its spans. -/
def line (m : Message) (spans : List Span) : Format → String
  | .pretty => m.prettyLine spans
  | .json => m.jsonLine spans

end Message

/-- The line that a set-up writes for a message, if the message passes. -/
def Setup.line? (setup : Setup) (m : Message) : Option String :=
  if setup.filter.passes m.event then
    some (m.line (m.event.spans.filter setup.filter.shows) setup.format)
  else none

end SysReg.Log
