import SysReg.Text.Lower
import SysReg.Text.Quoted

/-!
# Levels, formats and events

A message has one of five levels. Messages are written as lines for people or as one JSON object a
line. Both are chosen by a word, whatever its letter case.

What is logged is a text with values beside it, from a part of the program that is called its target. An
event may fall into spans, stretches of work that have a name and values of their own; the outermost
comes first.
-/

/-! ## Levels and formats of log messages -/

namespace SysReg.Log

/-- How grave a message is, the gravest first. -/
inductive Level where
  | error
  | warn
  | info
  | debug
  | trace
  deriving DecidableEq, Repr

namespace Level

/-- Every level, the gravest first. -/
def all : List Level :=
  [error, warn, info, debug, trace]

/-- The name of a level. -/
def name : Level → String
  | error => "error"
  | warn => "warn"
  | info => "info"
  | debug => "debug"
  | trace => "trace"

/-- The place of a level, counted from one. -/
def rank : Level → Nat
  | error => 1
  | warn => 2
  | info => 3
  | debug => 4
  | trace => 5

/-- The level of a word. -/
def ofText? (word : String) : Option Level :=
  match String.ofList (Text.lower word.toList) with
  | "error" | "err" => some error
  | "warn" | "warning" => some warn
  | "info" => some info
  | "debug" | "dbg" => some debug
  | "trace" => some trace
  | _ => none

/-- The message on a word that names no level. -/
def unknownMessage (word : String) : String :=
  "Invalid log level: " ++ word ++ ". Use 'error', 'warn', 'info', 'debug', or 'trace'"

end Level

/-- How messages are written. -/
inductive Format where
  | pretty
  | json
  deriving DecidableEq, Repr

namespace Format

/-- The format of a word. -/
def ofText? (word : String) : Option Format :=
  match String.ofList (Text.lower word.toList) with
  | "pretty" | "text" => some pretty
  | "json" => some json
  | _ => none

/-- The message on a word that names no format. -/
def unknownMessage (word : String) : String :=
  "Invalid log format: " ++ word ++ ". Use 'pretty' or 'json'"

end Format

/-! ## Events -/

/-- A value beside a text. -/
inductive Value where
  /-- A text that lines for people show in quotes. -/
  | quoted (text : String)
  /-- A text that is shown as it is. -/
  | plain (text : String)
  | number (n : Nat)
  deriving DecidableEq, Repr

/-- A value in a line for people. -/
def Value.text : Value → String
  | quoted text => Text.quoted text
  | plain text => text
  | number n => Numeral.decimal n

/-- A stretch of work. -/
structure Span where
  level : Level
  target : String
  name : String
  fields : List (String × Value)
  deriving DecidableEq, Repr

/-- An event. -/
structure Event where
  level : Level
  target : String
  text : String
  fields : List (String × Value)
  spans : List Span
  deriving DecidableEq, Repr

namespace Event

/-- The names of the fields of an event; its text is one of them. -/
def fieldNames (e : Event) : List String :=
  "message" :: e.fields.map (·.1)

/-- An event that has nothing but a text. -/
def plain (level : Level) (target text : String) : Event :=
  ⟨level, target, text, [], []⟩

/-- The event inside of a span. -/
def within (e : Event) (s : Span) : Event :=
  { e with spans := s :: e.spans }

end Event
end SysReg.Log
