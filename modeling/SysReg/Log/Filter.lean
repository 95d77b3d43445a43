import SysReg.Log.Event
import SysReg.Log.FieldValue
import SysReg.Text.Ascii
import SysReg.Text.Blank
import SysReg.Text.Search

/-!
# Filters of log messages

A filter decides by level which messages pass, for each target on its own. It is written as a list of
directives between commas: a level for all targets, the name of a target, or both with an equals
sign between them. A target stands for all targets whose names begin with its name. A directive may
also ask for a span and for a field, as in `target[span\x7bfield=value\x7d]=level`.

Of the directives that apply to an event itself the one with the longest name decides, and of those
with one name that which asks for a field. Beside these, a directive that asks for a span or for a
field lets through what falls into the spans that it applies to. A span of a level beyond all levels of
the filter does not come about at all. A filter without directives lets nothing pass.
-/

namespace SysReg.Log

/-- The least grave level that passes, or `none` if nothing does. -/
abbrev Threshold : Type := Option Level

/-- A message of the level passes. -/
def Threshold.admits (threshold : Threshold) (level : Level) : Bool :=
  threshold.any fun most => level.rank ≤ most.rank

/-- The number of levels that pass. -/
def Threshold.rank (threshold : Threshold) : Nat :=
  (threshold.map Level.rank).getD 0

/-- The threshold of a word or digit. -/
def Threshold.ofWord? (word : String) : Option Threshold :=
  match Text.fold word with
  | "off" => some none
  | folded =>
    ((Level.all.find? fun level => level.name = folded).map some).or
      (match Numeral.readBelow 10 6 word.toList with
        | .ok 0 => some none
        | .ok n => (Level.all.find? fun level => level.rank = n).map some
        | .error _ => none)

/-! ## Directives -/

/-- A field that a directive asks for, and the value that it asks for, if any. -/
structure FieldTest where
  name : String
  value : Option FieldValue
  deriving DecidableEq, Repr

/-- One rule of a filter. -/
structure Directive where
  /-- What the names of the targets begin with. -/
  target : Option String
  span : Option String
  field : Option FieldTest
  threshold : Threshold
  deriving DecidableEq, Repr

/-- Why directives cannot be read. -/
inductive DirectiveFault where
  | unreadable
  /-- A part of this directive would have to be cut inside of a character. -/
  | splitCharacter (directive : String)
  deriving DecidableEq, Repr

/-! ## Reading a directive

A directive is scanned without the blanks at its ends, but its parts are cut out of the text at the
same octets counted from its very start. Blanks in front therefore shift every cut, perhaps into a
character. -/

/-- What a scan of a directive has found, and where the part that it is in began. -/
inductive Place where
  | start
  | word (begins : Nat)
  | span (begins : Nat)
  | field (begins : Nat)
  | afterField
  | afterSpan
  | level (begins : Nat)
  deriving DecidableEq, Repr

/-- The characters of a text with the number of octets before each. -/
def octetsBefore (before : Nat) : List Char → List (Nat × Char)
  | [] => []
  | c :: cs => (before, c) :: octetsBefore (before + c.utf8Size) cs

/-- The number of octets of a text. -/
def octetCount (text : List Char) : Nat :=
  text.foldl (fun n c => n + c.utf8Size) 0

/-- A character begins at a place that is counted in octets, or the text ends there. -/
def isBoundary (text : List Char) (place : Nat) : Bool :=
  (octetsBefore 0 text).any (·.1 == place) || octetCount text == place

/-- The part of a text from one place to another, counted in octets. -/
def cut (text : List Char) (first last : Nat) : Except DirectiveFault (List Char) :=
  if isBoundary text first && isBoundary text last then
    .ok (((octetsBefore 0 text).filter fun entry => first ≤ entry.1 && entry.1 < last).map (·.2))
  else .error (.splitCharacter (String.ofList text))

/-- The part of a text from a place on. -/
def cutFrom (text : List Char) (first : Nat) : Except DirectiveFault String :=
  (cut text first (octetCount text)).map String.ofList

/-- A part that can be read, or else none. -/
def readable {α : Type} : Option α → Except DirectiveFault α
  | some a => .ok a
  | none => .error .unreadable

/-- The test of a field; its value has to be a truth value, a number or a pattern. -/
def FieldTest.ofText? (text : List Char) : Option FieldTest :=
  match text.splitOn '=' with
  | name :: value :: _ =>
    if text.isEmpty then none
    else (FieldValue.ofText? value).map fun value => ⟨String.ofList name, some value⟩
  | [name] => if name.isEmpty then none else some ⟨String.ofList name, none⟩
  | [] => none

namespace Directive

/-- The directive that lets everything pass. -/
def everything : Directive :=
  ⟨none, none, none, some .trace⟩

/-- A threshold for all targets. -/
def everywhere (threshold : Threshold) : Directive :=
  ⟨none, none, none, threshold⟩

/-- A character that may begin a directive. -/
def mayBegin (c : Char) : Bool :=
  c == '-' || c == ':' || c == '_' || Text.isAlphanumeric c

/-- The place after a character, which stands where the number says, and what is known then. -/
def step (text : List Char) (d : Directive) :
    Place → Nat × Char → Except DirectiveFault (Place × Directive)
  | .start, (n, c) =>
    if c = '[' then .ok (.span (n + 1), d)
    else if mayBegin c then .ok (.word n, d)
    else .error .unreadable
  | .word begins, (n, c) =>
    if c = '=' ∨ c = '[' then do
      let named := { d with target := some (String.ofList (← cut text begins n)) }
      return (if c = '=' then .level (n + 1) else .span (n + 1), named)
    else .ok (.word begins, d)
  | .span begins, (n, c) =>
    if c = ']' then do
      return (.afterSpan, { d with span := some (String.ofList (← cut text begins n)) })
    else if c = '\x7b' then do
      let name ← cut text begins n
      return (.field (n + 1),
        { d with span := if name.isEmpty then none else some (String.ofList name) })
    else .ok (.span begins, d)
  | .field begins, (n, c) =>
    if c = '\x7d' then do
      let test ← readable (FieldTest.ofText? (← cut text begins n))
      return (.afterField, { d with field := some test })
    else .ok (.field begins, d)
  | .afterField, (_, c) => if c = ']' then .ok (.afterSpan, d) else .error .unreadable
  | .afterSpan, (n, c) => if c = '=' then .ok (.level (n + 1), d) else .error .unreadable
  | .level begins, _ => .ok (.level begins, d)

/-- What is known after a list of characters. -/
def scan (text : List Char) (place : Place) (d : Directive) :
    List (Nat × Char) → Except DirectiveFault (Place × Directive)
  | [] => .ok (place, d)
  | entry :: rest => (step text d place entry).bind fun (place, d) => scan text place d rest

/-- A word that stands alone: a threshold, or else the name of a target. -/
def ofWord (word : String) : Directive :=
  match Threshold.ofWord? word with
  | some threshold => everywhere threshold
  | none => { everything with target := some word }

/-- The directive of a text whose scan ended at a place. -/
def finish (text : List Char) (place : Place) (d : Directive) : Except DirectiveFault Directive :=
  match place with
  | .word begins => (cutFrom text begins).map ofWord
  | .level begins => do
    match ← cutFrom text begins with
    | "" => return d
    | word => (readable (Threshold.ofWord? word)).map fun threshold => { d with threshold }
  | .afterSpan => .ok d
  | _ => .error .unreadable

/-- The directive of a text. -/
def ofText (text : List Char) : Except DirectiveFault Directive := do
  let (place, d) ← scan text .start everything (octetsBefore 0 (Text.trim text))
  finish text place d

/-! ## What a directive applies to -/

/-- The directive looks at targets that begin with its name. -/
def coversTarget (d : Directive) (target : String) : Bool :=
  d.target.all fun name => Text.startsWith name.toList target.toList

/-- The field that the directive asks for, if any, is one of those. -/
def coversFields (d : Directive) (names : List String) : Bool :=
  d.field.all fun test => names.contains test.name

/-- The directive can decide on its own, without a span or the value of a field. -/
def isPlain (d : Directive) : Bool :=
  d.span.isNone && d.field.all (·.value.isNone)

/-- The directive looks at spans. -/
def looksAtSpans (d : Directive) : Bool :=
  d.span.isSome || d.field.isSome

/-- The directive applies to an event itself. -/
def appliesTo (d : Directive) (e : Event) : Bool :=
  d.isPlain && d.coversTarget e.target && d.coversFields e.fieldNames

/-- The directive applies to spans like this one, whatever the values of its fields. -/
def appliesWithin (d : Directive) (s : Span) : Bool :=
  d.looksAtSpans && d.span.all (· == s.name) && d.coversTarget s.target &&
    d.coversFields (s.fields.map (·.1))

/-- The field of the span has the value that the directive asks for, if it does. -/
def agreesWith (d : Directive) (s : Span) : Bool :=
  d.field.all fun test =>
    test.value.all fun value => s.fields.any fun field => field.1 == test.name && value.isOf field.2

/-- The directive tells by itself whether a span comes about. -/
def decidesOn (d : Directive) (s : Span) : Bool :=
  d.isPlain && d.coversTarget s.target

/-- Two directives ask for the same. -/
def asksLike (d e : Directive) : Bool :=
  d.target == e.target && d.span == e.span && d.field == e.field

/-- The length of the name of the target that the directive asks for, none being the shortest. -/
def targetLength (d : Directive) : Nat :=
  (d.target.map fun name => name.utf8ByteSize + 1).getD 0

/-- One plain directive is as particular as another or more so: the longer its target, then if it asks
for a field, and then the later in the order of words its target and its field. -/
def isAsParticular (d e : Directive) : Bool :=
  let key (d : Directive) : List String := [d.target.getD "", (d.field.map FieldTest.name).getD ""]
  if d.targetLength ≠ e.targetLength then e.targetLength < d.targetLength
  else if d.field.isSome ≠ e.field.isSome then d.field.isSome
  else !decide (key d < key e)

end Directive

/-- The directives of a filter, in order. -/
structure Filter where
  directives : List Directive
  deriving DecidableEq, Repr

namespace Filter

/-- The filter with one threshold for all targets. -/
def uniform (threshold : Threshold) : Filter :=
  ⟨[.everywhere threshold]⟩

/-- The filter of a text, if each of its directives can be read. -/
def ofText (text : String) : Except DirectiveFault Filter :=
  let parts := (text.toList.splitOn ',').filter fun part => !part.isEmpty
  (parts.mapM Directive.ofText).map Filter.mk

/-- The threshold of the most particular of some directives, and of two that ask for the same that of
the later. -/
def threshold (directives : List Directive) : Threshold :=
  (directives.foldl
    (fun (best : Option Directive) d => if best.all d.isAsParticular then some d else best)
    none).bind Directive.threshold

/-- The number of levels that the filter can let pass at all. -/
def reach (f : Filter) : Nat :=
  if f.directives.any fun d => d.field.any (·.value.isSome) then Level.trace.rank
  else (f.directives.map (·.threshold.rank)).foldl max 0

/-- The directives that apply to a span, of those that ask for the same only the last. -/
def within (f : Filter) (s : Span) : List Directive :=
  (f.directives.foldr
    (fun d (later : List Directive) => if later.any d.asksLike then later else d :: later)
    []).filter (·.appliesWithin s)

/-- A span comes about and is shown with what falls into it. -/
def shows (f : Filter) (s : Span) : Bool :=
  s.level.rank ≤ f.reach &&
    ((threshold (f.directives.filter (·.decidesOn s))).admits s.level || !(f.within s).isEmpty)

/-- What falls into a span passes because of it. -/
def opens (f : Filter) (s : Span) (level : Level) : Bool :=
  f.shows s && (f.within s).any fun d => d.agreesWith s && d.threshold.admits level

/-- An event passes. -/
def passes (f : Filter) (e : Event) : Bool :=
  (threshold (f.directives.filter (·.appliesTo e))).admits e.level ||
    e.spans.any fun s => f.opens s e.level

/-- The filter in use: a level that was asked for, or else the directives of the environment.
Without either, or if the directives cannot be read, warnings and errors pass. If a part of a directive
would have to be cut inside of a character, that directive is the fault. -/
def choose (level : Option Level) (directives : Option String) : Except String Filter :=
  match level, directives with
  | some level, _ => .ok (uniform (some level))
  | none, none => .ok (uniform (some .warn))
  | none, some text =>
    match ofText text with
    | .ok filter => .ok filter
    | .error .unreadable => .ok (uniform (some .warn))
    | .error (.splitCharacter directive) => .error directive

end Filter
end SysReg.Log
