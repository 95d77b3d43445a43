import SysReg.CommandLine.Verb

/-!
# Scanning arguments

Arguments have two levels: those before the verb and those after it. A level is scanned from left to
right into the values that were given for its slots. A value is checked when the next option or
operand begins, or at the end of the level, so of two faults the one that comes up first decides.

An option is written `--name value`, `--name=value`, `-x value`, `-xvalue` or `-x=value`. After `--`
every argument is an operand.
-/

namespace SysReg.CommandLine

/-- Where a value comes from; the arguments take precedence over the environment. -/
inductive Origin where
  | environment
  | arguments
  deriving DecidableEq, Repr

/-- The values that were given for slots. -/
structure Given where
  stored? : (s : Slot) → Option (Origin × s.Value)

namespace Given

/-- No value was given. -/
def nothing : Given :=
  ⟨fun _ => none⟩

/-- The value that was given for a slot. -/
def get? (g : Given) (s : Slot) : Option s.Value :=
  (g.stored? s).map (·.2)

/-- A value was given for a slot. -/
def has (g : Given) (s : Slot) : Bool :=
  (g.stored? s).isSome

/-- One value more. -/
def set (g : Given) (s : Slot) (origin : Origin) (v : s.Value) : Given :=
  ⟨fun t => if h : s = t then some (origin, h ▸ v) else g.stored? t⟩

/-- The value for an operand that has to be given. -/
def need (g : Given) (s : Slot) : Except Misuse s.Value :=
  match g.get? s with
  | some v => .ok v
  | none => .error (.missingOperand s)

/-- The values of the environment for those of the slots that have none. -/
def complete (g : Given) (env : Environment) : List Slot → Except Misuse Given
  | [] => .ok g
  | s :: rest =>
    match g.has s, s.environmentName?.bind env with
    | false, some text => do
      let v ← s.read text
      (g.set s .environment v).complete env rest
    | _, _ => g.complete env rest

/-- The values given at one level together with those of the level around it. A value of the outer
level counts only if it comes from the arguments and the inner one does not. -/
def within (inner outer : Given) : Given :=
  ⟨fun s =>
    match inner.stored? s, outer.stored? s with
    | some (.environment, _), some (.arguments, v) => some (.arguments, v)
    | some entry, _ => some entry
    | none, entry => entry⟩

end Given

/-! ## Levels -/

/-- What may stand at a level. -/
structure Level where
  options : List Slot
  operands : List Slot
  /-- A verb ends the level. -/
  leadsToVerb : Bool

namespace Level

/-- The level before the verb. -/
def outer : Level :=
  ⟨sharedOptions, [], true⟩

/-- The level after a verb. -/
def after (verb : Verb) : Level :=
  ⟨verb.options ++ sharedOptions, verb.operands, false⟩

/-- The misuse of a level by an argument that has no place there. -/
def surplus (level : Level) (literal : Bool) (text : String) : Misuse :=
  if level.leadsToVerb && !(literal && (text == "help" || (Verb.ofText? text).isSome)) then
    .unknownCommand text
  else .unknownArgument text

end Level

/-! ## Scanning a level -/

/-- A scan of a level. -/
structure Scan where
  given : Given
  /-- The option or operand that came last, with its text if that has come too. -/
  pending : Option (Slot × Option String)
  /-- The operands that may still come. -/
  operands : List Slot
  /-- All further arguments are operands. -/
  literal : Bool

namespace Scan

/-- A scan that has not begun. -/
def start (level : Level) : Scan :=
  ⟨.nothing, none, level.operands, false⟩

/-- An option waits for its value. -/
def awaitsValue (scan : Scan) : Bool :=
  scan.pending.any fun (_, text) => text.isNone

/-- Checks and keeps the value that came last. -/
def settle (scan : Scan) : Except Misuse Scan :=
  match scan.pending with
  | none => .ok scan
  | some (slot, none) => .error (.missingValue slot)
  | some (slot, some text) =>
    if scan.given.has slot then .error (.repeated slot)
    else do
      let v ← slot.read text
      return { scan with given := scan.given.set slot .arguments v, pending := none }

/-- An option begins, perhaps with its value. -/
def beginOption (scan : Scan) (slot : Slot) (text : Option String) : Except Misuse Scan := do
  let settled ← scan.settle
  let begun := { settled with pending := some (slot, text) }
  if text.isSome then begun.settle else return begun

/-- Ends the scan with a request, unless the value that came last is wrong. -/
def request (scan : Scan) (misuse : Misuse) : Except Misuse Scan := do
  let _ ← scan.settle
  throw misuse

/-- An operand. -/
def operand (scan : Scan) (level : Level) (text : String) : Except Misuse Scan :=
  match scan.operands with
  | slot :: rest => do
    let settled ← scan.settle
    return { settled with pending := some (slot, some text), operands := rest }
  | [] => .error (level.surplus scan.literal text)

/-- The name in a long option, and the value behind an equals sign. -/
def splitLong (body : List Char) : String × Option String :=
  match Text.cutAt? '=' body with
  | some (name, value) => (String.ofList name, some (String.ofList value))
  | none => (String.ofList body, none)

/-- What `--name` asks for without being an option of a slot. -/
def longRequest? (level : Level) (name : String) : Option Misuse :=
  if name = "help" then some .help
  else if name = "version" && level.leadsToVerb then some .version
  else none

/-- An option after two dashes. -/
def longOption (scan : Scan) (level : Level) (body : List Char) : Except Misuse Scan :=
  let (name, text) := splitLong body
  match longRequest? level name, text with
  | some misuse, none => scan.request misuse
  | some _, some _ => .error (.unwantedValue name)
  | none, _ =>
    match level.options.find? (·.name = name) with
    | some slot => scan.beginOption slot text
    | none => .error (.unknownArgument ("--" ++ String.ofList body))

/-- The value that is written behind the letter of an option. -/
def attached? : List Char → Option String
  | [] => none
  | '=' :: value => some (String.ofList value)
  | value => some (String.ofList value)

/-- An option after one dash. -/
def shortOption (scan : Scan) (level : Level) (letter : Char) (rest : List Char) :
    Except Misuse Scan :=
  match level.options.find? (·.letter? = some letter) with
  | some slot => scan.beginOption slot (attached? rest)
  | none =>
    if letter = 'h' then scan.request .help
    else if letter = 'V' && level.leadsToVerb then scan.request .version
    else .error (.unknownArgument (String.ofList ['-', letter]))

/-- An argument, before `--` has been met. -/
def argument (scan : Scan) (level : Level) (text : String) : Except Misuse Scan :=
  match text.toList with
  | ['-', '-'] => .ok { scan with literal := true }
  | '-' :: '-' :: body => scan.longOption level body
  | '-' :: letter :: rest => scan.shortOption level letter rest
  | _ =>
    match scan.pending with
    | some (slot, none) => .ok { scan with pending := some (slot, some text) }
    | _ => scan.operand level text

end Scan

/-- What a request for help ends with: its names have to be those of a verb, or of the request
itself, and there may be one only. -/
def helpOn : List String → Misuse
  | [] => .help
  | [name] =>
    if name = "help" || (Verb.ofText? name).isSome then .help else .unknownCommand name
  | first :: second :: _ =>
    if first = "help" || (Verb.ofText? first).isSome then .unknownCommand second
    else .unknownCommand first

/-- Scans the arguments of a level; a verb ends the level and leaves the arguments behind it. -/
def scanLevel (level : Level) (scan : Scan) :
    List String → Except Misuse (Scan × Option (Verb × List String))
  | [] => .ok (scan, none)
  | text :: rest =>
    if scan.literal then do
      let scan ← scan.operand level text
      scanLevel level scan rest
    else if level.leadsToVerb && !scan.awaitsValue && text = "help" then .error (helpOn rest)
    else
      match if level.leadsToVerb && !scan.awaitsValue then Verb.ofText? text else none with
      | some verb => .ok (scan, some (verb, rest))
      | none => do
        let scan ← scan.argument level text
        scanLevel level scan rest

end SysReg.CommandLine
