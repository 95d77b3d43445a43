import SysReg.Shell.Builtin.Declaring
import SysReg.Shell.Condition
import SysReg.Shell.Form

/-!
# Commands that print and test

Printing words and forms, and asking about conditions.
-/

namespace SysReg.Shell.Builtin

/-- Prints words. -/
def echo : Builtin := succeeding fun words => do
  match (← get).dialect, words with
  | .plain, "-n" :: rest => Run.print (Escape.echo true false false rest)
  | .plain, words => Run.print (Escape.echo true false true words)
  | .extended, words =>
    let isOption (text : String) : Bool :=
      1 < text.length && text.startsWith "-" && (text.drop 1).all fun c => ['n', 'e', 'E'].contains c
    let options := words.takeWhile isOption
    let letters := options.flatMap String.toList
    let escapes := (letters.filter fun c => c == 'e' || c == 'E').getLast?.any (· == 'e') ||
      (!letters.contains 'E' && (← get).switches.contains "xpg_echo")
    Run.print (Escape.echo escapes true (!letters.contains 'n') (words.drop options.length))

/-- The words for an argument that is no good number. -/
def numberText (text : String) : NumberFault → String
  | .notNumeric => text ++ ": expected numeric value"
  | .notWhole => text ++ ": not completely converted"
  | .outOfRange => text ++ ": Numerical result out of range"

/-- The words of one kind of shell for an argument that is no good number. -/
def numberTextExtended (text : String) : NumberFault → String
  | .outOfRange => "warning: " ++ text ++ ": Numerical result out of range"
  | _ =>
    match text.toList with
    | '0' :: c :: _ =>
      text ++ (if c.isDigit then ": invalid octal number"
        else if c == 'x' then ": invalid hex number" else ": invalid number")
    | _ => text ++ ": invalid number"

/-- The text with backslashes, such that a shell reads it as it is. -/
def withBackslashes (text : String) : String :=
  if text.isEmpty then "\x27\x27"
  else if isHidden text then Expansion.quotedForShell text
  else
    String.join ((text.toList.zipIdx).map fun (c, n) =>
      if hasSigns (String.ofList ['x', c]) || (n == 0 && hasSigns c.toString) || c == ',' then
        String.ofList ['\\', c] else c.toString)

/-- What a backslash in a form stands for in one kind of shell, and what follows it. -/
def escapeAt? (cs : List Char) : Option (Char × List Char) :=
  match cs with
  | 'E' :: rest => some ('\x1b', rest)
  | '\x22' :: rest => some ('\x22', rest)
  | '\x27' :: rest => some ('\x27', rest)
  | '?' :: rest => some ('?', rest)
  | 'x' :: rest => Escape.octetAt? 16 2 rest
  | _ => Escape.simpleAt? cs

/-- The rules for forms. -/
def formRules (d : Dialect) : FormRules where
  modifiers := match d with
    | .plain => []
    | .extended => ['h', 'l', 'L', 'j', 'z', 't']
  escapeAt? := match d with
    | .plain => Escape.simpleAt?
    | .extended => escapeAt?
  argumentEscapeAt? := match d with
    | .plain => Escape.fullAt? false
    | .extended => fun cs => match cs with
      | '0' :: _ => Escape.fullAt? true cs
      | _ => escapeAt? cs
  orZero := true
  stops := false
  quoted? := match d with
    | .plain => none
    | .extended => some withBackslashes

/-- Prints a form, or sets a variable to what would be printed. -/
def printf : Builtin := fun arguments => do
  let d := (← get).dialect
  let (options, arguments) ← options [] (if d == .plain then [] else ['v']) (arguments.length + 1) arguments
  match arguments with
  | [] => if d == .plain then Run.fail (.stated "usage: printf format [arg ...]") else refuseUsage
  | form :: arguments =>
    let (printed, ending) := Form.print (formRules d) form arguments
    printed.faults.forM fun (text, fault) =>
      Run.report (.stated (match d with
        | .plain => numberText text fault
        | .extended => numberTextExtended text fault))
    let put : Run Unit := match options.getLast? with
      | none => Run.print (String.ofList printed.text)
      | some (_, target) => do
        let declared := declaredBy target
        if !isName declared.name then Run.failWith 2 (.badName target)
        Run.assign declared.name declared.key false (String.ofList printed.text)
    let isBad := printed.faults.any fun (_, fault) => d == .plain || fault != .outOfRange
    match ending with
    | none | some .stopped =>
      put
      return if isBad then 1 else 0
    | some fault =>
      -- The message comes first, since what is printed waits for the end.
      Run.report (.stated (match d, fault with
        | .plain, .badDirective text => text ++ ": invalid directive"
        | .plain, _ => "missing format character"
        | .extended, .badDirective text =>
          "\x60" ++ String.ofList (text.toList.getLast?.toList) ++ "': invalid format character"
        | .extended, .noLetter text => "\x60" ++ text ++ "': missing format character"
        | .extended, _ => ""))
      put
      Run.finish (if d == .plain then 2 else 1)
      throw .failed

/-- The variable or element that a text names has a value. -/
def isSet (p : Process) (text : String) : Run Bool := do
  let d := declaredBy text
  match d.key with
  | none =>
    return (p.parameter? text).isSome
  | some key =>
    if key == "@" || key == "*" then return !(Expansion.entriesOf p (some d.name)).isEmpty
    else
      match ← Run.keyOf? Run.evaluate d.name key with
      | some found => return (((p.content? d.name).bind (·.element? found))).isSome
      | none => return false

/-- Asks about a condition. -/
def test (closed : Bool) : Builtin := fun words => do
  let p ← get
  let d := p.dialect
  if closed && words.getLast? != some "]" then
    if d == .plain then Run.fail (.stated "missing ]") else Run.failWith 2 (.stated "missing \x60]'")
  let words := if closed then words.dropLast else words
  match d, words with
  | .extended, ["-v", name] => return if ← isSet p name then 0 else 1
  | .extended, ["!", "-v", name] => return if ← isSet p name then 1 else 0
  | .extended, ["-o", name] => return if isOn p name then 0 else 1
  | _, _ =>
    match Condition.holds d p.channels.tree words with
    | .ok holds => return if holds then 0 else 1
    | .error text => Run.failWith 2 (.stated text)

/-- Works expressions out, of which the last one decides. -/
def letValues : Builtin := fun arguments => do
  if arguments.isEmpty then Run.fail (.stated "expression expected")
  let last ← arguments.foldlM (fun _ text => Run.evaluate text) 0
  return if last == 0 then 1 else 0

end SysReg.Shell.Builtin
