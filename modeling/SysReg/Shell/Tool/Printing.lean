import SysReg.Shell.Condition
import SysReg.Shell.Escape
import SysReg.Shell.Form
import SysReg.Shell.Tool.Basic

/-!
# Tools that print and test

Printing words and forms, and asking about conditions, outside of a shell.
-/

namespace SysReg.Shell.Tool

/-- Prints words. -/
def echo : Tool := fun _ arguments => do
  let isOption (text : String) : Bool :=
    1 < text.length && text.startsWith "-" && (text.drop 1).all fun c => ['n', 'e', 'E'].contains c
  let options := arguments.takeWhile isOption
  let letters := options.flatMap String.toList
  let escapes := (letters.filter fun c => c == 'e' || c == 'E').getLast? == some 'e'
  Run.print (Escape.echo escapes true (!letters.contains 'n') (arguments.drop options.length))
  return 0

/-- The rules for forms. -/
def formRules : FormRules where
  modifiers := ['h', 'l', 'L', 'j', 'z', 't']
  escapeAt? := fun cs =>
    match cs with
    | 'x' :: rest => Escape.octetAt? 16 2 rest
    | 'c' :: _ => none
    | _ => Escape.simpleAt? cs
  argumentEscapeAt? := Escape.fullAt? true
  orZero := true
  stops := true
  quoted? := none

/-- The words for an argument that is no good number. -/
def numberText (text : String) : NumberFault → String
  | .notNumeric => quoted text ++ ": expected a numeric value"
  | .notWhole => quoted text ++ ": value not completely converted"
  | .outOfRange => quoted text ++ ": Numerical result out of range"

/-- Prints a form. -/
def printf : Tool := fun c arguments => do
  match if arguments.head? == some "--" then arguments.drop 1 else arguments with
  | [] => c.misuse 1 "missing operand"
  | form :: arguments =>
    let (printed, ending) := Form.print formRules form arguments
    printed.faults.forM fun (text, fault) => c.report (numberText text fault)
    Run.print (String.ofList printed.text)
    match ending with
    | none | some .stopped =>
      match printed.rest with
      | text :: _ =>
        if ending.isNone then
          c.report ("warning: ignoring excess arguments, starting with " ++ quoted text)
      | [] => pure ()
      return if printed.faults.isEmpty then 0 else 1
    | some (.badDirective text) => c.fail 1 (text ++ ": invalid conversion specification")
    | some (.noLetter _) => c.fail 1 "%: invalid conversion specification"

/-- Asks about a condition. -/
def test (closed : Bool) : Tool := fun c words => do
  if closed && words.getLast? != some "]" then return ← c.fail 2 "missing ']'"
  match Condition.holds .extended (← Run.tree) (if closed then words.dropLast else words) with
  | .ok holds => return if holds then 0 else 1
  | .error text =>
    let tail := ": integer expression expected"
    c.fail 2 (if text.endsWith tail then
        "invalid integer " ++ quoted (text.dropEnd tail.length).toString
      else text)

end SysReg.Shell.Tool
