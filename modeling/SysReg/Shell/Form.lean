import SysReg.Shell.Arithmetic
import SysReg.Shell.Directive
import SysReg.Shell.Escape

/-!
# Forms

A form is printed with arguments put in, as often as there are arguments for it.
-/

namespace SysReg.Shell

/-- What is wrong with an argument that is to be a number. -/
inductive NumberFault where
  | notNumeric
  | notWhole
  | outOfRange
  deriving DecidableEq, Repr

/-- What ends a form before its end. -/
inductive FormEnd where
  /-- An escape ends all output. -/
  | stopped
  /-- The text of a directive has no letter. -/
  | noLetter (text : String)
  /-- The letter of a directive means nothing. -/
  | badDirective (text : String)
  deriving DecidableEq, Repr

/-- What differs between the commands that print forms. -/
structure FormRules where
  /-- The letters that say how long a number is. -/
  modifiers : List Char
  /-- What a backslash in the form stands for. -/
  escapeAt? : List Char → Option (Char × List Char)
  /-- What a backslash in an argument stands for. -/
  argumentEscapeAt? : List Char → Option (Char × List Char)
  /-- No character is the one with the number zero. -/
  orZero : Bool
  /-- A form that ends in `\c` ends all output. -/
  stops : Bool
  /-- The text as a shell reads it, if there is a directive for that. -/
  quoted? : Option (String → String)

/-- What is printed of a form: the text, the arguments that are no good numbers, and the arguments that
are left. -/
structure Printed where
  text : List Char
  faults : List (String × NumberFault)
  rest : List String

namespace Form

/-- A step of printing a form. -/
abbrev Step : Type → Type := ExceptT FormEnd (StateM Printed)

/-- Prints characters. -/
def put (cs : List Char) : Step Unit :=
  modify fun p => { p with text := cs.reverse ++ p.text }

/-- Takes the next argument, if there is one. -/
def next? : Step (Option String) := do
  let p ← get
  set { p with rest := p.rest.drop 1 }
  return p.rest.head?

/-- Takes the next argument as a number at its start, whose value a limit may bound. -/
def number {α : Type} (zero : α) (quoted : Char → α)
    (numberAt? : List Char → Option (α × List Char)) (bounded : α → α × Bool) : Step α := do
  match ← next? with
  | none => return zero
  | some text =>
    match text.toList with
    | [] => return zero
    | q :: cs =>
      if q == '\x27' || q == '\x22' then return quoted (cs.headD '\x00')
      match numberAt? (q :: cs) with
      | none =>
        modify fun p => { p with faults := (text, .notNumeric) :: p.faults }
        return zero
      | some (n, rest) =>
        let (n, isBounded) := bounded n
        if !rest.isEmpty then modify fun p => { p with faults := (text, .notWhole) :: p.faults }
        else if isBounded then modify fun p => { p with faults := (text, .outOfRange) :: p.faults }
        return n

/-- Takes the next argument as an integer. -/
def signed : Step Int :=
  number 0 (fun c => c.toNat) (Arithmetic.numberAt? false) fun n =>
    if Arithmetic.greatest < n then (Arithmetic.greatest, true)
    else if n < Arithmetic.least then (Arithmetic.least, true) else (n, false)

/-- Takes the next argument as a natural number, for which a negative one wraps around. -/
def unsigned : Step Nat := do
  let n ← number (0 : Int) (fun c => c.toNat) (Arithmetic.numberAt? false) fun n =>
    if 0x10000000000000000 ≤ n.natAbs then (0xffffffffffffffff, true) else (n, false)
  return (BitVec.ofInt 64 n).toNat

/-- Takes the next argument as a real number. -/
def real : Step Real :=
  number (.fraction false 0 1) (fun c => .fraction false c.toNat 1) Real.ofText? fun x =>
    match x, Real.ofFloat x.toFloat with
    | .fraction _ _ _, .infinite isNegative => (.infinite isNegative, true)
    | _, nearest => (nearest, false)

/-- Prints the next argument as a directive says. -/
def directive (rules : FormRules) (d : OpenDirective) (source : String) : Step Unit := do
  let width ← if d.width.isNone then signed else pure 0
  let precision ← if d.precision == some none then signed else pure 0
  match d.letter with
  | none => throw (.noLetter source)
  | some letter =>
    let d := Directive.ofOpen d letter width precision
    match letter with
    | 'd' | 'i' => put (d.signed (← signed))
    | 'o' | 'u' | 'x' | 'X' => put (d.unsigned (← unsigned))
    | 'e' | 'E' | 'f' | 'F' | 'g' | 'G' => put (d.real (← real))
    | 'c' => put (d.character rules.orZero ((← next?).getD "").toList)
    | 's' => put (d.text ((← next?).getD "").toList)
    | 'b' =>
      let text := ((← next?).getD "").toList
      let (found, ends) := Escape.replaced rules.argumentEscapeAt? (text.length + 1) text
      put (d.text found)
      if ends then throw .stopped
    | 'q' =>
      match rules.quoted? with
      | some quoted => put (d.text (quoted ((← next?).getD "")).toList)
      | none => throw (.badDirective source)
    | _ => throw (.badDirective source)

/-- Prints a form once. The number is at least that of the characters. -/
def once (rules : FormRules) : Nat → List Char → Step Unit
  | 0, _ | _, [] => return
  | n + 1, '\\' :: cs => do
    if rules.stops && cs.head? == some 'c' then throw .stopped
    match rules.escapeAt? cs with
    | some (c, rest) =>
      put [c]
      once rules n rest
    | none =>
      put ['\\']
      once rules n cs
  | n + 1, '%' :: '%' :: cs => do
    put ['%']
    once rules n cs
  | n + 1, '%' :: cs => do
    let (d, rest) := OpenDirective.ofChars rules.modifiers cs
    directive rules d (OpenDirective.text cs rest)
    once rules n rest
  | n + 1, c :: cs => do
    put [c]
    once rules n cs

/-- Prints a form as often as there are arguments for it. The number is greater than that of the
arguments. -/
def often (rules : FormRules) (form : List Char) : Nat → Step Unit
  | 0 => return
  | n + 1 => do
    let before := (← get).rest.length
    once rules (form.length + 1) form
    let after := (← get).rest.length
    if after == 0 || after == before then return else often rules form n

/-- What is printed of a form with arguments, and what ended it before its end. -/
def print (rules : FormRules) (form : String) (arguments : List String) :
    Printed × Option FormEnd :=
  let (result, p) := (often rules form.toList (arguments.length + 1)).run.run ⟨[], [], arguments⟩
  let p := { p with text := p.text.reverse, faults := p.faults.reverse }
  match result with
  | .ok () => (p, none)
  | .error fault => (p, some fault)

end Form
end SysReg.Shell
