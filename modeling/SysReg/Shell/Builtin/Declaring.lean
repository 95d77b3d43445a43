import SysReg.Shell.Builtin.Variables
import SysReg.Shell.Expansion

/-!
# Declaring

In one kind of shell variables have more marks and may be lists, and all commands that declare them are
one.
-/

namespace SysReg.Shell.Builtin

/-! ## Showing variables -/

/-- A shell reads the text as something else. -/
def hasSigns (text : String) : Bool :=
  let cs := text.toList
  cs.head?.any (fun c => c == '#' || c == '~') ||
    cs.any fun c => [' ', '\t', '\n', '\x27', '\x22', '\\', '|', '&', ';', '(', ')', '<', '>', '!', '\x7b', '\x7d',
      '*', '[', '?', ']', '^', '$', '\x60'].contains c

/-- Not all characters of the text can be shown. -/
def isHidden (text : String) : Bool :=
  text.toList.any fun c => c < ' ' || '~' < c

/-- The text between double quotes. -/
def inDoubleQuotes (text : String) : String :=
  if isHidden text then Expansion.quotedForShell text
  else
    "\x22" ++ String.join (text.toList.map fun c =>
      if ['\x22', '\\', '$', '\x60'].contains c then String.ofList ['\\', c] else c.toString) ++ "\x22"

/-- The text with quotes only if it needs them. -/
def inQuotesIfNeeded (text : String) : String :=
  if text.isEmpty then "\x27\x27"
  else if isHidden text || hasSigns text then Expansion.quotedForShell text
  else text

/-- What a variable holds, as it is declared. -/
def shownContent : Content → String
  | .text value => inDoubleQuotes value
  | .list elements =>
    "(" ++ " ".intercalate (elements.map fun (n, value) =>
      "[" ++ Numeral.decimal n ++ "]=" ++ inDoubleQuotes value) ++ ")"
  | .table elements =>
    "(" ++ String.join ((Content.table elements).entries.map fun (key, value) =>
      "[" ++ (if hasSigns key then inDoubleQuotes key else key) ++ "]=" ++ inDoubleQuotes value ++ " ") ++ ")"

/-- A variable as it is declared. -/
def declaration (name : String) (v : Variable) : String :=
  "declare -" ++ (if v.marks.isEmpty then "-" else String.ofList v.marks) ++ " " ++ name ++
    ((v.content.map fun content => "=" ++ shownContent content).getD "") ++ "\n"

/-! ## Declaring variables -/

/-- The letters of options that are set and taken back, and the arguments behind them. The number is at
least that of the arguments. -/
def signedLetters (known : String) : Nat → List String → Run (List Char × List Char × List String)
  | 0, arguments => return ([], [], arguments)
  | _, [] => return ([], [], [])
  | n + 1, argument :: rest => do
    match argument.toList with
    | ['-', '-'] => return ([], [], rest)
    | sign :: c :: cs =>
      if sign != '-' && sign != '+' then return ([], [], argument :: rest)
      match (c :: cs).find? fun c => !known.contains c with
      | some c => refuse (.badOption (sign.toString ++ c.toString))
      | none =>
        let (on, off, rest) ← signedLetters known n rest
        if sign == '-' then return ((c :: cs) ++ on, off, rest) else return (on, (c :: cs) ++ off, rest)
    | _ => return ([], [], argument :: rest)

/-- What an argument declares. -/
structure Declared where
  name : String
  key : Option String
  isAdded : Bool
  value : Option String
  deriving DecidableEq, Repr

/-- What an argument declares. -/
def declaredBy (text : String) : Declared :=
  let (front, value) := settingOf text
  let isAdded := value.isSome && front.endsWith "+"
  let front := if isAdded then (front.dropEnd 1).toString else front
  let name := String.ofList (front.toList.takeWhile (· != '['))
  match front.toList.drop name.length with
  | '[' :: rest =>
    if rest.getLast? == some ']' then ⟨name, some (String.ofList rest.dropLast), isAdded, value⟩
    else ⟨front, none, isAdded, value⟩
  | _ => ⟨name, none, isAdded, value⟩

/-- The variable with marks set and taken back; the mark that keeps it as it is comes later. -/
def marked (on off : List Char) (v : Variable) : Variable :=
  let flag (c : Char) (before : Bool) : Bool := if off.contains c then false else before || on.contains c
  { v with
    content :=
      if on.contains 'A' then
        match v.content with
        | some (.table elements) => some (.table elements)
        | _ => some (.table [])
      else if on.contains 'a' then
        match v.content with
        | some (.text text) => some (.list [(0, text)])
        | none => some (.list [])
        | content => content
      else v.content
    isExported := flag 'x' v.isExported
    isInteger := flag 'i' v.isInteger
    isReference := flag 'n' v.isReference
    letters :=
      if on.contains 'u' then some .upper
      else if on.contains 'l' then some .lower
      else if on.contains 'c' then some .toggled
      else if off.contains 'u' || off.contains 'l' then none else v.letters }

/-- Declares what an argument says: whether it could be declared. -/
def declareOne (on off : List Char) (isOwn : Bool) (argument : String) : Run Bool := do
  let d := declaredBy argument
  if !isName d.name then
    Run.report (.badName argument)
    return false
  if isOwn then
    let isNew := !((← get).frames.headD []).any (·.1 == d.name)
    Run.keepVariable d.name
    if isNew then
      if ((← get).variableOf? d.name).any (·.isReadOnly) then
        Run.report (.readOnly d.name)
        return false
      modify fun p => p.putVariable d.name none
  let p ← get
  let before := (p.variableOf? d.name).getD .empty
  let list := p.lists.lookup d.name
  if before.isReadOnly && (d.value.isSome || list.isSome || off.contains 'r') then
    Run.report (.readOnly d.name)
    return false
  set ((p.putVariable d.name (some (marked on off before))))
  match list with
  | some (isAdded, elements) => Run.assignList d.name isAdded elements
  | none =>
    if let some value := d.value then Run.assign d.name d.key d.isAdded value
    else if d.key.isSome then
      modify fun p => p.putVariable d.name (some (marked ['a'] [] ((p.variableOf? d.name).getD .empty)))
  if on.contains 'r' then Run.markVariable d.name fun v => { v with isReadOnly := true }
  return true

/-- Shows variables of some names, or all that have one of some marks. -/
def showDeclared (on : List Char) (names : List String) : Run Nat := do
  let p ← get
  if names.isEmpty then
    let asked := on.filter fun c => c != 'p' && c != 'g'
    let found := (p.scope.filter fun (_, v) =>
      asked.isEmpty || asked.any fun c => v.marks.contains c).mergeSort fun a b => decide (a.1 ≤ b.1)
    Run.print (String.join (found.map fun (name, v) => declaration name v))
    return 0
  else
    names.foldlM
      (fun status name => do
        match p.variableOf? name with
        | some v =>
          Run.print (declaration name v)
          return status
        | none =>
          match p.content? name with
          | some content =>
            Run.print (declaration name { Variable.empty with content := some content })
            return status
          | none =>
            Run.report (.stated (name ++ ": not found"))
            return 1)
      0

/-- Shows the names of functions. -/
def showFunctions (names : List String) : Run Nat := do
  let p ← get
  if names.isEmpty then
    let found := (p.functions.map (·.1)).mergeSort fun a b => decide (a ≤ b)
    Run.print (String.join (found.map fun name => "declare -f " ++ name ++ "\n"))
    return 0
  else
    names.foldlM
      (fun status name => do
        if p.functions.any (·.1 == name) then
          Run.print (name ++ "\n")
          return status
        else return 1)
      0

/-- Declares variables, with marks that the command always sets. -/
def declaring (known : String) (always : List Char) (inFunctions : Bool) : Builtin := fun arguments => do
  let (on, off, words) ← signedLetters known (arguments.length + 1) arguments
  let p ← get
  if inFunctions && p.calls.isEmpty then Run.fail (.stated "can only be used in a function")
  if on.contains 'f' || on.contains 'F' then return (← showFunctions words)
  if on.contains 'p' || words.isEmpty then
    return (← showDeclared (always ++ on) (if always.isEmpty then words else []))
  let (on, off) := if always == ['x'] && on.contains 'n' then ([], ['x']) else (always ++ on, off)
  let isOwn := always.isEmpty && !p.calls.isEmpty && !on.contains 'g'
  let status ← words.foldlM
    (fun status argument => do
      if ← declareOne on off isOwn argument then return status else return 1)
    0
  modify fun p => { p with lists := [] }
  return status

/-- Forgets variables, elements or functions. -/
def unsetExtended : Builtin := fun arguments => do
  let (options, names) ← letters "vfn" arguments
  names.foldlM
    (fun status text => do
      let d := declaredBy text
      let isFunction := (← get).functions.any (·.1 == text)
      if options.getLast? == some 'f' ||
          (options.isEmpty && isFunction && ((← get).variableOf? d.name).isNone) then
        modify fun p => { p with functions := p.functions.filter (·.1 != text) }
        return status
      else if !isName d.name then
        if options.contains 'v' then
          Run.report (.badName text)
          return 1
        else return status
      else
        let p ← get
        if (p.variableOf? d.name).any (·.isReadOnly) then
          Run.report (.stated (d.name ++ ": cannot unset: readonly variable"))
          return 1
        match d.key, p.variableOf? d.name with
        | some key, some v =>
          if (key == "@" || key == "*") && !v.content.any Content.isTable then
            set (p.putVariable d.name none)
          else
            match ← Run.keyOf? Run.evaluate d.name key with
            | some found =>
              set (p.putVariable d.name (some { v with content := v.content.map (·.withoutElement found) }))
            | none => Run.fail (.stated (text ++ ": bad array subscript"))
          return status
        | none, _ =>
          set (p.putVariable d.name none)
          return status
        | _, none => return status)
    0

end SysReg.Shell.Builtin
