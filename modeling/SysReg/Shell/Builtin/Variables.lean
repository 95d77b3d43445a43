import SysReg.Shell.Builtin.Basic

/-!
# Commands that set

Variables and their marks, options, arguments, and names that stand for other texts.
-/

namespace SysReg.Shell.Builtin

/-! ## Variables -/

/-- A name and perhaps a value behind an equals sign. -/
def settingOf (text : String) : String × Option String :=
  let name := text.toList.takeWhile (· != '=')
  (String.ofList name,
    if name.length < text.length then some (String.ofList (text.toList.drop (name.length + 1)))
    else none)

/-- Refuses what is no name of a variable. -/
def checkName (name : String) : Run Unit :=
  if isName name then return else Run.fail (.badName name)

/-- The names and values of variables of a kind, in order. -/
def sortedVariables (p : Process) (kind : Variable → Bool) : List (String × Option String) :=
  ((p.scope.filter fun (_, v) => kind v).map fun (name, v) => (name, v.value)).mergeSort
    fun a b => decide (a.1 ≤ b.1)

/-- A variable as it is shown. -/
def shown (lead name : String) (value : Option String) : String :=
  lead ++ name ++ ((value.map fun text => "=" ++ inQuotes text).getD "") ++ "\n"

/-- Marks variables, which may be set as well, or shows those that have the mark. -/
def marking (name : String) (mark : Variable → Variable) (has : Variable → Bool) : Builtin :=
  succeeding fun arguments => do
    let (options, arguments) ← letters "p" arguments
    if arguments.isEmpty || options.contains 'p' then
      let p ← get
      Run.print (String.join ((sortedVariables p has).map fun (found, value) =>
        shown (name ++ " ") found value))
    else
      arguments.forM fun text => do
        let (found, value) := settingOf text
        checkName found
        if let some value := value then Run.setVariable found value
        Run.markVariable found mark

/-- Gives variables to programs. -/
def exportVariables : Builtin :=
  marking "export" (fun v => { v with isExported := true }) (·.isExported)

/-- Keeps variables as they are. -/
def readonlyVariables : Builtin :=
  marking "readonly" (fun v => { v with isReadOnly := true }) (·.isReadOnly)

/-- Lets a function have variables of its own. -/
def localVariables : Builtin := succeeding fun arguments => do
  if (← get).frames.isEmpty then Run.fail (.stated "not in a function")
  (arguments.filter fun text => text != "-").forM fun text => do
    let (name, value) := settingOf text
    checkName name
    Run.keepVariable name
    if let some value := value then Run.setVariable name value

/-- Forgets variables or functions. -/
def unset : Builtin := succeeding fun arguments => do
  let (options, names) ← letters "vf" arguments
  names.forM fun name => do
    if options.getLast? == some 'f' then
      modify fun p => { p with functions := p.functions.filter (·.1 != name) }
    else
      checkName name
      Run.unsetVariable name

/-! ## Options -/

/-- The names of options, with their letters. -/
def optionNames : List (String × Char) :=
  [("errexit", 'e'), ("noglob", 'f'), ("ignoreeof", 'I'), ("interactive", 'i'), ("monitor", 'm'),
    ("noexec", 'n'), ("stdin", 's'), ("xtrace", 'x'), ("verbose", 'v'), ("vi", 'V'), ("emacs", 'E'),
    ("noclobber", 'C'), ("allexport", 'a'), ("notify", 'b'), ("nounset", 'u'), ("privileged", 'p'),
    ("nolog", '\x00'), ("debug", '\x01')]

/-- The names of options in one kind of shell, with their letters if they have some. -/
def optionNamesExtended : List (String × Option Char) :=
  [("allexport", some 'a'), ("braceexpand", some 'B'), ("emacs", none), ("errexit", some 'e'),
    ("errtrace", some 'E'), ("functrace", some 'T'), ("hashall", some 'h'), ("histexpand", some 'H'),
    ("history", none), ("ignoreeof", none), ("interactive-comments", none), ("keyword", some 'k'),
    ("monitor", some 'm'), ("noclobber", some 'C'), ("noexec", some 'n'), ("noglob", some 'f'),
    ("nolog", none), ("notify", some 'b'), ("nounset", some 'u'), ("onecmd", some 't'),
    ("physical", some 'P'), ("pipefail", none), ("posix", none), ("privileged", some 'p'),
    ("verbose", some 'v'), ("vi", none), ("xtrace", some 'x')]

/-- The option of a name in one kind of shell is set. -/
def isOn (p : Process) (name : String) : Bool :=
  match optionNamesExtended.lookup name with
  | some (some c) => p.has c
  | _ => p.switches.contains name || name == "interactive-comments"

/-- Sets a further option or takes it back. -/
def setSwitch (isOn : Bool) (name : String) : Run Unit :=
  modify fun p =>
    let others := p.switches.filter (· != name)
    { p with switches := if isOn then name :: others else others }

/-- Sets an option or takes it back. -/
def setOption (isOn : Bool) (c : Char) : Run Unit :=
  modify fun p =>
    let others := p.options.filter (· != c)
    { p with options := if isOn then c :: others else others }

/-- Sets the option of a name in one kind of shell, or shows all options. -/
def setNamedOptionExtended (isOn : Bool) (name : Option String) : Run Unit := do
  match name with
  | some name =>
    match optionNamesExtended.lookup name with
    | some (some c) => setOption isOn c
    | some none => setSwitch isOn name
    | none => Run.failWith 2 (.stated (name ++ ": invalid option name"))
  | none =>
    let p ← get
    Run.print (String.join (optionNamesExtended.map fun (name, _) =>
      if isOn then
        String.ofList (name.toList.rightpad 15 ' ') ++ "\t" ++ (if Builtin.isOn p name then "on" else "off") ++ "\n"
      else "set " ++ (if Builtin.isOn p name then "-" else "+") ++ "o " ++ name ++ "\n"))

/-- Sets the option of a name, or shows all options. -/
def setNamedOption (isOn : Bool) (name : Option String) : Run Unit := do
  match (← get).dialect, name with
  | .extended, name => setNamedOptionExtended isOn name
  | .plain, some name =>
    match optionNames.lookup name with
    | some c => setOption isOn c
    | none => Run.fail (.badOption ("-o " ++ name))
  | .plain, none =>
    let p ← get
    if isOn then
      Run.print ("Current option settings\n" ++ String.join (optionNames.map fun (name, c) =>
        String.ofList (name.toList.rightpad 16 ' ') ++ (if p.has c then "on" else "off") ++ "\n"))
    else
      Run.print (String.join (optionNames.map fun (name, c) =>
        "set " ++ (if p.has c then "-" else "+") ++ "o " ++ name ++ "\n"))

/-- The letters of options that a kind of shell knows. -/
def optionLetters : Dialect → List Char
  | .plain => optionNames.filterMap fun (_, c) => if ' ' < c then some c else none
  | .extended => optionNamesExtended.filterMap (·.2)

/-- Sets options by their letters; the arguments that are left, and whether they are to be taken even
if there are none. The number is at least that of the arguments. -/
def setOptions : Nat → List String → Run (List String × Bool)
  | 0, arguments => return (arguments, false)
  | _, [] => return ([], false)
  | n + 1, argument :: rest => do
    match argument.toList with
    | ['-', '-'] => return (rest, true)
    | ['-'] =>
      setOption false 'x'
      setOption false 'v'
      return (rest, false)
    | sign :: cs =>
      if sign != '-' && sign != '+' then return (argument :: rest, false)
      let isOn := sign == '-'
      let known := optionLetters (← get).dialect
      match cs.find? fun c => c != 'o' && !known.contains c with
      | some c => refuse (.badOption (sign.toString ++ c.toString))
      | none =>
        (cs.filter (· != 'o')).forM (setOption isOn)
        if cs.contains 'o' then
          setNamedOption isOn rest.head?
          setOptions n (rest.drop 1)
        else setOptions n rest
    | [] => return (argument :: rest, false)

/-- Sets options and arguments, or shows all variables. -/
def setCommand : Builtin := succeeding fun arguments => do
  if arguments.isEmpty then
    let p ← get
    Run.print (String.join ((sortedVariables p fun v => v.value.isSome).map fun (name, value) =>
      shown "" name value))
  else
    let (rest, isAll) ← setOptions (arguments.length + 1) arguments
    if isAll || !rest.isEmpty then
      modify fun p => { p with arguments := rest, optionPlace := (1, 0) }

/-- Drops the first arguments. -/
def shift : Builtin := fun arguments => do
  let p ← get
  let count ← match arguments with
    | [] => pure 1
    | text :: _ =>
      match p.dialect, Arithmetic.ofText? true text with
      | .extended, some n =>
        if n < 0 then Run.fail (.stated (text ++ ": shift count out of range")) else pure n.toNat
      | _, _ => number text
  if p.arguments.length < count then
    match p.dialect with
    | .plain => Run.fail (.stated "can't shift that many")
    | .extended => return 1
  set { p with arguments := p.arguments.drop count, optionPlace := (1, 0) }
  return 0

/-! ## Options of the script -/

/-- The next option among arguments: its letter, what is left of its argument, and the number of the
argument behind it. -/
def nextOption? (arguments : List String) (place : Nat × Nat) : Option (Char × List Char × Nat) × Nat :=
  let (index, offset) := place
  let left := if index ≤ 1 || offset == 0 then []
    else ((arguments[index - 2]?.getD "").toList).drop offset
  match left with
  | c :: rest => (some (c, rest, index), index)
  | [] =>
    match ((arguments[index - 1]?).map String.toList) with
    | some ['-', '-'] => (none, index + 1)
    | some ('-' :: c :: rest) => (some (c, rest, index + 1), index)
    | _ => (none, index)

/-- The letter is among those of some options: whether it has a value. -/
def isValued? (letters : List Char) (c : Char) : Option Bool :=
  match letters with
  | [] => none
  | d :: ':' :: rest => if c == d then some true else isValued? rest c
  | d :: rest => if c == d then some false else isValued? rest c

/-- Sets the variables for the next option of the script. -/
def getopts : Builtin := fun arguments => do
  match arguments with
  | letters :: name :: rest =>
    let p ← get
    let words := if rest.isEmpty then p.arguments else rest
    let place := if p.dialect == .plain && words.length + 1 < p.optionPlace.1 then (1, 0) else p.optionPlace
    let isSilent := letters.startsWith ":"
    let finish (index : Nat) (left : List Char) (letter : Char) : Run Unit := do
      Run.setVariable "OPTIND" (Numeral.decimal index)
      Run.setVariable name letter.toString
      let offset := if left.isEmpty then 0
        else (words[index - 2]?.getD "").length - left.length
      modify fun p => { p with optionPlace := (index, offset) }
    let refuse (letter : Char) (text : String) : Run Unit :=
      if isSilent then Run.setVariable "OPTARG" letter.toString
      else do
        if p.dialect == .plain then Run.complain (text ++ "\n")
        else if p.value? "OPTERR" != some "0" then Run.complain (p.name ++ ": " ++ text ++ "\n")
        Run.unsetVariable "OPTARG"
    match nextOption? words place with
    | (none, index) =>
      finish index [] '?'
      return 1
    | (some (c, left, index), _) =>
      match isValued? letters.toList c with
      | none =>
        refuse c (if p.dialect == .plain then "Illegal option -" ++ c.toString
          else "illegal option -- " ++ c.toString)
        finish index left '?'
      | some false =>
        Run.setVariable "OPTARG" ""
        finish index left c
      | some true =>
        match left, words[index - 1]? with
        | [], none =>
          refuse c (if p.dialect == .plain then "No arg for -" ++ c.toString ++ " option"
            else "option requires an argument -- " ++ c.toString)
          finish index [] (if isSilent then ':' else '?')
        | [], some value =>
          Run.setVariable "OPTARG" value
          finish (index + 1) [] c
        | value, _ =>
          Run.setVariable "OPTARG" (String.ofList value)
          finish index [] c
      return 0
  | _ =>
    if (← get).dialect == .extended then refuseUsage
    Run.fail (.stated "Usage: getopts optstring var [arg...]")

/-! ## Names for texts -/

/-- Lets names stand for texts, or shows what they stand for. -/
def aliasNames : Builtin := fun arguments => do
  let d := (← get).dialect
  let arguments := if d == .extended then arguments.filter (· != "-p") else arguments
  let entry (name value : String) : String :=
    (if d == .plain then "" else "alias ") ++ name ++ "=" ++ inQuotes value ++ "\n"
  if arguments.isEmpty then
    Run.print (String.join ((← get).aliases.map fun (name, value) => entry name value))
    return 0
  else
    let statuses ← arguments.mapM fun text => do
      match settingOf text with
      | (name, some value) =>
        modify fun p => { p with aliases := (name, value) :: p.aliases.filter (·.1 != name) }
        return 0
      | (name, none) =>
        match (← get).aliases.lookup name with
        | some value =>
          Run.print (entry name value)
          return 0
        | none =>
          if d == .plain then Run.complain ("alias: " ++ name ++ " not found\n")
          else Run.report (.stated (name ++ ": not found"))
          return 1
    return statuses.foldl max 0

/-- Lets names stand for nothing any more. -/
def unaliasNames : Builtin := fun arguments => do
  let (options, names) ← letters "a" arguments
  if options.contains 'a' then
    modify fun p => { p with aliases := [] }
    return 0
  else
    let statuses ← names.mapM fun name => do
      let p ← get
      if (p.aliases.lookup name).isSome then
        set { p with aliases := p.aliases.filter (·.1 != name) }
        return 0
      else
        if p.dialect == .plain then Run.complain ("unalias: " ++ name ++ " not found\n")
        else Run.report (.stated (name ++ ": not found"))
        return 1
    return statuses.foldl max 0

end SysReg.Shell.Builtin
