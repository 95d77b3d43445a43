import SysReg.Shell.Builtin.Output
import SysReg.Shell.Execution.Simple
import SysReg.Shell.Regex.Reading

/-!
# Carrying scripts out

Each kind of command is carried out by way of what carries out the commands that it holds, and
`Execution.command` ties the knot. Its number bounds how deep commands are nested.

A command whose status is asked about does not end a strict script.

The words of a condition between double brackets are not split, a second operand may be a pattern or a
regular expression, and numbers are expressions.
-/

/-! ## Conditions between double brackets -/

namespace SysReg.Shell.Judging

section

variable (makers : Expansion.Makers)

/-- The text of a regular expression in which what is quoted stands for itself. -/
def formText (glyphs : List Glyph) : List Char :=
  glyphs.flatMap fun g =>
    match g with
    | .quoted c => if c.isAlphanum || c == '_' || c == ' ' || '~' < c then [c] else ['\\', c]
    | g => g.char?.toList

/-- The text matches a regular expression, whose groups are kept. -/
def matchesForm (text : String) (form : List Char) : Run Bool := do
  match Regex.ofText ⟨true, false, true⟩ form with
  | .error _ =>
    Run.finish 2
    throw .failed
  | .ok regex =>
    let foldsCase := (← get).switches.contains "nocasematch"
    let subject : Subject := ⟨text.toList.toArray, foldsCase, false⟩
    let found := (List.range (text.length + 1)).findSome? fun first =>
      ((Regex.longestFirst (regex.ends subject true ⟨first, []⟩)).head?).map (first, ·)
    match found with
    | none =>
      Run.assignList "BASH_REMATCH" false []
      return false
    | some (first, found) =>
      let groups := (List.range (Regex.groupCount regex + 1)).map fun number =>
        (none, String.ofList (Regex.groupText subject first found number))
      Run.assignList "BASH_REMATCH" false groups
      return true

/-- Carries a step out that is about the condition and not about its words. -/
def naming {α : Type} (step : Run α) : Run α := do
  let before := (← get).command
  modify fun p => { p with command := some "[[" }
  Run.andFinally step (modify fun p => { p with command := before })

/-- Two numbers, which are expressions, compare. -/
def compared (operator a b : String) : Run Bool := do
  let x ← naming (Run.evaluate a)
  let y ← naming (Run.evaluate b)
  return match operator with
    | "-eq" => x == y
    | "-ne" => x != y
    | "-lt" => decide (x < y)
    | "-le" => decide (x ≤ y)
    | "-gt" => decide (y < x)
    | _ => decide (y ≤ x)

/-- The word matches the pattern of another. -/
def matchesPattern (text : String) (second : Word) : Run Bool := do
  let pattern ← Expansion.pattern makers second
  if (← get).switches.contains "nocasematch" then
    let low (w : Wildcard) : Wildcard := match w with
      | .one c => .one c.toLower
      | w => w
    return Wildcard.matchesAll (pattern.map low) (text.toList.map Char.toLower)
  else return Wildcard.matchesAll pattern text.toList

/-- What is to be true is true. -/
def holds : Judgement → Run Bool
  | .one operator operand => do
    let text ← Expansion.text makers .atStart operand
    let p ← get
    match operator with
    | "-v" => Builtin.isSet p text
    | "-o" => return Builtin.isOn p text
    | "-a" | "-N" => return (Condition.unary .extended p.channels.tree "-e" text).toOption.getD false
    | "-R" => return false
    | _ =>
      match Condition.unary .extended p.channels.tree operator text with
      | .ok found => return found
      | .error fault => naming (Run.failWith 2 (.stated fault))
  | .two first operator second => do
    let a ← Expansion.text makers .atStart first
    match operator with
    | "=" | "==" => matchesPattern makers a second
    | "!=" => return !(← matchesPattern makers a second)
    | "=~" => matchesForm a (formText (← Expansion.glyphs makers second))
    | _ =>
      let b ← Expansion.text makers .atStart second
      if ["-eq", "-ne", "-lt", "-le", "-gt", "-ge"].contains operator then compared operator a b
      else
        match Condition.binary .extended (← Run.tree) a operator b with
        | .ok found => return found
        | .error fault => naming (Run.failWith 2 (.stated fault))
  | .negated body => do return !(← holds body)
  | .both first second => do
    if ← holds first then holds second else return false
  | .either first second => do
    if ← holds first then return true else holds second

end

end SysReg.Shell.Judging

namespace SysReg.Shell.Execution

-- What carries out the commands that a command holds, and what runs programs.
variable (run : Executor) (launch : Launcher)

/-! ## Loops -/

/-- What becomes of a loop after a part of it. -/
inductive Turn where
  | goesOn
  | over
  deriving DecidableEq, Repr

/-- Carries a part of a loop out. -/
def turn (part : Run Unit) : Run (Turn × Bool) := do
  match ← outcome part with
  | none => return (.goesOn, false)
  | some (.leaving 1 again) => return (if again then .goesOn else .over, true)
  | some (.leaving loops again) => throw (.leaving (loops - 1) again)
  | some i => throw i

/-- How often loops turn at most. -/
def loopLimit : Nat := 50000

/-- Carries a loop on, after a body that has left a status. What goes on without an end is ended by the
signal for output that is not taken. -/
def loop (asked onSuccess : Bool) (condition body : Command) : Nat → (status : Nat) → Run Unit
  | 0, _ => do throw (.killed (← get).number 13)
  | n + 1, status => do
    match ← turn (run true condition) with
    | (.over, _) => Run.finish status
    | (.goesOn, true) => loop asked onSuccess condition body n status
    | (.goesOn, false) =>
      if ((← get).status == 0) != onSuccess then Run.finish status
      else
        match ← turn (run asked body) with
        | (.over, _) => return
        | (.goesOn, _) => loop asked onSuccess condition body n (← get).status

/-- Carries a body out for each of some values. -/
def each (asked : Bool) (line : Nat) (name : String) (body : Command) : List String → Run Unit
  | [] => return
  | value :: values => do
    if (← get).dialect == .extended then
      modify fun p => { p with line }
      answerCommand run
    match ← outcome (Run.setVariable name value) with
    | none =>
      match ← turn (run asked body) with
      | (.over, _) => return
      | (.goesOn, _) => each asked line name body values
    | some i => if i == .failed && (← get).dialect == .extended then return else throw i

/-- The value of an expression that a command is about, unless there is a fault in it. -/
def calculated (expression : Word) : Run (Option Int) := do
  let text ← Expansion.text (makers run) .never expression
  let before ← get
  set { before with command := some "((" }
  Run.andFinally
    (tryCatch (some <$> Run.evaluate text) fun i => if i == .failed then return none else throw i)
    (modify fun p => { p with command := before.command })

/-- Carries a loop on whose condition is an expression, and whose body is followed by another. -/
def counted (asked : Bool) (line : Nat) (condition next : Word) (body : Command) : Nat → Run Unit
  | 0 => do throw (.killed (← get).number 13)
  | n + 1 => do
    modify fun p => { p with line }
    let isBlank := condition.all fun piece => match piece with
      | .plain c => Calculation.isBlank c
      | _ => false
    match ← if isBlank then pure (some 1) else calculated run condition with
    | none => Run.finish 1
    | some 0 => return
    | some _ =>
      match ← turn (run asked body) with
      | (.over, _) => return
      | (.goesOn, _) =>
        modify fun p => { p with line }
        match ← calculated run next with
        | none => Run.finish 1
        | some _ => counted asked line condition next body n

/-- Carries a step out that a loop is around. -/
def inLoop (step : Run Unit) : Run Unit := do
  modify fun p => { p with loops := p.loops + 1 }
  Run.andFinally step (modify fun p => { p with loops := p.loops - 1 })

/-! ## Choices -/

/-- Carries out the arms of a choice that are meant. An arm may be entered from the one in front of it. -/
def choose (asked : Bool) (subject : String) :
    (isEntered isDone : Bool) → List (List Word × Command × ArmEnd) → Run Unit
  | _, isDone, [] => if isDone then return else Run.finish 0
  | isEntered, isDone, (patterns, body, ending) :: arms => do
    let isMeant ← if isEntered then pure true
      else patterns.anyM fun pattern => Judging.matchesPattern (makers run) subject pattern
    if !isMeant then choose asked subject false isDone arms
    else
      if body.isNothing then Run.finish 0 else run asked body
      match ending with
      | .over => return
      | .intoNext => choose asked subject true true arms
      | .onward => choose asked subject false true arms

/-! ## Pipes and commands in the background -/

/-- Carries commands out, of which each reads what the one before it prints: how they end. -/
def pipe (asked : Bool) : List Command → (input : Option Nat) → Run (List Ending)
  | [], _ => return []
  | part :: rest, input => do
    let p ← get
    let (channels, number) := p.channels.add (.outgoing "")
    set { p with channels }
    let ending ← apart run do
      modify fun p =>
        let channels := match input with
          | some stream => p.channels.assign 0 stream
          | none => p.channels
        { p with channels := if rest.isEmpty then channels else channels.assign 1 number }
      run asked part
    if rest.isEmpty then return [ending]
    modify fun p =>
      let text := (p.channels.stream number).written
      { p with channels := p.channels.setStream number (.incoming text.toList) }
    return ending :: (← pipe asked rest (some number))

/-- The status of commands that were joined: that of the last one, or that of the last failure if it is asked
for. -/
def joinedStatus (p : Process) (statuses : List Nat) : Nat :=
  let last := statuses.getLast?.getD 0
  if p.switches.contains "pipefail" then ((statuses.filter (· != 0)).getLast?).getD 0 else last

/-- Carries a command out for whose end nothing waits. -/
def background (c : Command) : Run Unit := do
  let p ← get
  let (channels, number) := p.channels.add (.incoming [])
  set { p with channels }
  let ending ← apart run do
    modify fun p => { p with channels := p.channels.assign 0 number }
    run false c
  modify fun after =>
    { after with
      clock := p.clock
      jobs := ⟨p.number + 100 + p.jobs.length, ending, after.clock⟩ :: p.jobs
      status := 0 }

/-! ## All commands -/

/-- Goes on with a status, which is that of the last commands that were joined as well. -/
def settleOn (status : Nat) : Run Unit :=
  modify fun p => { p with status, statuses := [status] }

/-- The condition between double brackets holds, or there is a fault in it. -/
def judge (judgement : Judgement) : Run Unit := do
  let isTrue ← tryCatch (some <$> Judging.holds (makers run) judgement) fun i =>
    if i == .failed then return none else throw i
  match isTrue with
  | some isTrue => settleOn (if isTrue then 0 else 1)
  | none => settleOn (← get).status

/-- The time that a command has taken, of which nothing is known. -/
def shownTimes (isShort : Bool) : String :=
  if isShort then "real 0.00\nuser 0.00\nsys 0.00\n"
  else "\nreal\t0m0.000s\nuser\t0m0.000s\nsys\t0m0.000s\n"

/-- Carries out a command, given what carries out those that it holds. -/
def step (asked : Bool) (c : Command) : Run Unit := do
  let begin (line : Nat) : Run Unit := do
    modify fun p => { p with line }
    answerCommand run
  match c with
  | .nothing => return
  | .simple line settings words redirections =>
    begin line
    withChannels run (simple run launch asked settings words redirections)
    heed run asked
  | .redirected line body redirections =>
    modify fun p => { p with line }
    withChannels run do
      let aims ← allTargets run redirections
      if !(← redirected aims false (run asked body)) then
        Run.finish (if (← get).dialect == .plain then 2 else 1)
        heed run asked
  | .pipe parts =>
    let endings ← pipe run asked parts none
    endings.getLast?.forM Builtin.sayEnding
    let statuses := endings.map statusOf
    modify fun p => { p with status := joinedStatus p statuses, statuses }
    heed run asked
  | .negated body =>
    run true body
    modify fun p => { p with status := if p.status == 0 then 1 else 0 }
  | .guarded onSuccess first second =>
    run true first
    if ((← get).status == 0) == onSuccess then run asked second
  | .sequence first second =>
    run asked first
    run asked second
  | .background body =>
    background run body
    heed run asked
  | .branch condition yes no =>
    run true condition
    let isTrue := (← get).status == 0
    let branch := if isTrue then yes else no
    if branch.isNothing then Run.finish 0 else run asked branch
  | .loop onSuccess condition body =>
    inLoop (loop run asked onSuccess condition body loopLimit 0)
  | .each line name words body =>
    modify fun p => { p with line }
    if (← get).dialect == .extended && !isName name then
      Run.report (.badName name)
      Run.finish 1
    else
      let values ← words.mapM (Expansion.fields (makers run))
      if values.flatten.isEmpty then Run.finish 0
      inLoop (each run asked line name body values.flatten)
  | .counted line start condition next body =>
    begin line
    match ← calculated run start with
    | none => Run.finish 1
    | some _ =>
      Run.finish 0
      inLoop (counted run asked line condition next body loopLimit)
  | .choose line subject arms =>
    begin line
    let text ← Expansion.text (makers run) .atStart subject
    choose run asked text false false arms
  | .calculation line expression =>
    begin line
    settleOn (match ← calculated run expression with
      | none | some 0 => 1
      | some _ => 0)
    heed run asked
  | .judged line judgement =>
    begin line
    judge run judgement
    heed run asked
  | .timed isShort body =>
    if body.isNothing then Run.finish 0 else run asked body
    Run.complain (shownTimes isShort)
  | .text line text => script run asked "command substitution" line text
  | .apart line body redirections =>
    modify fun p => { p with line }
    let aims ← allTargets run redirections
    let ending ← apart run do
      aims.forM fun (descriptor, t) => aim descriptor t
      run asked body
    Builtin.sayEnding ending
    settleOn (statusOf ending)
    heed run asked
  | .define name body =>
    modify fun p => { p with functions := (name, body) :: p.functions.filter (·.1 != name) }
    Run.finish 0

/-- Does what is to be done on the signals that have come in. -/
def answerSignals : Run Unit := do
  let p ← get
  if p.signals.isEmpty || p.outerTraps.isSome then return
  set { p with signals := [] }
  p.signals.forM fun signal =>
    match p.traps.lookup signal with
    | none | some "" => return
    | some action => do
      let status := (← get).status
      script run false "trap handler" p.line action
      Run.finish status

/-- Carries commands out. What is nested too deep is ended by the signal for memory that is not there. -/
def command : Nat → Executor
  | 0, _, _ => do throw (.killed (← get).number 11)
  | n + 1, asked, c => do
    if (← get).has 'n' then return
    step (command n) launch asked c
    answerSignals (command n)

end SysReg.Shell.Execution
