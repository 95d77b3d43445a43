import SysReg.Access.Table
import SysReg.Catalog.AppleSilicon
import SysReg.CommandLine.Journal
import SysReg.Report.Exploration
import SysReg.Report.Register

/-!
# Executing commands

A command acts on the world through a few effects. All else it does is decided here, so that its
output and its failure depend only on the answers of the world.
-/

namespace SysReg.CommandLine

variable {m : Type → Type} [Monad m]

/-- The effects of a command. -/
structure World (m : Type → Type) where
  now : m Time
  /-- Waits for a number of milliseconds. -/
  pause : Nat → m Unit
  readFile : String → m (Except FileFault String)
  writeFile : String → String → m (Except FileFault Unit)
  /-- Makes a directory with those it lies in, unless it is there. -/
  makeDirectory : String → m (Except FileFault Unit)
  /-- Makes an empty file, unless it is there. -/
  openFile : String → m (Except FileFault Unit)
  /-- Runs a program to its end. -/
  run : String → List String → m (Except FileFault Finished)
  /-- Writes to the output. -/
  print : String → m Unit
  /-- Writes to the error output. -/
  complain : String → m Unit
  /-- Hands an event to the log. -/
  log : Log.Event → m Unit

/-- The result of an action that can fail. -/
abbrev Action (m : Type → Type) : Type → Type := ExceptT Failure m

/-- An action whose outcome is an effect. -/
def perform {α : Type} (effect : m (Except Failure α)) : Action m α :=
  ExceptT.mk effect

/-- An action whose outcome is settled. -/
def settled {α : Type} (result : Except Failure α) : Action m α :=
  ExceptT.mk (pure result)

/-- An action that cannot fail. -/
def effect {α : Type} (e : m α) : Action m α :=
  ExceptT.lift e

/-- A source of values that is ready. -/
inductive OpenSource where
  | replay (table : AnswerTable)
  | debugger (debugger : Debugger)

namespace World

/-- Writes to the output and ends the line. -/
def printLine (w : World m) (text : String) : m Unit :=
  w.print (text ++ "\n")

/-- Hands an event to the log as part of an action. -/
def note (w : World m) (e : Log.Event) : Action m Unit :=
  effect (w.log e)

/-- The world inside of a span: every event falls into it. -/
def within (w : World m) (s : Log.Span) : World m :=
  { w with log := fun e => w.log (e.within s) }

/-- The snapshot in a file. -/
def loadSnapshot (w : World m) (path : String) : Action m Snapshot := do
  let content ← perform (Except.mapError Failure.file <$> w.readFile path)
  let s ← settled (Snapshot.ofText content)
  w.note (Journal.snapshotLoaded path s)
  return s

/-! ## Sources of values -/

/-- The target that a source names for the debugger. -/
def debugTarget? (source : ValueSource) : Option DebugTarget :=
  match source.pid, source.core with
  | some pid, _ => some (.process pid)
  | none, some path => some (.core path)
  | none, none => none

/-- Opens a source: a snapshot is replayed, or else the debugger is asked. -/
def openSource (w : World m) (source : ValueSource) : Action m OpenSource := do
  match source.replay with
  | some path =>
    let s ← w.loadSnapshot path
    w.note (Journal.replaying path s)
    return .replay (.ofSnapshot s)
  | none =>
    match debugTarget? source with
    | some target =>
      let d := Debugger.mk source.lldb target
      w.note (Journal.attaching d)
      return .debugger d
    | none => throw (.argument .noSource)

/-- Runs the debugger for a register. -/
def runFor (w : World m) (e : Encoding) (program : String) (arguments : List String) :
    m (Except FileFault Finished) := do
  let result ← w.run program arguments
  match result with
  | .ok run => w.log (Journal.debuggerFinished e run)
  | .error _ => pure ()
  return result

/-- The reader of a source. -/
def reader (w : World m) : OpenSource → Reader m
  | .replay table => fun e => pure (table.read e)
  | .debugger d => fun e => d.read (w.runFor e) e

/-- The instruments of a source, with the names of the registers that are read by them. -/
def instruments (w : World m) (source : OpenSource) (nameOf : Encoding → String) :
    Instruments m where
  read e := do
    let answer ← w.reader source e
    w.log (Journal.registerRead (nameOf e) e answer)
    return answer
  now := w.now

/-! ## Commands -/

/-- What is printed for a value without a layout. -/
def bareText (e : Encoding) (value : Word) : String :=
  Text.ofLines
    [e.canonical ++ " = " ++ value.padded, "  (not in the catalog; no field layout)"]

/-- Reads one register. -/
def read (w : World m) (c : Catalog) (source : ValueSource) (register : String) :
    Action m Unit := do
  let target ← settled (c.target register)
  let source ← w.openSource source
  match target with
  | .known d =>
    let tools := w.instruments source fun _ => d.name
    let r ← perform (Session.readOne tools c register)
    effect (w.print (r.definition.valueText (r.reading.value?.getD 0) r.fields))
  | .bare e =>
    let value ← perform (w.reader source e)
    effect (w.print (bareText e value))

/-- Decodes a value. -/
def decode (w : World m) (c : Catalog) (register : String) (value : Word) : Action m Unit := do
  let d ← settled (c.resolve register)
  let fields ← settled (d.decode value)
  effect (w.print (d.valueText value fields))

/-- Saves a dump to a file. -/
def save (w : World m) (s : Session) (d : Dump) (path : String) : Action m Session := do
  let (s, result) ← effect (s.persist w.writeFile d path)
  settled result
  w.note (Journal.snapshotSaved path d.snapshot)
  w.note (Journal.snapshotPersisted path d.snapshot)
  w.note (Journal.stageEntered s)
  effect (w.complain ("Saved " ++ Numeral.decimal d.snapshot.size ++ " registers to " ++ path ++
    "\n"))
  return s

/-- The name of the register with an encoding. -/
def nameIn (c : Catalog) (e : Encoding) : String :=
  ((c.atEncoding? e).map Definition.name).getD e.canonical

/-- Dumps a source in a new session, inside of a span of its own. -/
def takeDump (w : World m) (c : Catalog) (source : OpenSource) (filter : Option Category)
    (label : String) : m (Session × Dump) := do
  let w := w.within (Journal.dumpSpan label filter)
  w.log (Journal.stageEntered (Session.start.enter (.reading 0 (c.select filter).length)))
  let (s, d) ← Session.start.dump (w.instruments source (nameIn c)) c label filter
  w.log (Journal.stageEntered s)
  w.log (Journal.dumpFinished d.tally)
  return (s, d)

/-- Reads the registers of a category, or all of them. -/
def dump (w : World m) (c : Catalog) (source : ValueSource) (filter : Option Category)
    (path : Option String) (form : OutputForm) (label : String) : Action m Unit := do
  let source ← w.openSource source
  let (s, d) ← effect (w.takeDump c source filter label)
  let s ← match path with
    | some path => w.save s d path
    | none => pure s
  let (s, text) := s.display c d form
  w.note (Journal.stageEntered s)
  match form with
  | .text => effect (w.print text)
  | .json => effect (w.printLine text)

/-- Prints one of the two forms of a result. -/
def present (w : World m) (form : OutputForm) (text : String) (json : Json) : m Unit :=
  match form with
  | .text => w.print text
  | .json => w.printLine json.text

/-- Searches the catalog. -/
def search (w : World m) (c : Catalog) (query : String) (form : OutputForm) : m Unit := do
  let hits := c.search query
  w.log (Journal.catalogSearched query hits.length)
  w.present form (SearchHit.report query hits) (.array (hits.map SearchHit.json))

/-- Expands one abbreviation, or lists all. -/
def glossary (w : World m) : Option String → Action m Unit
  | none => effect (w.print (Abbreviation.report Abbreviation.table))
  | some term =>
    match Abbreviation.expand? term with
    | none => throw (.argument (.unknownTerm term))
    | some expansion =>
      let spelling := String.ofList (Text.asciiUpper (Text.trim term.toList))
      effect (w.printLine (spelling ++ ": " ++ expansion))

/-- Compares the snapshots in two files. -/
def compare (w : World m) (c : Catalog) (before after : String) (form : OutputForm) :
    Action m Unit := do
  let a ← w.loadSnapshot before
  let b ← w.loadSnapshot after
  let comparison ← settled (c.compare a b)
  w.note (Journal.snapshotsCompared a b comparison)
  effect (w.present form (comparison.report a.label b.label) comparison.json)

/-- Sweeps a box, inside of a span of its own. -/
def takeSweep (w : World m) (c : Catalog) (source : OpenSource) (box : Box) : m Sweep := do
  let w := w.within (Journal.sweepSpan box)
  let sweep ← c.sweep (w.instruments source Encoding.canonical) box
  w.log (Journal.sweepFinished sweep)
  return sweep

/-- Reads the encodings within bounds that the catalog does not know. -/
def probe (w : World m) (c : Catalog) (source : ValueSource) (op0 op1 crn crm op2 : Bounds) :
    Action m Unit := do
  let box ← settled (Box.ofBounds op0 op1 crn crm op2)
  w.note (Journal.probing box)
  let source ← w.openSource source
  let sweep ← effect (w.takeSweep c source box)
  effect (w.print sweep.report)

/-- Reads one register repeatedly. -/
def sample (w : World m) (c : Catalog) (source : ValueSource) (register : String)
    (iterations interval : Nat) : Action m Unit := do
  let target ← settled (c.target register)
  let tools := w.instruments (← w.openSource source) fun _ => target.name
  let pause := if interval = 0 then pure () else w.pause interval
  let readings ← perform (tools.sample pause target.name target.encoding iterations)
  w.note (Journal.samplingFinished target.name iterations)
  effect (w.print ((Behavior.ofReadings readings).report target.name
    (Inference.ofReadings readings).toOption))

/-- Executes a command. -/
def execute (w : World m) (c : Catalog) (source : ValueSource) : Command → Action m Unit
  | .read register => w.read c source register
  | .decode register value => w.decode c register value
  | .dump filter path form label => w.dump c source filter path form label
  | .list filter form => effect (w.present form (c.listing filter) (c.listingJson filter))
  | .describe register form => do
    let d ← settled (c.resolve register)
    effect (w.present form d.layoutText d.json)
  | .search query form => effect (w.search c query form)
  | .glossary term => w.glossary term
  | .compare before after form => w.compare c before after form
  | .probe op0 op1 crn crm op2 => w.probe c source op0 op1 crn crm op2
  | .sample register iterations interval => w.sample c source register iterations interval

/-- Carries an invocation out, on the registers of Apple Silicon. -/
def carryOut (w : World m) (i : Invocation) : m (Except Failure Unit) := do
  w.log (Journal.catalogValidated .appleSilicon)
  w.log (Journal.catalogLoaded .appleSilicon)
  (w.execute .appleSilicon i.source i.command).run

/-! ## The program -/

/-- Answers a misuse. -/
def answerMisuse (w : World m) (misuse : Misuse) : m Unit :=
  match misuse with
  | .help => w.print helpText
  | .version => w.printLine (programName ++ " " ++ programVersion)
  | _ => w.complain ("error: " ++ misuse.message ++ "\n\n" ++ helpText)

/-- Where files for log messages are made. -/
def storage (w : World m) : Log.Storage m where
  today := Time.date <$> w.now
  makeDirectory := w.makeDirectory
  openFile := w.openFile

/-- The exit status of a program that breaks off. -/
def brokenOff : Nat := 101

/-- Answers a fault of the log, and leaves the exit status. -/
def answerFault (w : World m) (fault : Log.Fault) : m Nat := do
  if fault.breaksOff then
    w.complain (fault.message ++ "\n")
    return brokenOff
  else
    w.complain ("Failed to initialize logging: " ++ fault.message ++ "\n")
    return 1

/-- Runs the program with its arguments and leaves its exit status. Messages go to the log only after
`attach` has been told how. -/
def program (w : World m) (attach : Log.Setup → m Unit) (env : Environment)
    (arguments : List String) : m Nat := do
  match Invocation.ofArguments env arguments with
  | .error misuse =>
    w.answerMisuse misuse
    return misuse.exitStatus
  | .ok i =>
    match ← Log.Setup.install w.storage env none i.logLevel i.logFormat with
    | .error fault => w.answerFault fault
    | .ok setup =>
      attach setup
      match ← w.carryOut i with
      | .ok () => return 0
      | .error failure =>
        w.complain ("Error: " ++ failure.message ++ "\n")
        return 1

end World
end SysReg.CommandLine
