import SysReg.Access.Debugger
import SysReg.CommandLine.Command
import SysReg.Comparison
import SysReg.Exploration.Sweep
import SysReg.Log.Event
import SysReg.Session.Basic

/-!
# The journal

What a command tells the log while it is carried out. Each event comes from a part of the program, by
whose name the directives of a log filter can choose it.
-/

namespace SysReg.CommandLine.Journal

open Log (Event Span Value)

/-! ## Parts of the program -/

/-- The name of a part below the commands. -/
def partName (name : String) : String :=
  programName ++ "_core::" ++ name

/-- The commands. -/
def commands : String := programName

/-- The catalog. -/
def catalog : String := partName "catalog"

/-- Reading registers. -/
def reader : String := partName "reader"

/-- Reading registers through the debugger. -/
def debugger : String := partName "reader::lldb"

/-- Reading registers in bulk. -/
def dump : String := partName "dump"

/-- The files of snapshots. -/
def snapshots : String := partName "dump::snapshot"

/-- Comparing snapshots. -/
def comparison : String := partName "dump::diff"

/-- Exploring registers outside the catalog. -/
def exploration : String := partName "research"

/-- An event outside of any span. -/
def event (level : Log.Level) (part text : String) (fields : List (String × Value)) : Event :=
  ⟨level, part, text, fields, []⟩

/-! ## Catalog -/

/-- The definitions of a catalog were found to keep its invariants. -/
def catalogValidated (c : Catalog) : Event :=
  event .debug catalog "Catalog validated" [("registers", .number c.size)]

/-- The catalog is ready. -/
def catalogLoaded (c : Catalog) : Event :=
  event .debug commands "Catalog loaded" [("registers", .number c.size)]

/-- The catalog was searched. -/
def catalogSearched (query : String) (hits : Nat) : Event :=
  event .debug commands "Catalog searched" [("query", .plain query), ("hits", .number hits)]

/-! ## Sources of values -/

/-- A snapshot was read from a file. -/
def snapshotLoaded (path : String) (s : Snapshot) : Event :=
  event .debug snapshots "Snapshot loaded" [("path", .plain path), ("registers", .number s.size)]

/-- Values come from a snapshot. -/
def replaying (path : String) (s : Snapshot) : Event :=
  event .info commands "Replaying snapshot" [("label", .quoted s.label), ("path", .plain path)]

/-- Values come from the debugger. -/
def attaching (d : Debugger) : Event :=
  event .info commands "Reading through lldb"
    [("target", .plain d.target.text), ("lldb", .plain d.program)]

/-- An ending as the number that the system gives for it. -/
def endingCode : Ending → Nat
  | .exited status => status * 256
  | .killed signal => signal

/-- The debugger has run for a register. -/
def debuggerFinished (e : Encoding) (run : Finished) : Event :=
  event .trace debugger "lldb finished"
    [("encoding", .plain e.canonical),
      ("status", .plain ("ExitStatus(unix_wait_status(" ++
        Numeral.decimal (endingCode run.ending) ++ "))")),
      ("stdout", .plain (String.ofList (Text.decodeBytes run.stdout))),
      ("stderr", .plain (String.ofList (Text.decodeBytes run.stderr)))]

/-- A register was read, or could not be read. -/
def registerRead (name : String) (e : Encoding) : Except Failure Word → Event
  | .ok value =>
    event .debug reader "Read register"
      [("register", .quoted name), ("encoding", .plain e.canonical), ("value", .plain value.padded)]
  | .error failure =>
    event .warn reader "Register read failed"
      [("register", .quoted name), ("encoding", .plain e.canonical),
        ("error", .plain failure.message)]

/-! ## Dumps -/

/-- A dump of a category, or of all registers. -/
def dumpSpan (label : String) (filter : Option Category) : Span :=
  ⟨.info, dump, "dump",
    [("label", .quoted label), ("category", .quoted ((filter.map Category.name).getD "all"))]⟩

/-- A stage of a session. -/
def stageText : Stage → String
  | .idle => "Idle"
  | .reading completed total =>
    "Reading \x7b completed: " ++ Numeral.decimal completed ++ ", total: " ++ Numeral.decimal total ++
      " \x7d"
  | .aggregating => "Aggregating"
  | .persisted path => "Persisted(" ++ Text.quoted path ++ ")"
  | .displayed => "Displayed"

/-- A session has come to its stage. -/
def stageEntered (s : Session) : Event :=
  event .debug dump "Dump state transition"
    [("from", .plain (stageText (s.passed.headD s.stage))), ("to", .plain (stageText s.stage))]

/-- All registers of a dump are read. -/
def dumpFinished (t : Tally) : Event :=
  event .info dump ("Dump " ++ t.text)
    [("succeeded", .number t.succeeded), ("failed", .number t.failed)]

/-- A snapshot was written to a file. -/
def snapshotSaved (path : String) (s : Snapshot) : Event :=
  event .debug snapshots "Snapshot saved" [("path", .plain path), ("registers", .number s.size)]

/-- The snapshot of a dump is in a file. -/
def snapshotPersisted (path : String) (s : Snapshot) : Event :=
  event .info dump "Snapshot persisted" [("path", .plain path), ("registers", .number s.size)]

/-! ## Comparisons -/

/-- The numbers of a comparison. -/
def summaryText (s : ComparisonSummary) : String :=
  "DiffSummary \x7b added: " ++ Numeral.decimal s.added ++ ", removed: " ++ Numeral.decimal s.removed ++
    ", unchanged: " ++ Numeral.decimal s.unchanged ++ ", changed: " ++ Numeral.decimal s.changed ++
    ", unreadable: " ++ Numeral.decimal s.unreadable ++ " \x7d"

/-- Two snapshots were compared. -/
def snapshotsCompared (a b : Snapshot) (c : Comparison) : Event :=
  event .debug comparison "Snapshots compared"
    [("a", .quoted a.label), ("b", .quoted b.label), ("summary", .plain (summaryText c.summary))]

/-! ## Exploration -/

/-- A sweep is about to begin. -/
def probing (b : Box) : Event :=
  event .info commands "Probing" [("range", .plain b.text), ("encodings", .number b.size)]

/-- A sweep of a box. -/
def sweepSpan (b : Box) : Span :=
  ⟨.info, exploration, "probe", [("range", .plain b.text)]⟩

/-- A sweep is over. -/
def sweepFinished (s : Sweep) : Event :=
  event .info exploration ("Probe " ++ s.tally.text)
    [("probed", .number s.hits.length), ("skipped", .number s.skipped),
      ("responsive", .number s.tally.succeeded)]

/-- A register was read repeatedly. -/
def samplingFinished (name : String) (iterations : Nat) : Event :=
  event .debug exploration "Sampling finished"
    [("register", .quoted name), ("iterations", .number iterations)]

end SysReg.CommandLine.Journal
