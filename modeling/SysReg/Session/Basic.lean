import SysReg.Access.Basic
import SysReg.Catalog.Basic
import SysReg.Snapshot.Document

/-!
# Dump sessions

A session reads the registers of a catalog in bulk. A dump reads each selected register once, in the
order of the catalog, records failures like values, and can be stopped after any register by the
caller who watches it. A session stands at a stage at any time and keeps the stages it has passed:

    idle → reading 0/n → … → reading n/n → aggregating → persisted or displayed → idle

Reading a single register leaves the stage alone.
-/

namespace SysReg

/-- Where a session stands. -/
inductive Stage where
  | idle
  | reading (completed total : Nat)
  /-- All registers are read. -/
  | aggregating
  /-- The last dump was written to a file. -/
  | persisted (path : String)
  /-- The last dump was shown. -/
  | displayed
  deriving DecidableEq, Repr

/-- A session: its stage, and the stages before it, latest first. -/
structure Session where
  stage : Stage
  passed : List Stage
  deriving DecidableEq, Repr

/-- The result of a dump. -/
structure Dump where
  snapshot : Snapshot
  tally : Tally
  /-- The caller stopped the dump. -/
  interrupted : Bool
  deriving DecidableEq

/-- One register with its reading and the fields of its value. -/
structure DecodedReading where
  definition : Definition
  reading : Reading
  fields : List DecodedField
  deriving DecidableEq

namespace Session

/-- A new session. -/
def start : Session :=
  ⟨.idle, []⟩

/-- The session at the next stage. -/
def enter (s : Session) (next : Stage) : Session :=
  ⟨next, s.stage :: s.passed⟩

/-- The session at rest. -/
def reset (s : Session) : Session :=
  s.enter .idle

/-- The session at rest, which it may be already. -/
def rest (s : Session) : Session :=
  if s.stage = .idle then s else s.reset

/-! ## Dumps -/

variable {m : Type → Type} [Monad m]

/-- A dump under way. -/
structure Progress where
  session : Session
  completed : Nat
  dump : Dump

namespace Progress

/-- The snapshot with one reading more; a reading that it refuses is left out. -/
def pushed (s : Snapshot) (r : Reading) : Snapshot :=
  match s.push? r with
  | .ok s => s
  | .error _ => s

/-- One reading more, of so many in all; `stop` says whether the caller stops the dump there. -/
def add (p : Progress) (total : Nat) (r : Reading) (stop : Bool) : Progress where
  session := p.session.enter (.reading (p.completed + 1) total)
  completed := p.completed + 1
  dump := ⟨pushed p.dump.snapshot r, p.dump.tally.count r, stop⟩

end Progress

/-- Reads the remaining registers of a dump, until the caller stops it. -/
def readAll (tools : Instruments m) (watch : Reading → m Bool) (total : Nat) (p : Progress) :
    List Definition → m Progress
  | [] => return p
  | d :: rest => do
    let r ← tools.take d.name d.encoding
    let stop ← watch r
    let p := p.add total r stop
    if stop then return p else readAll tools watch total p rest

/-- Reads the registers of a category, or all of them. The caller sees each reading and answers
whether to stop after it. -/
def dumpWatched (s : Session) (tools : Instruments m) (c : Catalog) (label : String)
    (filter : Option Category) (watch : Reading → m Bool) : m (Session × Dump) := do
  let selected := c.select filter
  let createdAt ← tools.now
  let p ← readAll tools watch selected.length
    ⟨s.rest.enter (.reading 0 selected.length), 0, ⟨.empty label filter createdAt, .zero, false⟩⟩
    selected
  return (p.session.enter .aggregating, p.dump)

/-- Reads the registers of a category, or all of them, to the end. -/
def dump (s : Session) (tools : Instruments m) (c : Catalog) (label : String)
    (filter : Option Category) : m (Session × Dump) :=
  s.dumpWatched tools c label filter fun _ => pure false

/-! ## Single registers -/

/-- Reads and decodes the register that a text names. A failed read is a failure here. -/
def readOne (tools : Instruments m) (c : Catalog) (text : String) :
    m (Except Failure DecodedReading) :=
  match c.resolve text with
  | .error failure => return .error failure
  | .ok d => do
    let r ← tools.take d.name d.encoding
    return do
      let fields ← d.decodeReading r
      return ⟨d, r, fields⟩

/-! ## Results -/

/-- Writes the snapshot of a dump to a file. The stage changes only if that worked. -/
def persist (s : Session) (write : String → String → m (Except FileFault Unit)) (d : Dump)
    (path : String) : m (Session × Except Failure Unit) := do
  match ← write path d.snapshot.text with
  | .ok () => return (s.enter (.persisted path), .ok ())
  | .error fault => return (s, .error (.file fault))

end Session
end SysReg
