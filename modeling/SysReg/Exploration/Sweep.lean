import SysReg.Access.Basic
import SysReg.Catalog.Basic
import SysReg.Exploration.Box
import SysReg.Word

/-!
# Sweeps

A sweep reads every encoding of a box that the catalog does not know, once and in order. A failed
read is recorded like a value, and nothing stops a sweep.

The pattern of a value is a rough shape, to tell registers that hold something from those that do not.
The first shape in the order of the type that fits is the pattern.
-/

/-! ## Patterns of values -/

namespace SysReg

/-- The rough shape of a value. -/
inductive Pattern where
  | zero
  | allOnes
  /-- The low sixteen bits are clear. -/
  | highBitsOnly
  /-- The high sixteen bits are clear. -/
  | lowBitsOnly
  | mixed
  deriving DecidableEq, Repr

namespace Pattern

/-- The name of a pattern in reports. -/
def name : Pattern → String
  | zero => "zero"
  | allOnes => "all_ones"
  | highBitsOnly => "high_bits_only"
  | lowBitsOnly => "low_bits_only"
  | mixed => "mixed"

/-- The pattern of a value. -/
def of (w : Word) : Pattern :=
  if w = 0 then zero
  else if w = BitVec.allOnes 64 then allOnes
  else if w &&& 0xFFFF = 0 then highBitsOnly
  else if w >>> 48 = 0 then lowBitsOnly
  else mixed

end Pattern

/-! ## Sweeps -/

/-- What a sweep found. -/
structure Sweep where
  /-- One reading for each encoding outside the catalog, under its canonical name. -/
  hits : List Reading
  tally : Tally
  /-- The number of encodings that the catalog knows. -/
  skipped : Nat
  deriving DecidableEq

/-- The pattern of the value of a reading. -/
def Reading.pattern? (r : Reading) : Option Pattern :=
  r.value?.map .of

namespace Sweep

/-- The hits that could be read. -/
def responsive (s : Sweep) : List Reading :=
  s.hits.filter Reading.succeeded

/-- The hits with another value than zero. -/
def nonzero (s : Sweep) : List Reading :=
  s.responsive.filter fun r => r.value?.any (· ≠ 0)

/-- The sweep that has not begun. -/
def zero : Sweep :=
  ⟨[], .zero, 0⟩

/-- One hit more, before the others. -/
def add (s : Sweep) (r : Reading) : Sweep :=
  { s with hits := r :: s.hits, tally := s.tally.count r }

/-- One encoding more that the catalog knows. -/
def skip (s : Sweep) : Sweep :=
  { s with skipped := s.skipped + 1 }

/-- The sweep with its hits the other way round. -/
def reversed (s : Sweep) : Sweep :=
  { s with hits := s.hits.reverse }

end Sweep

variable {m : Type → Type} [Monad m]

/-- Continues a sweep, whose hits are in reverse, with more encodings. -/
def Catalog.sweepFrom (c : Catalog) (tools : Instruments m) (s : Sweep) : List Encoding → m Sweep
  | [] => return s
  | e :: rest =>
    if c.knows e then c.sweepFrom tools s.skip rest
    else do
      let r ← tools.take e.canonical e
      c.sweepFrom tools (s.add r) rest

/-- Reads the encodings of a box that the catalog does not know. -/
def Catalog.sweep (c : Catalog) (tools : Instruments m) (box : Box) : m Sweep :=
  Sweep.reversed <$> c.sweepFrom tools .zero box.encodings

/-- Reads one register a number of times more, after readings that are given in reverse. -/
def Instruments.repeatedly (tools : Instruments m) (pause : m Unit) (name : String) (e : Encoding)
    (taken : List Reading) : Nat → m (List Reading)
  | 0 => return taken.reverse
  | n + 1 => do
    let r ← tools.take name e
    if n ≠ 0 then pause
    tools.repeatedly pause name e (r :: taken) n

/-- Reads one register a number of times, at least once, with a pause between two reads. -/
def Instruments.sample (tools : Instruments m) (pause : m Unit) (name : String) (e : Encoding)
    (iterations : Nat) : m (Except Failure (List Reading)) :=
  if iterations = 0 then return .error (.argument .noIterations)
  else do
    let readings ← tools.repeatedly pause name e [] iterations
    return .ok readings

end SysReg
