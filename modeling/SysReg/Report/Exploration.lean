import SysReg.Exploration.Behavior
import SysReg.Exploration.Inference
import SysReg.Exploration.Sweep
import SysReg.Text.Column

/-!
# Reports on explorations

Texts of what a sweep found and of how a sampled register behaved.
-/

namespace SysReg

open Text

namespace Sweep

/-- The line of a hit that could be read. -/
def hitLine (r : Reading) : String :=
  padRight 16 r.encoding.canonical ++ "  " ++ padRight 26 r.encoding.callForm ++ "  " ++
    (r.value?.map Word.padded).getD "-" ++ "  " ++ (r.pattern?.map Pattern.name).getD "-"

/-- The hits that could be read, and the numbers of all. -/
def report (s : Sweep) : String :=
  ofLines
    (s.responsive.map hitLine ++
      ["Probed " ++ Numeral.decimal s.hits.length ++ " encodings (" ++ Numeral.decimal s.skipped ++
        " already catalogued): " ++ Numeral.decimal s.tally.succeeded ++ " responsive, " ++
        Numeral.decimal s.nonzero.length ++ " non-zero; " ++ s.tally.text])

end Sweep

namespace Inference

/-- The mark of a bit. -/
def mark : BitStability → Char
  | .volatile => 'x'
  | .fixed true => '1'
  | .fixed false => '0'

/-- The marks of all bits, bit 63 first. -/
def map (i : Inference) : String :=
  String.ofList (i.bits.reverse.map mark)

/-- The line of a candidate. -/
def candidateLine (c : Candidate) : String :=
  "    " ++ padRight 9 c.bits.text ++ " " ++ c.shape.name

/-- The lines of an inference. -/
def lines (i : Inference) : List String :=
  ("  bits 63..0: " ++ i.map) ::
    if i.candidates.isEmpty then ["  no volatile bits"]
    else "  candidate fields (advisory):" :: i.candidates.map candidateLine

end Inference

namespace Behavior

/-- The number of changes that a report shows. -/
def shownChanges : Nat := 10

/-- The line of a change. -/
def changeLine (c : ValueChange) : String :=
  "    #" ++ padRight 5 (Numeral.decimal c.iteration) ++ " " ++ c.old.padded ++ " -> " ++
    c.new.padded

/-- The lines of the changes; those beyond the first ten are only counted. -/
def changeLines (changes : List ValueChange) : List String :=
  (changes.take shownChanges).map changeLine ++
    if changes.length ≤ shownChanges then []
    else ["    ... and " ++ Numeral.decimal (changes.length - shownChanges) ++ " more"]

/-- How a register of the given name behaved, with what could be inferred of its bits. -/
def report (name : String) (b : Behavior) (inference : Option Inference) : String :=
  ofLines
    ([name ++ ": " ++ Numeral.decimal b.iterations ++ " samples (" ++ Numeral.decimal b.failed ++
        " failed)",
      "  " ++ (if b.isStable then "stable" else "unstable") ++ " (" ++
        Numeral.decimal b.uniqueValues.length ++ " unique values, " ++
        Numeral.decimal b.changes.length ++ " changes)"] ++
      changeLines b.changes ++ (inference.map Inference.lines).getD [])

end Behavior
end SysReg
