import SysReg.Comparison
import SysReg.Session.Basic
import SysReg.Text.Ascii
import SysReg.Text.Column

/-!
# Reports on dumps

The table of a dump and the differences between two snapshots.
-/

namespace SysReg

open Text

/-- The form in which a result is shown. -/
inductive OutputForm where
  | text
  | json
  deriving DecidableEq, Repr

namespace OutputForm

/-- The form of a word, ASCII case aside. -/
def ofText? (word : String) : Option OutputForm :=
  match fold word with
  | "text" | "table" => some text
  | "json" => some json
  | _ => none

/-- The message on a word that names no form. -/
def unknownMessage (word : String) : String :=
  "Unknown output format: " ++ word ++ ". Use 'text' or 'json'"

end OutputForm

/-- A value in a table, or a dash. -/
def cell (value : Option Word) : String :=
  (value.map Word.padded).getD "-"

/-! ## Dumps -/

namespace Dump

/-- A line of a dump. -/
def line (width : Nat) (name encoding category value : String) : String :=
  padRight width name ++ "  " ++ padRight 16 encoding ++ "  " ++ padRight 16 category ++ "  " ++ value

/-- What a dump shows of an outcome. -/
def outcomeText : Outcome → String
  | .value w => w.padded
  | .failed detail => "error: " ++ detail

/-- The line of a reading; its category is that of its encoding in the catalog. -/
def readingLine (c : Catalog) (width : Nat) (r : Reading) : String :=
  line width r.name r.encoding.canonical
    (((c.atEncoding? r.encoding).map (·.category.name)).getD "-") (outcomeText r.outcome)

/-- The readings of a dump as a table, with its tally. -/
def table (c : Catalog) (d : Dump) : String :=
  let s := d.snapshot
  let width := max 4 (columnWidth (s.readings.map Reading.name))
  ofLines
    (["Snapshot \"" ++ s.label ++ "\" (category: " ++ (s.filter.map Category.name).getD "all" ++
        ", taken " ++ s.createdAt.offsetText ++ ")",
      line width "NAME" "ENCODING" "CATEGORY" "VALUE"] ++
      s.readings.map (readingLine c width) ++
      [Numeral.decimal s.size ++ " registers: " ++ d.tally.text ++
        if d.interrupted then " (interrupted)" else ""])

/-- A dump in a form: its table, or its snapshot as a document. -/
def render (c : Catalog) (d : Dump) : OutputForm → String
  | .text => d.table c
  | .json => d.snapshot.text

end Dump

/-- Shows a dump in a form. -/
def Session.display (s : Session) (c : Catalog) (d : Dump) (form : OutputForm) :
    Session × String :=
  (s.enter .displayed, d.render c form)

/-! ## Comparisons -/

namespace Comparison

/-- The names of the changed fields, at the end of a line. -/
def fieldsText : Change → String
  | .changed [] => ""
  | .changed fields => "  fields: " ++ ", ".intercalate fields
  | _ => ""

/-- The line of an entry. -/
def entryLine (width : Nat) (entry : ComparisonEntry) : String :=
  "  " ++ padRight 10 entry.change.name ++ "  " ++ padRight width entry.name ++ "  " ++
    cell entry.before ++ " -> " ++ cell entry.after ++ fieldsText entry.change

/-- The numbers of entries of each kind in words. -/
def summaryLine (s : ComparisonSummary) : String :=
  "Summary: " ++ Numeral.decimal s.changed ++ " changed, " ++ Numeral.decimal s.added ++
    " added, " ++ Numeral.decimal s.removed ++ " removed, " ++ Numeral.decimal s.unreadable ++
    " unreadable, " ++ Numeral.decimal s.unchanged ++ " unchanged"

/-- The differences between two snapshots of the given labels. -/
def report (a b : String) (c : Comparison) : String :=
  let width := columnWidth (c.entries.map ComparisonEntry.name)
  ofLines
    (["Comparing \"" ++ a ++ "\" -> \"" ++ b ++ "\""] ++
      c.differences.map (entryLine width) ++ [summaryLine c.summary])

end Comparison
end SysReg
