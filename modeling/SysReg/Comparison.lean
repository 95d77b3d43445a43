import SysReg.Catalog.Basic
import SysReg.Json.Value
import SysReg.Snapshot.Basic

/-!
# Comparison of snapshots

Two snapshots are compared register by register, where a register is told by its name together with
its encoding. The entries follow the first snapshot, then come the registers that only the second
one has. Of two different values the catalog names the fields that read differently.
-/

namespace SysReg

/-- How a register differs between two snapshots. -/
inductive Change where
  /-- Only the second snapshot has it. -/
  | added
  /-- Only the first snapshot has it. -/
  | removed
  /-- Both have the same value. -/
  | unchanged
  /-- The values differ, in the named fields. -/
  | changed (fields : List String)
  /-- At least one of the readings failed. -/
  | unreadable
  deriving DecidableEq, Repr

/-- The name of a change in reports. -/
def Change.name : Change → String
  | added => "added"
  | removed => "removed"
  | unchanged => "unchanged"
  | changed _ => "changed"
  | unreadable => "unreadable"

/-- One register of a comparison, with its value in either snapshot. -/
structure ComparisonEntry where
  name : String
  encoding : Encoding
  before : Option Word
  after : Option Word
  change : Change
  deriving DecidableEq, Repr

/-- The numbers of entries of each kind. -/
structure ComparisonSummary where
  added : Nat
  removed : Nat
  unchanged : Nat
  changed : Nat
  unreadable : Nat
  deriving DecidableEq, Repr

/-- The entries of a comparison. -/
structure Comparison where
  entries : List ComparisonEntry
  deriving DecidableEq, Repr

namespace Comparison

/-- The first entry with the name. -/
def get? (c : Comparison) (name : String) : Option ComparisonEntry :=
  c.entries.find? (·.name = name)

/-- The number of entries of a kind. -/
def countWhere (c : Comparison) (p : Change → Bool) : Nat :=
  c.entries.countP fun entry => p entry.change

/-- The numbers of entries of each kind. -/
def summary (c : Comparison) : ComparisonSummary where
  added := c.countWhere (· = .added)
  removed := c.countWhere (· = .removed)
  unchanged := c.countWhere (· = .unchanged)
  changed := c.countWhere fun change => match change with
    | .changed _ => true
    | _ => false
  unreadable := c.countWhere (· = .unreadable)

/-- The entries that are not unchanged. -/
def differences (c : Comparison) : List ComparisonEntry :=
  c.entries.filter fun entry => entry.change ≠ .unchanged

/-- Whether there are no differences. -/
def isIdentical (c : Comparison) : Bool :=
  c.differences.isEmpty

end Comparison

/-! ## Comparing -/

namespace Catalog

/-- The definition that tells the fields of a register: that at its encoding, or else that of its
name. -/
def layoutOf? (c : Catalog) (r : Reading) : Option Definition :=
  (c.atEncoding? r.encoding).or (c.find? r.name)

/-- The change between two readings of one register. -/
def changeBetween (c : Catalog) (before after : Reading) : Except Failure Change :=
  match before.value?, after.value? with
  | some x, some y =>
    if x = y then .ok .unchanged
    else
      match c.layoutOf? before with
      | some d => (d.changedFields x y).map .changed
      | none => .ok (.changed [])
  | _, _ => .ok .unreadable

/-- The reading of the same register in a snapshot. -/
def counterpart? (s : Snapshot) (r : Reading) : Option Reading :=
  (s.get? r.name).filter (·.encoding = r.encoding)

/-- The entry of a register of the first snapshot. -/
def entryOf (c : Catalog) (b : Snapshot) (before : Reading) : Except Failure ComparisonEntry :=
  match counterpart? b before with
  | some after => do
    let change ← c.changeBetween before after
    return ⟨before.name, before.encoding, before.value?, after.value?, change⟩
  | none => .ok ⟨before.name, before.encoding, before.value?, none, .removed⟩

/-- The entry of a register that only the second snapshot has. -/
def addedEntry (after : Reading) : ComparisonEntry :=
  ⟨after.name, after.encoding, none, after.value?, .added⟩

/-- Compares two snapshots, naming fields by the catalog. -/
def compare (c : Catalog) (a b : Snapshot) : Except Failure Comparison := do
  let entries ← a.readings.mapM (c.entryOf b)
  let added := b.readings.filter fun after => (counterpart? a after).isNone
  return ⟨entries ++ added.map addedEntry⟩

end Catalog

/-! ## Writing -/

namespace Comparison

/-- The object of an entry; only a change names fields. -/
def entryJson (entry : ComparisonEntry) : Json :=
  .object
    ([("name", .string entry.name), ("encoding", .string entry.encoding.canonical),
      ("before", .optionalString (entry.before.map Word.padded)),
      ("after", .optionalString (entry.after.map Word.padded)),
      ("status", .string entry.change.name)] ++
      match entry.change with
      | .changed fields => [("fields", .array (fields.map .string))]
      | _ => [])

/-- The comparison as JSON. -/
def json (c : Comparison) : Json :=
  .object [("entries", .array (c.entries.map entryJson))]

end Comparison
end SysReg
