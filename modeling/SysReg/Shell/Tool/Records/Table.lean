import Std.Data.HashMap
import SysReg.Shell.Tool.Records.Value

/-!
# Tables

A table gives values to names, which are texts or integers. The names are kept in lists, one for each rest
of a division, in which a name that is asked for moves to the front; the order in which a table is gone over
comes from that.
-/

namespace SysReg.Shell.Records

/-- Names are hashed character by character. -/
instance hashableName : Hashable (List Char) where
  hash cs := cs.foldl (fun h c => mixHash h c.toNat.toUInt64) 7

/-- A table. -/
structure Table where
  values : Std.HashMap (List Char) Datum
  /-- The names in lists by the rest of their hash. -/
  texts : Array (List (List Char))
  /-- The integers in lists by their rest. -/
  numbers : Array (List Int)
  /-- All names are in the lists of texts. -/
  isNamed : Bool

namespace Table

/-- The number of lists. -/
def listCount : Nat := 64

/-- A table without names. -/
def empty : Table :=
  ⟨∅, Array.replicate listCount [], Array.replicate listCount [], false⟩

/-- The hash of a text: every character is mixed in and the result multiplied. -/
def hash (cs : List Char) : Nat :=
  cs.foldl (fun h c => (h ^^^ c.toNat) * 16777619 % 0x100000000) 2166136261

/-- The name of an integer. -/
def nameOf (n : Int) : List Char :=
  (Numeral.signedDecimal n).toList

/-- The list of a text. -/
def listOfText (cs : List Char) : Nat :=
  hash cs % listCount

/-- The list of an integer. -/
def listOfNumber (n : Int) : Nat :=
  (n % (listCount : Int)).toNat

/-- Puts a name into its list in front. -/
def addText (t : Table) (name : List Char) : Table :=
  { t with texts := t.texts.modify (listOfText name) (name :: ·) }

/-- All names in the lists of texts. -/
def named (t : Table) : Table :=
  if t.isNamed then t
  else
    let known := t.texts.toList.flatten
    let missing := (t.numbers.toList.flatten.map nameOf).filter fun name => !known.contains name
    { missing.foldl addText t with isNamed := true }

/-- The table after it was asked for a text, which it now has. -/
def touchText (t : Table) (name : List Char) : Table :=
  let t := t.named
  let t := { t with
    texts := t.texts.modify (listOfText name) fun names => name :: names.filter (· != name) }
  if t.values.contains name then t else { t with values := t.values.insert name .unset }

/-- The table after it was asked for an integer, which it now has. -/
def touchNumber (t : Table) (n : Int) : Table :=
  let name := nameOf n
  let isListed := (t.numbers[listOfNumber n]?.getD []).contains n
  let t := if !isListed && t.isNamed then t.touchText name else t
  let t := { t with
    numbers := t.numbers.modify (listOfNumber n) fun names => n :: names.filter (· != n) }
  if t.values.contains name then t else { t with values := t.values.insert name .unset }

/-- What a value is as a name: an integer or a text. -/
def subscript (form : List Char) : Datum → Int ⊕ List Char
  | .number x =>
    match Datum.integer? x with
    | some n => .inl n
    | none => .inr (Datum.numberText form x)
  | d => .inr (d.toText form)

/-- The name of a subscript. -/
def subscriptName : Int ⊕ List Char → List Char
  | .inl n => nameOf n
  | .inr name => name

/-- The table after it was asked for a name. -/
def touch (t : Table) (s : Int ⊕ List Char) : Table :=
  match s with
  | .inl n => t.touchNumber n
  | .inr name => t.touchText name

/-- The value of a name, which the table has. -/
def value (t : Table) (s : Int ⊕ List Char) : Datum :=
  t.values.getD (subscriptName s) .unset

/-- Gives a name a value. -/
def put (t : Table) (s : Int ⊕ List Char) (d : Datum) : Table :=
  let t := t.touch s
  { t with values := t.values.insert (subscriptName s) d }

/-- The table has a name. -/
def contains (t : Table) (s : Int ⊕ List Char) : Bool :=
  t.values.contains (subscriptName s)

/-- Forgets a name. -/
def erase (t : Table) (s : Int ⊕ List Char) : Table :=
  let name := subscriptName s
  { t with
    values := t.values.erase name
    texts := t.texts.modify (listOfText name) fun names => names.filter (· != name)
    numbers := t.numbers.map fun names => names.filter fun n => nameOf n != name }

/-- The table of values in order, named by numbers from one on. -/
def ofList (values : List Datum) : Table :=
  values.zipIdx.foldl (fun t (d, n) => t.put (.inl ((n : Int) + 1)) d) empty

/-- The table with its names in the order in which it is gone over. -/
def ordered (t : Table) : Table × List (List Char) :=
  let t := t.named
  (t, t.texts.toList.flatten)

/-- The number of names. -/
def size (t : Table) : Nat :=
  t.values.size

end Table
end SysReg.Shell.Records
