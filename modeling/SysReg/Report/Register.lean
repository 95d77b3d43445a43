import SysReg.Catalog.Search
import SysReg.Decoding
import SysReg.Json.Value
import SysReg.Text.Column

/-!
# Reports on definitions

Texts and JSON of what a catalog says: the layout of a register, a decoded value, listings, search
results and abbreviations.
-/

namespace SysReg

open Text

/-! ## JSON of a definition -/

/-- The bounds of a range as JSON. -/
def BitRange.json (b : BitRange) : Json :=
  .object [("high", .number b.high), ("low", .number b.low)]

/-- The kind of a field as members of an object; an enumeration lists its values. -/
def FieldKind.members (kind : FieldKind) : List (String × Json) :=
  ("kind", .string kind.name) ::
    match kind with
    | .enumerated values =>
      [("values", .object
        (values.entries.map fun entry => (Numeral.decimal entry.1.toNat, .string entry.2)))]
    | .flag | .counter | .signed | .raw => []

/-- A field as JSON. -/
def Field.json (f : Field) : Json :=
  .object (("bits", f.bits.json) :: ("label", .string f.label) :: f.kind.members)

namespace Definition

/-- A definition as JSON. -/
def json (d : Definition) : Json :=
  .object
    ([("name", .string d.name), ("encoding", .string d.encoding.canonical),
      ("category", .string d.category.name)] ++
      Json.optionalMember "description" (d.description.map .string) ++
      [("fields", .array (d.fields.map Field.json))])

/-! ## Layout and values -/

/-- A line of a field: its range, its label and a text. -/
def fieldLine (width : Nat) (bits label text : String) : String :=
  "  " ++ padRight 9 bits ++ " " ++ padRight width label ++ "  " ++ text

/-- What stands in place of the fields of a register without any. -/
def noFieldsLine : String :=
  "  (no documented fields)"

/-- The lines of a field in a layout: its kind, and under it the meanings of its values. -/
def layoutLines (width : Nat) (f : Field) : List String :=
  fieldLine width f.bits.text f.label f.kind.name ::
    match f.kind with
    | .enumerated values =>
      values.entries.map fun entry =>
        fieldLine width "" "" ("  " ++ Numeral.decimal entry.1.toNat ++ " = " ++ entry.2)
    | .flag | .counter | .signed | .raw => []

/-- The layout of a register. -/
def layoutText (d : Definition) : String :=
  let width := columnWidth (d.fields.map Field.label)
  ofLines
    ([d.name, "  Encoding: " ++ d.encoding.canonical ++ " / " ++ d.encoding.callForm,
      "  Category: " ++ d.category.name] ++
      (d.description.map ("  " ++ ·)).toList ++
      if d.fields.isEmpty then [noFieldsLine] else d.fields.flatMap (layoutLines width))

/-- A value of a register with its fields, and with the set bits that no field covers. -/
def valueText (d : Definition) (value : Word) (fields : List DecodedField) : String :=
  let width := columnWidth (fields.map DecodedField.label)
  let rest := d.undocumentedBits value
  ofLines
    ([d.name ++ " (" ++ d.encoding.canonical ++ ") = " ++ value.padded] ++
      (d.description.map ("  " ++ ·)).toList ++
      ["  Category: " ++ d.category.name] ++
      (if fields.isEmpty then [noFieldsLine]
        else fields.map fun f => fieldLine width f.bits.text f.label f.text) ++
      if rest ≠ 0 ∧ ¬d.fields.isEmpty then ["  Undocumented bits set: " ++ rest.compact] else [])

end Definition

/-! ## Listings -/

namespace Catalog

/-- A line of a listing. -/
def listingLine (width : Nat) (d : Definition) : String :=
  "  " ++ padRight width d.name ++ "  " ++ padRight 16 d.encoding.canonical ++ "  " ++
    padLeft 2 (Numeral.decimal d.fields.length) ++ " fields  " ++ d.description.getD ""

/-- The lines of a category in a listing, if it has registers there. -/
def groupLines (width : Nat) (registers : List Definition) (category : Category) : List String :=
  let members := registers.filter (·.category = category)
  if members.isEmpty then []
  else
    (category.name ++ " (" ++ Numeral.decimal members.length ++ ")") ::
      members.map (listingLine width)

/-- The registers of a category, or all of them, grouped by category. -/
def listing (c : Catalog) (filter : Option Category) : String :=
  let registers := c.select filter
  let width := columnWidth (registers.map Definition.name)
  ofLines
    (c.categories.flatMap (fun entry => groupLines width registers entry.1) ++
      [Numeral.decimal registers.length ++ " registers"])

/-- The registers of a category, or all of them, as JSON. -/
def listingJson (c : Catalog) (filter : Option Category) : Json :=
  .array ((c.select filter).map Definition.json)

end Catalog

/-! ## Search results -/

namespace SearchHit

/-- What a hit shows: the field that matches, or else the description of the register. -/
def detail (hit : SearchHit) : String :=
  match hit.part with
  | .field f => f.bits.text ++ " " ++ f.label
  | .name | .description => hit.definition.description.getD ""

/-- A line of a hit. -/
def line (width : Nat) (hit : SearchHit) : String :=
  "  " ++ padRight 11 hit.part.kind ++ "  " ++ padRight width hit.definition.name ++ "  " ++
    padRight 16 hit.definition.category.name ++ "  " ++ hit.detail

/-- The hits of a query, and their number. -/
def report (query : String) (hits : List SearchHit) : String :=
  if hits.isEmpty then ofLines ["No matches for \"" ++ query ++ "\""]
  else
    let width := columnWidth (hits.map (·.definition.name))
    ofLines (hits.map (line width) ++
      [Numeral.decimal hits.length ++ " matches for \"" ++ query ++ "\""])

/-- A hit as JSON. -/
def json (hit : SearchHit) : Json :=
  .object
    ([("register", .string hit.definition.name),
      ("encoding", .string hit.definition.encoding.canonical),
      ("category", .string hit.definition.category.name), ("match", .string hit.part.kind)] ++
      (match hit.part with
        | .field f => [("field", .string f.label), ("bits", f.bits.json)]
        | .name | .description => []) ++
      Json.optionalMember "description" (hit.definition.description.map .string))

end SearchHit

/-- Terms with their expansions, one on a line. -/
def Abbreviation.report (entries : List (String × String)) : String :=
  let width := columnWidth (entries.map (·.1))
  ofLines (entries.map fun entry => padRight width entry.1 ++ "  " ++ entry.2)

end SysReg
