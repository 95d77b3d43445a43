import SysReg.Shell.Directive
import SysReg.Shell.Tool.Basic

/-!
# Dumps

The octets of files in rows, each octet or group of octets spelled in one or more ways.
-/

namespace SysReg.Shell.Tool

/-- How a group of octets is spelled. -/
inductive DumpKind where
  | named
  | character
  | signed
  | unsigned
  | octal
  | hexadecimal
  | real
  deriving DecidableEq, Repr

/-- A way to spell the octets of a row. -/
structure DumpForm where
  kind : DumpKind
  /-- The octets of a group. -/
  size : Nat
  /-- The row is shown as text behind it. -/
  withText : Bool
  deriving DecidableEq, Repr

namespace DumpForm

/-- How wide a group is shown. -/
def width (f : DumpForm) : Nat :=
  let among (widths : List (Nat × Nat)) : Nat := (widths.lookup f.size).getD 3
  match f.kind with
  | .named | .character => 3
  | .signed => among [(1, 4), (2, 6), (4, 11), (8, 20)]
  | .unsigned => among [(1, 3), (2, 5), (4, 10), (8, 20)]
  | .octal => among [(1, 3), (2, 6), (4, 11), (8, 22)]
  | .hexadecimal => 2 * f.size
  | .real => if f.size == 4 then 15 else 24

/-- The names of the first octets. -/
def names : List String :=
  ["nul", "soh", "stx", "etx", "eot", "enq", "ack", "bel", "bs", "ht", "nl", "vt", "ff", "cr", "so", "si", "dle",
    "dc1", "dc2", "dc3", "dc4", "nak", "syn", "etb", "can", "em", "sub", "esc", "fs", "gs", "rs", "us", "sp"]

/-- How some octets are spelled as characters. -/
def escapes : List (Nat × String) :=
  [(0, "\\0"), (7, "\\a"), (8, "\\b"), (9, "\\t"), (10, "\\n"), (11, "\\v"), (12, "\\f"), (13, "\\r")]

/-- The shortest spelling of a real that is read as the same number. -/
def shortest (same : List Char → Bool) (x : Real) : List Char :=
  let candidates := (List.range' 1 17).map fun precision => Real.spelled 'g' (some precision) false x
  (candidates.find? same).getD (Real.spelled 'g' (some 17) false x)

/-- The number whose bits in the single format these are. -/
def singleOf (bits : Nat) : Real :=
  let isNegative := bits / 0x80000000 == 1
  let exponent := bits / 0x800000 % 256
  let mantissa := bits % 0x800000
  if exponent == 255 then if mantissa == 0 then .infinite isNegative else .undefined isNegative
  else if exponent == 0 then .fraction isNegative mantissa (Nat.pow 2 149)
  else if 150 ≤ exponent then .fraction isNegative ((0x800000 + mantissa) * Nat.pow 2 (exponent - 150)) 1
  else .fraction isNegative (0x800000 + mantissa) (Nat.pow 2 (150 - exponent))

/-- The spelling of a real whose bits these are. -/
def realText (size bits : Nat) : List Char :=
  let x := if size == 4 then singleOf bits else Real.ofBits bits.toUInt64
  let same (cs : List Char) : Bool :=
    match Real.ofText? cs with
    | some (y, _) =>
      if size == 4 then y.toFloat.toFloat32 == x.toFloat.toFloat32
      else y.toFloat == x.toFloat
    | none => false
  (if x.isNegative then ['-'] else []) ++ shortest (fun cs => same (if x.isNegative then '-' :: cs else cs)) x

/-- A group of octets, the least first. -/
def spell (f : DumpForm) (octets : List Nat) : List Char :=
  let n := octets.reverse.foldl (fun n octet => 256 * n + octet) 0
  let digits (base : Nat) : List Char := (Nat.toDigits base n).leftpad f.width '0'
  match f.kind with
  | .named =>
    let n := n % 128
    if n == 127 then ['d', 'e', 'l'] else ((names[n]?).map String.toList).getD [Char.ofNat n]
  | .character =>
    match escapes.lookup n with
    | some text => text.toList
    | none => if 32 ≤ n && n < 127 then [Char.ofNat n] else (Nat.toDigits 8 n).leftpad 3 '0'
  | .signed =>
    let bits := 8 * f.size
    (Numeral.signedDecimal (if Nat.pow 2 (bits - 1) ≤ n then (n : Int) - Nat.pow 2 bits else n)).toList
  | .unsigned => Nat.toDigits 10 n
  | .octal => digits 8
  | .hexadecimal => digits 16
  | .real => realText f.size n

end DumpForm

/-- How octets are dumped. -/
structure DumpJob where
  forms : List DumpForm
  /-- The base of the places, if they are shown, and their width. -/
  radix : Option (Nat × Nat)
  /-- The octets of a row. -/
  row : Nat
  /-- Rows that are like the one before are shown too. -/
  isFull : Bool
  /-- The first octet of a group is its greatest. -/
  isBigEndian : Bool

namespace DumpJob

/-- How wide the groups of a row are shown with what is between them. -/
def rowWidth (j : DumpJob) : Nat :=
  (j.forms.map fun f => (f.width + 1) * (j.row / f.size)).foldl max 0

/-- A row in one form. What is missing in its width is spread over its groups. -/
def rowText (j : DumpJob) (f : DumpForm) (octets : List Nat) : List Char :=
  let fields := j.row / f.size
  let pad := j.rowWidth - f.width * fields
  let groups := (List.range ((octets.length + f.size - 1) / f.size)).map fun k =>
    let group := (octets.drop (f.size * k)).take f.size
    let group := group ++ List.replicate (f.size - group.length) 0
    if j.isBigEndian then group.reverse else group
  let padUpTo (k : Nat) : Nat := pad * (fields - k) / fields
  let shown := groups.zipIdx.flatMap fun (group, k) =>
    let width := padUpTo k - padUpTo (k + 1) + f.width
    (f.spell group).leftpad width ' '
  if f.withText then
    let missing := padUpTo groups.length + f.width * (fields - groups.length)
    shown ++ List.replicate missing ' ' ++ [' ', ' ', '>'] ++
      (octets.map fun n => if 32 ≤ n && n < 127 then Char.ofNat n else '.') ++ ['<']
  else shown

/-- A place in front of a row. -/
def place (j : DumpJob) (offset : Nat) : List Char :=
  match j.radix with
  | some (base, width) => (Nat.toDigits base offset).leftpad width '0'
  | none => []

/-- A row in all forms. -/
def rowLines (j : DumpJob) (offset : Nat) (octets : List Nat) : List (List Char) :=
  j.forms.zipIdx.map fun (f, k) =>
    let front := j.place offset
    (if k == 0 then front else List.replicate front.length ' ') ++ j.rowText f octets

/-- The rows of octets, given the one before and whether its likes were passed over. The number is at least
that of the rows. -/
def rows (j : DumpJob) : Nat → (offset : Nat) → (before : Option (List Nat)) → (isPassing : Bool) → List Nat →
    List (List Char)
  | 0, _, _, _, _ | _, _, _, _, [] => []
  | n + 1, offset, before, isPassing, octets =>
    let row := octets.take j.row
    let rest := octets.drop j.row
    if !j.isFull && before == some row && row.length == j.row then
      (if isPassing then [] else [['*']]) ++ rows j n (offset + j.row) before true rest
    else j.rowLines offset row ++ rows j n (offset + j.row) (some row) false rest

/-- The dump of octets from an offset on. -/
def lines (j : DumpJob) (offset : Nat) (octets : List Nat) : List (List Char) :=
  rows j (octets.length + 1) offset none false octets ++
    (match j.radix with
      | some _ => [j.place (offset + octets.length)]
      | none => [])

end DumpJob

/-- The kinds by their letters, with the size of their groups if none is said. -/
def dumpKinds : List (Char × DumpKind × Nat) :=
  [('a', .named, 1), ('c', .character, 1), ('d', .signed, 4), ('u', .unsigned, 4), ('o', .octal, 4),
    ('x', .hexadecimal, 4), ('f', .real, 8)]

/-- The sizes by their letters. -/
def dumpSizes : List (Char × Nat) :=
  [('C', 1), ('S', 2), ('I', 4), ('L', 8), ('F', 4), ('D', 8)]

/-- The forms of a text, or what is wrong with it. The number is at least that of the characters. -/
def dumpForms (whole : String) : Nat → List Char → Except String (List DumpForm)
  | 0, _ | _, [] => .ok []
  | n + 1, c :: cs =>
    match dumpKinds.lookup c with
    | none => .error ("invalid character " ++ quoted c.toString ++ " in type string " ++ quoted whole)
    | some (kind, default) => do
      let digits := cs.takeWhile Char.isDigit
      let (size, rest) :=
        if kind == .named || kind == .character then (1, cs)
        else if !digits.isEmpty then (Real.ofDigits digits, cs.drop digits.length)
        else
          match cs with
          | letter :: rest =>
            match dumpSizes.lookup letter with
            | some size => (size, rest)
            | none => (default, cs)
          | [] => (default, cs)
      let sizes := if kind == .real then [4, 8] else [1, 2, 4, 8]
      if !sizes.contains size then
        throw ("invalid type string " ++ quoted whole ++ ";\nthis system doesn't provide a " ++
          Numeral.decimal size ++ "-byte " ++ (if kind == .real then "floating point" else "integral") ++ " type")
      let (withText, rest) := match rest with
        | 'z' :: rest => (true, rest)
        | rest => (false, rest)
      return ⟨kind, size, withText⟩ :: (← dumpForms whole n rest)

/-- The forms that options name. -/
def shortDumpForms : List (Char × String) :=
  [('a', "a"), ('b', "o1"), ('c', "c"), ('d', "u2"), ('f', "f4"), ('i', "d4"), ('l', "d8"), ('o', "o2"), ('s', "d2"),
    ('x', "x2"), ('h', "x2"), ('B', "o2"), ('D', "u4"), ('e', "f8"), ('F', "f8"), ('H', "x4"), ('I', "d8"),
    ('L', "d8"), ('O', "o4"), ('X', "x4")]

/-- The bases of places by their letters, with the width of a place. -/
def dumpRadixes : List (String × Option (Nat × Nat)) :=
  [("o", some (8, 7)), ("d", some (10, 7)), ("x", some (16, 6)), ("n", none)]

/-- A number of octets. -/
def octetCount? (text : String) : Option Nat :=
  match text.toList with
  | '0' :: 'x' :: digits =>
    if !digits.isEmpty && digits.all Numeral.isHexDigit then
      some (digits.foldl (fun n c => 16 * n + (Numeral.digitValue? c).getD 0) 0)
    else none
  | cs => magnitude? cs

/-- Dumps files. -/
def od : Tool := withOptions
  ([valued 'A' "address-radix", valued 'j' "skip-bytes", valued 'N' "read-bytes", valued 't' "format",
    plain 'v' "output-duplicates", ⟨'w', "width", .optional⟩, valued 'S' "strings", ⟨'\x03', "endian", .required⟩] ++
    shortDumpForms.map fun (letter, _) => plain letter "") 1 (fun c a => do
  let texts := a.options.filterMap fun (letter, value) =>
    if letter == 't' then some value else shortDumpForms.lookup letter
  let count (letter : Char) : Except String (Option Nat) :=
    match a.value? letter with
    | none => .ok none
    | some text =>
      match octetCount? text with
      | some n => .ok (some n)
      | none => .error ("invalid -" ++ letter.toString ++ " argument " ++ quoted text)
  let job : Except String (DumpJob × Option Nat × Option Nat) := do
    let skipped ← count 'j'
    let most ← count 'N'
    let radix ← match a.value? 'A' with
      | none => pure (some (8, 7))
      | some text =>
        match text.toList.head?.bind fun letter => dumpRadixes.lookup letter.toString with
        | some radix => pure radix
        | none => throw ("invalid output address radix '" ++ (text.take 1).toString ++
            "'; it must be one character from [doxn]")
    let forms := (← texts.mapM fun text => dumpForms text text.length text.toList).flatten
    let forms := if forms.isEmpty then [⟨.octal, 2, false⟩] else forms
    let largest := (forms.map (·.size)).foldl max 1
    let row := match a.value? 'w' with
      | some "" => 32
      | some text => text.toNat?.getD 16
      | none => 16
    let row := if row == 0 || row % largest != 0 then largest else row
    let isBigEndian := (a.value? '\x03').any fun text => text != "" && text.isPrefixOf "big"
    return (⟨forms, radix, row, a.has 'v', isBigEndian⟩, skipped, most)
  match job with
  | .error text => c.fail 1 text
  | .ok (job, skipped, most) =>
    let (files, isGood) ← readFiles c id a.operands
    let octets := files.flatMap fun (_, text) => text.map Char.toNat
    let skipped := skipped.getD 0
    if octets.length < skipped then return ← c.fail 1 "cannot skip past end of combined input"
    let octets := (octets.drop skipped)
    let octets := (most.map octets.take).getD octets
    if files.isEmpty && !isGood then return 1
    Run.print (ofLines (job.lines skipped octets) true)
    return statusIf isGood) false

end SysReg.Shell.Tool
