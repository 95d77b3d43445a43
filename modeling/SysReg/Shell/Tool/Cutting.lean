import SysReg.Shell.Tool.Basic

/-!
# Cutting files into pieces

Blocks of a file are copied, a file is cut into several files, and lines are put into another order.
-/

namespace SysReg.Shell.Tool

/-! ## Blocks -/

/-- The settings for copying blocks: names and values. -/
def blockSettings : List String :=
  ["if", "of", "bs", "ibs", "obs", "cbs", "count", "skip", "seek", "iseek", "oseek", "conv", "status", "iflag",
    "oflag"]

/-- What can be done to octets that are copied. -/
def conversions : List String :=
  ["ucase", "lcase", "notrunc", "sync", "swab", "noerror", "fsync", "fdatasync", "excl", "nocreat", "sparse",
    "ascii", "ebcdic", "ibm", "block", "unblock"]

/-- Two octets each the other way round. -/
def swapped : List Char → List Char
  | a :: b :: cs => b :: a :: swapped cs
  | cs => cs

/-- Pieces of so many characters. The first number is at least that of the pieces. -/
def blocksOf (size : Nat) : Nat → List Char → List (List Char)
  | 0, _ | _, [] => []
  | n + 1, cs => cs.take (max size 1) :: blocksOf size n (cs.drop (max size 1))

/-- Numbers of blocks, those that are whole and one that is not. -/
def blockCount (size length : Nat) : String :=
  Numeral.decimal (length / max size 1) ++ "+" ++ (if length % max size 1 == 0 then "0" else "1")

/-- Copies blocks of a file. -/
def dd : Tool := fun c arguments => do
  let split (text : String) : String × Option String :=
    let name := text.toList.takeWhile (· != '=')
    (String.ofList name,
      if name.length < text.length then some (text.drop (name.length + 1)).toString else none)
  let settings := (arguments.filter (· != "--")).map fun text => (text, split text)
  match settings.find? fun (_, name, value) => value.isNone || !blockSettings.contains name with
  | some (text, _) => c.misuse 1 ("unrecognized operand " ++ quoted text)
  | none =>
    let value? (name : String) : Option String :=
      ((settings.filter fun (_, found, _) => found == name).getLast?).bind fun (_, _, value) => value
    let sizes := ["bs", "ibs", "obs", "count", "skip", "seek", "iseek", "oseek"]
    let isBad (name : String) : Option String := (value? name).bind fun text =>
      match magnitude? text.toList with
      | none => some text
      | some n => if n == 0 && ["bs", "ibs", "obs"].contains name then some text else none
    let conv := ((value? "conv").getD "").splitOn "," |>.filter (!·.isEmpty)
    match sizes.findSome? isBad, conv.find? (!conversions.contains ·) with
    | some text, _ => c.fail 1 ("invalid number: " ++ quoted text)
    | none, some text => c.misuse 1 ("invalid conversion: " ++ quoted text)
    | none, none =>
      let status := (value? "status").getD "default"
      if !(["none", "noxfer", "progress", "default"].contains status) then
        return ← c.misuse 1 ("invalid status level: " ++ quoted status)
      let number (name : String) : Option Nat := (value? name).bind fun text => magnitude? text.toList
      let inSize := ((number "bs").or (number "ibs")).getD 512
      let outSize := ((number "bs").or (number "obs")).getD 512
      let skip := ((number "skip").or (number "iseek")).getD 0
      let seek := ((number "seek").or (number "oseek")).getD 0
      match ← readFile ((value? "if").getD "-") with
      | .error fault => c.fail 1 ("failed to open " ++ quoted ((value? "if").getD "") ++ ": " ++ fault.reason)
      | .ok text =>
        let rest := text.drop (skip * inSize)
        let used := match number "count" with
          | some count => rest.take (count * inSize)
          | none => rest
        let cs := if conv.contains "sync" then
            used ++ List.replicate ((inSize - used.length % inSize) % inSize) '\x00'
          else used
        let cs := if conv.contains "swab" then swapped cs else cs
        let cs := if conv.contains "ucase" then cs.map Char.toUpper
          else if conv.contains "lcase" then cs.map Char.toLower else cs
        if text.length < skip * inSize && (value? "if").isSome then
          c.report ((value? "if").getD "" ++ ": cannot skip to specified offset")
        let report : Run Unit := do
          if status != "none" then
            Run.complain (blockCount inSize used.length ++ " records in\n" ++ blockCount outSize cs.length ++
              " records out\n")
            if status != "noxfer" then
              Run.complain (Numeral.decimal cs.length ++ " bytes copied, 0.0001 s, 1.0 MB/s\n")
        match value? "of" with
        | none =>
          Run.print (String.ofList cs)
          report
          return 0
        | some path =>
          let t ← Run.tree
          let before := (t.readOctets path).toOption.getD []
          let keeps := conv.contains "notrunc"
          let front := before.take (seek * outSize)
          let front := front ++ List.replicate (seek * outSize - front.length) 0
          let octets := front ++ cs.map Char.toNat ++
            (if keeps then before.drop (front.length + cs.length) else [])
          match t.placeToWrite path with
          | .error fault => c.fail 1 ("failed to open " ++ quoted path ++ ": " ++ fault.reason)
          | .ok place =>
            match t.writeOctets place octets with
            | .error fault => c.fail 1 ("failed to open " ++ quoted path ++ ": " ++ fault.reason)
            | .ok t =>
              Run.setTree t
              report
              return 0

/-! ## Files from pieces -/

/-- The ending of a file by its number: letters or digits, so many of them. -/
def pieceName (base : Nat) (first : Char) : Nat → Nat → List Char
  | 0, _ => []
  | n + 1, k => pieceName base first n (k / base) ++ [Char.ofNat (first.toNat + k % base)]

/-- Lines that are put into pieces of so many octets at most. -/
def linePieces (size : Nat) (current : List Char) : List (List Char) → List (List Char)
  | [] => if current.isEmpty then [] else [current]
  | line :: lines =>
    if current.isEmpty || current.length + line.length ≤ size then linePieces size (current ++ line) lines
    else current :: linePieces size line lines

/-- Cuts a file into pieces. -/
def splitFile : Tool := withOptions
  [valued 'a' "suffix-length", valued '\x03' "additional-suffix", valued 'b' "bytes", valued 'C' "line-bytes",
    ⟨'d', "numeric-suffixes", .optional⟩, ⟨'x', "hex-suffixes", .optional⟩, plain 'e' "elide-empty-files",
    valued '\x04' "filter", valued 'l' "lines", valued 'n' "number", valued 't' "separator",
    plain 'u' "unbuffered", plain '\x05' "verbose"] 1 (fun c a => do
  let invalid (letter : Char) (what : String) : Option String := (a.value? letter).bind fun text =>
    match magnitude? text.toList with
    | some (_ + 1) => none
    | _ => some ("invalid number of " ++ what ++ ": " ++ quoted text)
  match a.operands with
  | _ :: _ :: extra :: _ => c.misuse 1 ("extra operand " ++ quoted extra)
  | operands =>
    match [invalid 'l' "lines", invalid 'b' "bytes", invalid 'C' "bytes"].findSome? id with
    | some text => c.fail 1 text
    | none =>
      let path := operands.headD "-"
      match ← readFile path with
      | .error fault => c.fail 1 ("cannot open " ++ quoted path ++ " for reading: " ++ fault.reason)
      | .ok text =>
        let number (letter : Char) : Option Nat := (a.value? letter).bind fun text => magnitude? text.toList
        let lines := (text.splitOn '\n').dropLast.map (· ++ ['\n']) ++
          (match (text.splitOn '\n').getLast? with
            | some [] | none => []
            | some last => [last])
        let pieces : List (List Char) := match number 'b', number 'C', number 'n' with
          | some size, _, _ => blocksOf size text.length text
          | none, some size, _ => linePieces size [] lines
          | none, none, some count =>
            let size := (text.length + max count 1 - 1) / max count 1
            (List.range count).map fun k => (text.drop (k * size)).take size
          | none, none, none =>
            let size := max ((number 'l').getD 1000) 1
            (List.range ((lines.length + size - 1) / size)).map fun k =>
              ((lines.drop (k * size)).take size).flatten
        let front := (operands.drop 1).headD "x"
        let width := ((a.value? 'a').bind String.toNat?).getD 2
        let named (k : Nat) : String :=
          let ending := if a.has 'd' then pieceName 10 '0' width k else pieceName 26 'a' width k
          front ++ String.ofList ending ++ (a.value? '\x03').getD ""
        let outcomes ← pieces.zipIdx.mapM fun (piece, k) => do
          if a.has '\x05' then Run.print ("creating file " ++ quoted (named k) ++ "\n")
          let t ← Run.tree
          match t.placeToWrite (named k) >>= fun place => t.writeOctets place (piece.map Char.toNat) with
          | .ok t =>
            Run.setTree t
            return true
          | .error fault =>
            c.report (named k ++ ": " ++ fault.reason)
            return false
        return statusIf (outcomes.all (· == true))) false

/-! ## Order by chance, and by pairs -/

/-- Puts elements into an order that looks like chance. -/
def shuffled {α : Type} (seed : Nat) (xs : List α) : List α :=
  ((xs.zipIdx.map fun (x, k) => ((seed + 7919 * k) * 2654435761 % 0x100000000, x)).mergeSort
    fun a b => decide (a.1 ≤ b.1)).map (·.2)

/-- Prints lines in an order by chance. -/
def shuf : Tool := withOptions
  [plain 'e' "echo", valued 'i' "input-range", valued 'n' "head-count", valued 'o' "output", plain 'r' "repeat",
    plain 'z' "zero-terminated", valued '\x03' "random-source"] 1 (fun c a => do
  let ending := if a.has 'z' then '\x00' else '\n'
  let most := (a.value? 'n').map String.toNat?
  if most == some none then return ← c.fail 1 ("invalid line count: " ++ quoted ((a.value? 'n').getD ""))
  let found : Except String (Option (List (List Char))) := match a.value? 'i' with
    | some text =>
      match (text.splitOn "-").map String.toNat? with
      | [some low, some high] =>
        if low ≤ high + 1 then .ok (some ((List.range' low (high + 1 - low)).map fun n => Nat.toDigits 10 n))
        else .error ("invalid input range: " ++ quoted text)
      | _ => .error ("invalid input range: " ++ quoted text)
    | none => .ok (if a.has 'e' then some (a.operands.map String.toList) else none)
  match found with
  | .error text => c.fail 1 text
  | .ok lines? =>
    let lines? ← match lines?, a.operands with
      | some lines, _ => pure (some lines)
      | none, _ :: extra :: _ =>
        let _ ← c.misuse 1 ("extra operand " ++ quoted extra)
        pure none
      | none, operands => do
        pure ((← readOr c id (operands.headD "-")).map fun text => (linesBy ending text).1)
    match lines? with
    | none => return 1
    | some lines =>
      let shown := shuffled 17 lines
      Run.print (ofLinesBy ending ((((most.bind id).map shown.take).getD shown)) true)
      return 0) false

/-- Elements in an order in which each comes behind those that pairs put in front of it, and whether there is
one. The number is at least that of the elements. -/
def orderedByPairs (pairs : List (String × String)) : Nat → List String → List String × List String
  | 0, names => ([], names)
  | n + 1, names =>
    match names.filter fun name => pairs.all fun (a, b) => b != name || a == b || !names.contains a with
    | [] => ([], names)
    | free =>
      let (others, left) := orderedByPairs pairs n (names.filter (!free.contains ·))
      (free ++ others, left)

/-- Puts names into an order that pairs of them ask for. -/
def tsort : Tool := withOptions [] 1 (fun c a => do
  let path := a.operands.headD "-"
  match ← readOr c id path with
  | none => return 1
  | some text =>
    let isBlank (c : Char) : Bool := c == ' ' || c == '\t' || c == '\n'
    let words := ((text.splitOnP isBlank).filter (!·.isEmpty)).map String.ofList
    if words.length % 2 == 1 then return ← c.fail 1 (path ++ ": input contains an odd number of tokens")
    let pairs := (words.zip (words.drop 1)).zipIdx.filterMap fun (pair, k) =>
      if k % 2 == 0 then some pair else none
    let names := words.eraseDups
    let (shown, left) := orderedByPairs pairs (names.length + 1) names
    if left.isEmpty then
      Run.print (String.join (shown.map (· ++ "\n")))
      return 0
    else
      c.report (path ++ ": input contains a loop:")
      left.forM c.report
      Run.print (String.join ((shown ++ left).map (· ++ "\n")))
      return 1) false

/-- Gives a file one more name. -/
def link : Tool := withOptions [] 1 (fun c a => do
  match a.operands with
  | [] => c.misuse 1 "missing operand"
  | [path] => c.misuse 1 ("missing operand after " ++ quoted path)
  | [path, new] =>
    let t ← Run.tree
    let linked : Except FileFault FileTree := do
      let (_, node) ← t.locate false path
      let place ← t.placeToWrite new
      if (t.node? place).isSome then throw .alreadyExists
      return t.put place node
    match linked with
    | .ok t =>
      Run.setTree t
      return 0
    | .error fault => c.fail 1 ("cannot create link " ++ quoted new ++ " to " ++ quoted path ++ ": " ++ fault.reason)
  | _ :: _ :: extra :: _ => c.misuse 1 ("extra operand " ++ quoted extra)) false

end SysReg.Shell.Tool
