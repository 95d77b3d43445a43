import SysReg.Shell.Tool.Basic

/-!
# Differences

Two files are compared octet by octet, or line by line. Of lines the longest part that both files share in
the same order stays, and the rest are differences.
-/

namespace SysReg.Shell.Tool

/-! ## Octets -/

/-- The first place at which two texts differ, counted from one, its line, and the octets there; a text that
is over has none. -/
def firstDifference (place line : Nat) : List Char → List Char → Option (Nat × Nat × Option Char × Option Char)
  | [], [] => none
  | [], b :: _ => some (place, line, none, some b)
  | a :: _, [] => some (place, line, some a, none)
  | a :: as, b :: bs =>
    if a == b then firstDifference (place + 1) (if a == '\n' then line + 1 else line) as bs
    else some (place, line, some a, some b)

/-- An octet as it is shown. -/
def shownOctet (c : Char) : String :=
  let n := c.toNat
  let low := n % 128
  (if 128 ≤ n then "M-" else "") ++
    (if low < 32 then "^" ++ (Char.ofNat (low + 64)).toString
      else if low == 127 then "^?" else (Char.ofNat low).toString)

/-- An octet in octal. -/
def octalOctet (c : Char) : String :=
  String.ofList ((Nat.toDigits 8 c.toNat).leftpad 3 ' ')

/-- Compares two files octet by octet. -/
def cmp : Tool := fun c arguments => do
  let fail (text : String) : Run Nat := do
    c.report text
    c.report ("Try '" ++ c.called ++ " --help' for more information.")
    return 2
  let forms := [plain 'b' "print-bytes", valued 'i' "ignore-initial", plain 'l' "verbose", valued 'n' "bytes",
    plain 's' "quiet", plain 's' "silent", plain 'v' "version"]
  match parse forms false (arguments.length + 1) arguments with
  | .error text => fail text
  | .ok a =>
    match a.operands with
    | [] => fail ("missing operand after " ++ quoted c.called)
    | first :: others =>
      let second := others.headD "-"
      let skips := ((a.value? 'i').getD "0").splitOn ":"
      let skipOf (text : Option String) : Option Nat := (text.getD "").toList |> magnitude?
      let skip1 := ((others[1]?).bind fun text => skipOf (some text)).or (skipOf skips.head?)
      let skip2 := ((others[2]?).bind fun text => skipOf (some text)).or (skipOf (some (skips.getLastD "0")))
      match skip1, skip2, (a.value? 'n').map (magnitude? ·.toList) with
      | none, _, _ | _, none, _ => fail ("invalid --ignore-initial value " ++ quoted ((a.value? 'i').getD ""))
      | _, _, some none => fail ("invalid --bytes value " ++ quoted ((a.value? 'n').getD ""))
      | some skip1, some skip2, most =>
        let message (path : String) (fault : FileFault) : Run Nat := do
          if !a.has 's' then c.report (path ++ ": " ++ fault.reason)
          return 2
        match ← readFile first with
        | .error fault => message first fault
        | .ok text1 =>
          match ← if second == first && first != "-" then pure (.ok text1) else readFile second with
          | .error fault => message second fault
          | .ok text2 =>
            let cut (skip : Nat) (text : List Char) : List Char :=
              let rest := text.drop skip
              ((most.bind id).map rest.take).getD rest
            let text1 := cut skip1 text1
            let text2 := cut skip2 text2
            let number (n : Nat) : String := Numeral.decimal n
            let ended (path : String) (place line : Nat) (isStart : Bool) : Run Nat := do
              if !a.has 's' then
                c.report ("EOF on " ++ path ++
                  (if place == 1 then " which is empty"
                    else " after byte " ++ number (place - 1) ++
                      (if a.has 'l' then "" else (if isStart then ", line " else ", in line ") ++ number line)))
              return 1
            if a.has 'l' then
              let pairs := (text1.zip text2).zipIdx.filter fun ((x, y), _) => x != y
              let width := (number (min text1.length text2.length)).length
              pairs.forM fun ((x, y), k) =>
                Run.print (String.ofList ((number (k + 1)).toList.leftpad width ' ') ++ " " ++ octalOctet x ++
                  (if a.has 'b' then " " ++ String.ofList ((shownOctet x).toList.rightpad 4 ' ') else "") ++ " " ++
                  octalOctet y ++ (if a.has 'b' then " " ++ shownOctet y else "") ++ "\n")
              if text1.length < text2.length then ended first (text1.length + 1) 0 true
              else if text2.length < text1.length then ended second (text2.length + 1) 0 true
              else return statusIf pairs.isEmpty
            else
              match firstDifference 1 1 text1 text2 with
              | none => return 0
              | some (place, line, some x, some y) =>
                if !a.has 's' then
                  Run.print (first ++ " " ++ second ++ " differ: " ++ (if a.has 'b' then "byte " else "char ") ++
                    number place ++ ", line " ++ number line ++
                    (if a.has 'b' then " is " ++ octalOctet x ++ " " ++ shownOctet x ++ " " ++ octalOctet y ++ " " ++
                      shownOctet y else "") ++ "\n")
                return 1
              | some (place, line, x, _) =>
                let shorter := if x.isNone then (first, text1) else (second, text2)
                let isStart := shorter.2.getLast? == some '\n'
                ended shorter.1 place (if isStart then line - 1 else line) isStart

/-! ## Lines -/

/-- A line of a file: its text, what of it counts, and whether it has an end. -/
structure ComparedLine where
  text : List Char
  key : List Char
  isEnded : Bool

namespace ComparedLine

/-- The lines count as the same. -/
def same (a b : ComparedLine) : Bool :=
  a.key == b.key && a.isEnded == b.isEnded

end ComparedLine

/-- A difference: where it is in both files, and how many lines of each belong to it. -/
structure Hunk where
  first1 : Nat
  count1 : Nat
  first2 : Nat
  count2 : Nat
  deriving DecidableEq, Repr

namespace Hunk

/-- How long the longest shared parts are from each place of one file on, against a row of the other. -/
def sharedRow (line : ComparedLine) (lines2 : List ComparedLine) (below : Array Nat) : Array Nat :=
  let m := lines2.length
  let found := lines2.zipIdx.reverse.foldl (fun (row : List Nat) (other, j) =>
    let n := if line.same other then (below[j + 1]?.getD 0) + 1 else max (below[j]?.getD 0) (row.headD 0)
    n :: row) [0]
  if found.length == m + 1 then found.toArray else #[]

/-- Which lines of both files are not shared. -/
def changes (lines1 lines2 : List ComparedLine) : List Bool × List Bool :=
  let rows := lines1.reverse.foldl (fun (rows : List (Array Nat)) line =>
    sharedRow line lines2 (rows.headD #[]) :: rows) [Array.replicate (lines2.length + 1) 0]
  go (lines1.length + lines2.length + 1) 0 rows lines1 lines2
where
  /-- Goes along both files. The number is greater than that of the lines. -/
  go : Nat → (place : Nat) → List (Array Nat) → List ComparedLine → List ComparedLine → List Bool × List Bool
    | 0, _, _, _, _ => ([], [])
    | _, _, _, [], lines2 => ([], lines2.map fun _ => true)
    | _, _, _, lines1, [] => (lines1.map fun _ => true, [])
    | n + 1, j, rows, a :: as, b :: bs =>
      if a.same b then
        let (x, y) := go n (j + 1) (rows.drop 1) as bs
        (false :: x, false :: y)
      else
        let without1 := ((rows.drop 1).headD #[])[j]?.getD 0
        let without2 := (rows.headD #[])[j + 1]?.getD 0
        if without2 ≤ without1 then
          let (x, y) := go n j (rows.drop 1) as (b :: bs)
          (true :: x, y)
        else
          let (x, y) := go n (j + 1) rows (a :: as) bs
          (x, true :: y)

/-- Moves runs of changed lines as far down as the lines allow. The number is greater than that of the
lines, and the run at work is given with the line before it first. -/
def moved (lines : Array ComparedLine) : Nat → (place : Nat) → Array Bool → Array Bool
  | 0, _, flags => flags
  | n + 1, place, flags =>
    if flags.size ≤ place then flags
    else if !(flags[place]?.getD false) then moved lines n (place + 1) flags
    else
      let last := runEnd flags (flags.size - place) place
      match lines[place]?, lines[last]? with
      | some a, some b =>
        if a.same b then moved lines n (place + 1) ((flags.modify place fun _ => false).modify last fun _ => true)
        else moved lines n last flags
      | _, _ => flags
where
  /-- The end of a run. -/
  runEnd (flags : Array Bool) : Nat → Nat → Nat
    | 0, place => place
    | n + 1, place => if flags[place]?.getD false then runEnd flags n (place + 1) else place

/-- The differences that marks of both files show. -/
def ofFlags : Nat → (place1 place2 : Nat) → List Bool → List Bool → List Hunk
  | 0, _, _, _, _ => []
  | _, _, _, [], [] => []
  | n + 1, p, q, xs, ys =>
    let run1 := xs.takeWhile id
    let run2 := ys.takeWhile id
    let onward := ofFlags n (p + run1.length + 1) (q + run2.length + 1) (xs.drop (run1.length + 1))
      (ys.drop (run2.length + 1))
    if run1.isEmpty && run2.isEmpty then onward else ⟨p, run1.length, q, run2.length⟩ :: onward

/-- The differences of lines. -/
def ofLines (lines1 lines2 : List ComparedLine) : List Hunk :=
  let front := ((lines1.zip lines2).takeWhile fun (a, b) => a.same b).length
  let rest1 := lines1.drop front
  let rest2 := lines2.drop front
  let back := ((rest1.reverse.zip rest2.reverse).takeWhile fun (a, b) => a.same b).length
  let (x, y) := changes (rest1.take (rest1.length - back)) (rest2.take (rest2.length - back))
  let whole (n : Nat) (flags : List Bool) : Array Bool :=
    (List.replicate front false ++ flags ++ List.replicate (n - front - flags.length) false).toArray
  let x := moved lines1.toArray (2 * lines1.length + 2) 0 (whole lines1.length x)
  let y := moved lines2.toArray (2 * lines2.length + 2) 0 (whole lines2.length y)
  ofFlags (lines1.length + lines2.length + 1) 0 0 x.toList y.toList

/-- Lines that are shown behind a mark. -/
def marked (mark : String) (lines : List ComparedLine) : List String :=
  lines.flatMap fun line =>
    (mark ++ String.ofList line.text) :: (if line.isEnded then [] else ["\\ No newline at end of file"])

/-- The lines of a file from a place on. -/
def part (lines : List ComparedLine) (first count : Nat) : List ComparedLine :=
  (lines.drop first).take count

/-- The numbers of lines. -/
def rangeText (first count : Nat) : String :=
  if count == 0 then Numeral.decimal first
  else if count == 1 then Numeral.decimal (first + 1)
  else Numeral.decimal (first + 1) ++ "," ++ Numeral.decimal (first + count)

/-- The letter for what is done. -/
def letter (h : Hunk) : String :=
  if h.count1 == 0 then "a" else if h.count2 == 0 then "d" else "c"

/-- A difference as it is shown. -/
def normal (lines1 lines2 : List ComparedLine) (h : Hunk) : List String :=
  [rangeText h.first1 h.count1 ++ h.letter ++ rangeText h.first2 h.count2] ++
    marked "< " (part lines1 h.first1 h.count1) ++
    (if h.count1 != 0 && h.count2 != 0 then ["---"] else []) ++ marked "> " (part lines2 h.first2 h.count2)

/-- A difference as a command for an editor. -/
def command (lines2 : List ComparedLine) (h : Hunk) : List String :=
  [rangeText h.first1 h.count1 ++ h.letter] ++
    (if h.count2 == 0 then [] else marked "" (part lines2 h.first2 h.count2) ++ ["."])

/-- Differences that are shown together, as there are only so many lines around each of them. -/
def groups (around : Nat) : List Hunk → List (List Hunk)
  | [] => []
  | h :: rest =>
    match groups around rest with
    | (g :: gs) :: others =>
      if g.first1 ≤ h.first1 + h.count1 + 2 * around then (h :: g :: gs) :: others else [h] :: (g :: gs) :: others
    | others => [h] :: others

/-- The numbers of lines in the heading of a group. -/
def headingRange (first count : Nat) : String :=
  if count == 0 then Numeral.decimal first ++ ",0"
  else if count == 1 then Numeral.decimal (first + 1)
  else Numeral.decimal (first + 1) ++ "," ++ Numeral.decimal count

/-- A group of differences in one piece with lines around them. -/
def unified (around : Nat) (lines1 lines2 : List ComparedLine) (group : List Hunk) : List String :=
  match group.head?, group.getLast? with
  | some h, some last =>
    let before := min around h.first1
    let after := min around (lines1.length - (last.first1 + last.count1))
    let first1 := h.first1 - before
    let count1 := last.first1 + last.count1 + after - first1
    let first2 := h.first2 - before
    let count2 := last.first2 + last.count2 + after - first2
    let (body, place) := group.foldl (fun (shown, place) h =>
      (shown ++ marked " " (part lines1 place (h.first1 - place)) ++ marked "-" (part lines1 h.first1 h.count1) ++
        marked "+" (part lines2 h.first2 h.count2), h.first1 + h.count1)) ([], first1)
    ["@@ -" ++ headingRange first1 count1 ++ " +" ++ headingRange first2 count2 ++ " @@"] ++ body ++
      marked " " (part lines1 place after)
  | _, _ => []

/-- A group of differences in two pieces with lines around them. -/
def context (around : Nat) (lines1 lines2 : List ComparedLine) (group : List Hunk) : List String :=
  match group.head?, group.getLast? with
  | some h, some last =>
    let before := min around h.first1
    let after := min around (lines1.length - (last.first1 + last.count1))
    let side (lines : List ComparedLine) (place count : Hunk → Nat) (mark : String) : List String :=
      let start := place h - before
      let (body, place) := group.foldl (fun (shown, at') h =>
        let mark := if h.count1 != 0 && h.count2 != 0 then "! " else mark
        (shown ++ marked "  " (part lines at' (place h - at')) ++ marked mark (part lines (place h) (count h)),
          place h + count h)) ([], start)
      if group.all fun h => count h == 0 then [] else body ++ marked "  " (part lines place after)
    let range (place count : Hunk → Nat) : String :=
      let first := place h - before
      let last := place last + count last + after
      if last ≤ first then Numeral.decimal last
      else if last == first + 1 then Numeral.decimal last
      else Numeral.decimal (first + 1) ++ "," ++ Numeral.decimal last
    ["***************", "*** " ++ range (·.first1) (·.count1) ++ " ****"] ++
      side lines1 (·.first1) (·.count1) "- " ++ ["--- " ++ range (·.first2) (·.count2) ++ " ----"] ++
      side lines2 (·.first2) (·.count2) "+ "
  | _, _ => []

end Hunk

/-- What of a line counts. -/
def comparedKey (a : Arguments) (text : List Char) : List Char :=
  let isBlank (c : Char) : Bool := c == ' ' || ('\t' ≤ c && c ≤ '\x0d')
  let text := if a.has 'i' then text.map Char.toLower else text
  if a.has 'w' then text.filter fun c => !isBlank c
  else if a.has 'b' then
    let words := (text.splitOnP isBlank).zipIdx.filter fun found => found.2 == 0 || !found.1.isEmpty
    [' '].intercalate (words.map (·.1))
  else text

/-- The lines of a text to compare. -/
def comparedLines (a : Arguments) (text : List Char) : List ComparedLine :=
  let (lines, isEnded) := linesOf text
  lines.zipIdx.map fun (line, k) => ⟨line, comparedKey a line, isEnded || k + 1 < lines.length⟩

/-- Compares two files: the status. -/
def compareFiles (c : ToolCall) (a : Arguments) (heading : Option String) (path1 path2 : String) : Run Nat := do
  let read1 ← readFile path1
  let read2 ← if path1 == path2 then pure read1 else readFile path2
  match read1, read2 with
  | .error fault, .error other =>
    c.report (path1 ++ ": " ++ fault.reason)
    c.report (path2 ++ ": " ++ other.reason)
    return 2
  | .error fault, _ => c.fail 2 (path1 ++ ": " ++ fault.reason)
  | _, .error fault => c.fail 2 (path2 ++ ": " ++ fault.reason)
  | .ok text1, .ok text2 =>
    let lines1 := comparedLines a text1
    let lines2 := comparedLines a text2
    let isPlain (first count : Nat) (lines : List ComparedLine) : Bool :=
      (Hunk.part lines first count).all fun line => line.key.isEmpty
    let hunks := (Hunk.ofLines lines1 lines2).filter fun h =>
      !(a.has 'B' && isPlain h.first1 h.count1 lines1 && isPlain h.first2 h.count2 lines2)
    if hunks.isEmpty then
      if a.has 's' then Run.print ("Files " ++ path1 ++ " and " ++ path2 ++ " are identical\n")
      return 0
    else if a.has 'q' then
      Run.print ("Files " ++ path1 ++ " and " ++ path2 ++ " differ\n")
      return 1
    else if (text1.contains '\x00' || text2.contains '\x00') && !a.has 'a' then
      Run.print ("Binary files " ++ path1 ++ " and " ++ path2 ++ " differ\n")
      return 2
    else
      let labels := a.values '\x03'
      let label (k : Nat) (path : String) : String :=
        (labels[k]?).getD (path ++ "\t2023-11-14 22:13:20.000000000 +0000")
      let around := (((a.value? 'U').or (a.value? 'C')).bind String.toNat?).getD 3
      let lines :=
        if a.has 'u' || a.has 'U' then
          ["--- " ++ label 0 path1, "+++ " ++ label 1 path2] ++
            (Hunk.groups around hunks).flatMap (Hunk.unified around lines1 lines2)
        else if a.has 'c' || a.has 'C' then
          ["*** " ++ label 0 path1, "--- " ++ label 1 path2] ++
            (Hunk.groups around hunks).flatMap (Hunk.context around lines1 lines2)
        else if a.has 'e' then hunks.reverse.flatMap (Hunk.command lines2)
        else hunks.flatMap (Hunk.normal lines1 lines2)
      Run.print (String.join ((heading.toList ++ lines).map (· ++ "\n")))
      return 1

/-- Compares two directories: the status. The number bounds how deep they are. -/
def compareDirectories (c : ToolCall) (a : Arguments) (options : String) : Nat → String → String → Run Nat
  | 0, _, _ => return 2
  | n + 1, path1, path2 => do
    let t ← Run.tree
    let namesAt (path : String) : List String := match t.locate true path with
      | .ok (place, _) => t.namesIn place
      | .error _ => []
    let names1 := namesAt path1
    let names2 := namesAt path2
    let names := (names1 ++ names2.filter fun name => !names1.contains name).mergeSort fun x y => decide (x ≤ y)
    let statuses ← names.mapM fun name => do
      let inner1 := path1 ++ "/" ++ name
      let inner2 := path2 ++ "/" ++ name
      if !names2.contains name then
        Run.print ("Only in " ++ path1 ++ ": " ++ name ++ "\n")
        return 1
      else if !names1.contains name then
        Run.print ("Only in " ++ path2 ++ ": " ++ name ++ "\n")
        return 1
      else
        let isDirectory (path : String) : Bool := match t.locate true path with
          | .ok (_, node) => node.isDirectory
          | .error _ => false
        match isDirectory inner1, isDirectory inner2 with
        | true, true =>
          if a.has 'r' then compareDirectories c a options n inner1 inner2
          else
            Run.print ("Common subdirectories: " ++ inner1 ++ " and " ++ inner2 ++ "\n")
            return 0
        | false, false =>
          compareFiles c a (some (" ".intercalate ((c.called ++ options) :: [inner1, inner2]))) inner1 inner2
        | isFirst, _ =>
          let kind (isDirectory : Bool) : String := if isDirectory then "directory" else "regular file"
          Run.print ("File " ++ inner1 ++ " is a " ++ kind isFirst ++ " while file " ++ inner2 ++ " is a " ++
            kind (!isFirst) ++ "\n")
          return 1
    return statuses.foldl max 0

/-- Compares files line by line. -/
def diff : Tool := fun c arguments => do
  let fail (text : String) : Run Nat := do
    c.report text
    c.report ("Try '" ++ c.called ++ " --help' for more information.")
    return 2
  let forms := [plain 'q' "brief", plain 's' "report-identical-files", plain 'c' "", valued 'C' "context",
    plain 'u' "", ⟨'U', "unified", .optional⟩, plain 'e' "ed", plain 'n' "rcs", plain 'y' "side-by-side",
    valued 'W' "width", plain 'p' "show-c-function", valued 'F' "show-function-line", valued '\x03' "label",
    plain 't' "expand-tabs", plain 'T' "initial-tab", plain 'r' "recursive", plain 'N' "new-file",
    valued 'x' "exclude", plain 'i' "ignore-case", plain 'E' "ignore-tab-expansion",
    plain 'Z' "ignore-trailing-space", plain 'b' "ignore-space-change", plain 'w' "ignore-all-space",
    plain 'B' "ignore-blank-lines", valued 'I' "ignore-matching-lines", plain 'a' "text",
    plain '\x04' "strip-trailing-cr", plain 'd' "minimal", plain '\x05' "normal", ⟨'\x06', "color", .optional⟩]
  match parse forms false (arguments.length + 1) arguments with
  | .error text => fail text
  | .ok a =>
    match a.operands with
    | [] => fail ("missing operand after " ++ quoted (arguments.getLastD c.called))
    | [path] => fail ("missing operand after " ++ quoted path)
    | [path1, path2] =>
      let t ← Run.tree
      let isDirectory (path : String) : Bool := path != "-" && (match t.locate true path with
        | .ok (_, node) => node.isDirectory
        | .error _ => false)
      let inner (directory path : String) : String :=
        let name := String.ofList (path.toList.reverse.takeWhile (· != '/')).reverse
        if directory.endsWith "/" then directory ++ name else directory ++ "/" ++ name
      match isDirectory path1, isDirectory path2 with
      | true, true =>
        let options := String.join ((arguments.filter (·.startsWith "-")).map (" " ++ ·))
        compareDirectories c a options (t.nodes.length + 1) path1 path2
      | true, false => compareFiles c a none (inner path1 path2) path2
      | false, true => compareFiles c a none path1 (inner path2 path1)
      | false, false => compareFiles c a none path1 path2
    | _ :: _ :: extra :: _ => fail ("extra operand " ++ quoted extra)

end SysReg.Shell.Tool
