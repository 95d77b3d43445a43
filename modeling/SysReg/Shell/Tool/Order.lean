import SysReg.Shell.Tool.Basic

/-!
# Tools for lines in order

Lines are sorted by keys, lines that follow each other and are alike are counted, and two files in order
are compared or joined.
-/

namespace SysReg.Shell.Tool

/-! ## Comparison of lines -/

/-- A blank within a line. -/
def isLineBlank (c : Char) : Bool :=
  c == ' ' || c == '\t'

/-- What a text begins with as a number of a kind: its sign, digits and places. -/
structure LeadingNumber where
  isNegative : Bool
  whole : List Char
  places : List Char
  rest : List Char

/-- The number at the start of a text. -/
def leadingNumber (cs : List Char) : LeadingNumber :=
  let cs := cs.dropWhile isLineBlank
  let (isNegative, cs) := match cs with
    | '-' :: rest => (true, rest)
    | cs => (false, cs)
  let whole := cs.takeWhile Char.isDigit
  let rest := cs.drop whole.length
  match rest with
  | '.' :: after =>
    let places := after.takeWhile Char.isDigit
    ⟨isNegative, whole, places, after.drop places.length⟩
  | rest => ⟨isNegative, whole, [], rest⟩

/-- The value of a number, with so many places. -/
def LeadingNumber.scaled (n : LeadingNumber) (places : Nat) : Int :=
  let magnitude : Int := Real.ofDigits (n.whole ++ n.places.rightpad places '0')
  if n.isNegative then -magnitude else magnitude

/-- Compares two texts as numbers. -/
def compareNumbers (a b : List Char) : Ordering :=
  let m := leadingNumber a
  let n := leadingNumber b
  let places := max m.places.length n.places.length
  compare (m.scaled places) (n.scaled places)

/-- Compares two texts as numbers with letters for powers behind them. -/
def compareSizes (a b : List Char) : Ordering :=
  let rank (n : LeadingNumber) : Int :=
    if (n.whole ++ n.places).all (· == '0') then 0
    else
      let power : Int := match n.rest.head? with
        | some c => (['K', 'M', 'G', 'T', 'P', 'E', 'Z', 'Y'].idxOf? c.toUpper).elim 1 fun i => i + 2
        | none => 1
      if n.isNegative then -power else power
  (compare (rank (leadingNumber a)) (rank (leadingNumber b))).then (compareNumbers a b)

/-- Compares two texts as reals, of which those that are none come first. -/
def compareReals (a b : List Char) : Ordering :=
  let value (cs : List Char) : Option Real := (Real.ofText? cs).map (·.1)
  match value a, value b with
  | none, none => .eq
  | none, some _ => .lt
  | some _, none => .gt
  | some (.fraction m p q), some (.fraction n r s) =>
    let sign (isNegative : Bool) (k : Int) : Int := if isNegative then -k else k
    compare (sign m (p * s : Nat)) (sign n (r * q : Nat))
  | some x, some y =>
    let rank : Real → Int
      | .undefined _ => -2
      | .infinite isNegative => if isNegative then -1 else 1
      | .fraction _ _ _ => 0
    compare (rank x) (rank y)

/-- The number of a month whose name a text begins with, or zero. -/
def monthOf (cs : List Char) : Nat :=
  let name := String.ofList (((cs.dropWhile isLineBlank).take 3).map Char.toUpper)
  ((["JAN", "FEB", "MAR", "APR", "MAY", "JUN", "JUL", "AUG", "SEP", "OCT", "NOV", "DEC"].idxOf? name).map
    (· + 1)).getD 0

/-- Where a character of a version stands in the order. The end stands at zero. -/
def versionRank : Option Char → Int
  | none => 0
  | some c =>
    if c.isDigit then 0 else if c.isAlpha then c.toNat else if c == '~' then -1 else c.toNat + 256

/-- Compares two versions, part by part: texts, and numbers between them. The number is greater than that
of the characters. -/
def compareVersions : Nat → List Char → List Char → Ordering
  | 0, _, _ => .eq
  | _, [], [] => .eq
  | n + 1, a, b =>
    let isText (cs : List Char) : Bool := cs.head?.any fun c => !c.isDigit
    if isText a || isText b then
      match compare (versionRank a.head?) (versionRank b.head?) with
      | .eq =>
        compareVersions n (if isText a then a.drop 1 else a) (if isText b then b.drop 1 else b)
      | found => found
    else
      let digits := a.takeWhile Char.isDigit
      let others := b.takeWhile Char.isDigit
      (compare (Real.ofDigits digits) (Real.ofDigits others)).then
        (compareVersions n (a.drop digits.length) (b.drop others.length))

/-- Compares two texts by their octets. -/
def compareTexts : List Char → List Char → Ordering
  | [], [] => .eq
  | [], _ :: _ => .lt
  | _ :: _, [] => .gt
  | a :: as, b :: bs => (compare a b).then (compareTexts as bs)

/-! ## Keys -/

/-- A part of a line by which lines are compared: from a character of a field to another, both counted
from zero, where a last character of zero is the end of the field. -/
structure SortKey where
  firstField : Nat
  firstChar : Nat
  last : Option (Nat × Nat)
  /-- Blanks in front of the first and of the last character are passed over. -/
  skipsFirst : Bool
  skipsLast : Bool
  letters : List Char
  deriving DecidableEq, Repr

/-- The text behind so many fields. -/
def afterFields (separator : Option Char) : Nat → List Char → List Char
  | 0, cs => cs
  | n + 1, cs =>
    match separator with
    | some c => afterFields separator n ((cs.dropWhile (· != c)).drop 1)
    | none => afterFields separator n ((cs.dropWhile isLineBlank).dropWhile fun c => !isLineBlank c)

/-- The number of characters up to the end of a key. -/
def keyLimit (separator : Option Char) (key : SortKey) (line : List Char) : Nat :=
  match key.last with
  | none => line.length
  | some (field, char) =>
    let rest := afterFields separator field line
    if char == 0 then
      line.length - (match separator with
        | some c => rest.dropWhile (· != c)
        | none => (rest.dropWhile isLineBlank).dropWhile fun c => !isLineBlank c).length
    else
      let rest := if key.skipsLast then rest.dropWhile isLineBlank else rest
      min line.length (line.length - rest.length + char)

/-- The text of a key in a line. -/
def keyText (separator : Option Char) (key : SortKey) (line : List Char) : List Char :=
  let rest := afterFields separator key.firstField line
  let rest := if key.skipsFirst then rest.dropWhile isLineBlank else rest
  let rest := rest.drop key.firstChar
  rest.take (keyLimit separator key line - (line.length - rest.length))

/-- Compares two texts as the letters of a key say. -/
def compareBy (letters : List Char) (a b : List Char) : Ordering :=
  let has (c : Char) : Bool := letters.contains c
  let found :=
    if has 'n' then compareNumbers a b
    else if has 'g' then compareReals a b
    else if has 'h' then compareSizes a b
    else if has 'M' then compare (monthOf a) (monthOf b)
    else if has 'V' then compareVersions (a.length + b.length + 1) a b
    else
      let kept (cs : List Char) : List Char :=
        let cs := if has 'd' then cs.filter fun c => c.isAlphanum || isLineBlank c else cs
        let cs := if has 'i' then cs.filter fun c => ' ' ≤ c && c ≤ '~' else cs
        if has 'f' then cs.map Char.toUpper else cs
      compareTexts (kept a) (kept b)
  if has 'r' then found.swap else found

/-- How lines are sorted. -/
structure SortRules where
  separator : Option Char
  keys : List SortKey
  isStable : Bool
  isUnique : Bool
  isReversed : Bool

/-- Compares two lines by the keys. -/
def compareKeys (r : SortRules) (a b : List Char) : Ordering :=
  r.keys.foldl (fun found key =>
    found.then (compareBy key.letters (keyText r.separator key a) (keyText r.separator key b))) .eq

/-- Compares two lines. -/
def compareLines (r : SortRules) (a b : List Char) : Ordering :=
  let byKeys := compareKeys r a b
  if !r.keys.isEmpty && (r.isStable || r.isUnique) then byKeys
  else
    let whole := compareTexts a b
    byKeys.then (if r.isReversed then whole.swap else whole)

/-- The letters that say how a key is compared. -/
def keyLetters : List Char := ['b', 'd', 'f', 'g', 'h', 'i', 'M', 'n', 'R', 'r', 'V']

/-- A place of a key at the start of a text, and what follows it. -/
def keyPlace (what : String) (cs : List Char) : Except String (Nat × List Char × List Char) := do
  let digits := cs.takeWhile Char.isDigit
  if digits.isEmpty then
    throw ("invalid number " ++ what ++ ": invalid count at start of " ++ quoted (String.ofList cs))
  return (Real.ofDigits digits, cs.drop digits.length, digits)

/-- The key that a text names, given the letters for keys without any. -/
def keyOf (globals : List Char) (text : String) : Except String SortKey := do
  let place (what : String) (cs : List Char) : Except String (Nat × Nat × List Char × List Char) := do
    let (field, rest, _) ← keyPlace what cs
    if field == 0 then throw ("field number is zero: invalid field specification " ++ quoted text)
    let (char, rest) ← match rest with
      | '.' :: rest => do
        let (char, rest, _) ← keyPlace "after '.'" rest
        pure (char, rest)
      | rest => pure (if what == "at field start" then 1 else 0, rest)
    let letters := rest.takeWhile keyLetters.contains
    return (field - 1, char, letters, rest.drop letters.length)
  let (firstField, firstChar, letters, rest) ← place "at field start" text.toList
  if firstChar == 0 then
    throw ("character offset is zero: invalid field specification " ++ quoted text)
  let (last, more, rest) ← match rest with
    | ',' :: rest => do
      let (field, char, more, rest) ← place "after ','" rest
      pure (some (field, char), more, rest)
    | rest => pure (none, [], rest)
  if !rest.isEmpty then throw ("stray character in field spec: invalid field specification " ++ quoted text)
  let own := letters ++ more
  if own.isEmpty then
    return ⟨firstField, firstChar - 1, last, globals.contains 'b', globals.contains 'b', globals⟩
  else return ⟨firstField, firstChar - 1, last, letters.contains 'b', more.contains 'b', own⟩

/-- The lines, of which only the first of equal ones is left. -/
def firstOfEach (same : List Char → List Char → Bool) (lines : List (List Char)) : List (List Char) :=
  (lines.splitBy same).filterMap List.head?

/-- The first line that is not in order, with its number. -/
def disorder? (isInOrder : List Char → List Char → Bool) :
    (number : Nat) → List (List Char) → Option (Nat × List Char)
  | n, a :: b :: rest => if isInOrder a b then disorder? isInOrder (n + 1) (b :: rest) else some (n + 1, b)
  | _, _ => none

/-- Sorts lines. -/
def sort : Tool := withOptions
  ([plain 'b' "ignore-leading-blanks", plain 'd' "dictionary-order", plain 'f' "ignore-case",
    plain 'g' "general-numeric-sort", plain 'h' "human-numeric-sort", plain 'i' "ignore-nonprinting",
    plain 'M' "month-sort", plain 'n' "numeric-sort", plain 'R' "random-sort", plain 'r' "reverse",
    plain 'V' "version-sort", plain 'c' "check", plain 'C' "", valued 'k' "key", plain 'm' "merge",
    valued 'o' "output", plain 's' "stable", valued 'S' "buffer-size", valued 't' "field-separator",
    valued 'T' "temporary-directory", plain 'u' "unique", plain 'z' "zero-terminated",
    valued '\x03' "parallel"]) 2 (fun c a => do
  let globals := keyLetters.filter a.has
  let separator? : Except String (Option Char) := match a.value? 't' with
    | none => .ok none
    | some text =>
      match text.toList with
      | [] => .error "empty tab"
      | [t] => .ok (some t)
      | ['\\', '0'] => .ok (some '\x00')
      | _ => .error ("multi-character tab " ++ quoted text)
  match separator?, (a.values 'k').mapM (keyOf globals) with
  | .error text, _ | _, .error text => c.fail 2 text
  | .ok separator, .ok keys =>
    let isPlain := globals.all (· == 'r')
    let keys := if keys.isEmpty && !isPlain then
        [⟨0, 0, none, globals.contains 'b', globals.contains 'b', globals⟩]
      else keys
    let r : SortRules :=
      { separator, keys, isStable := a.has 's', isUnique := a.has 'u', isReversed := globals.contains 'r' }
    let paths := if a.operands.isEmpty then ["-"] else a.operands
    let texts ← paths.mapM fun path => do
      match ← readFile path with
      | .ok text => return some text
      | .error fault =>
        c.report ((if fault == .isADirectory then "read failed: " else "cannot read: ") ++ path ++ ": " ++
          fault.reason)
        return none
    if texts.any Option.isNone then return 2
    let end? := if a.has 'z' then '\x00' else '\n'
    let lines := texts.flatMap fun text => (linesBy end? (text.getD [])).1
    if a.has 'c' || a.has 'C' then
      let isInOrder (x y : List Char) : Bool :=
        match compareLines r x y with
        | .lt => true
        | .eq => !a.has 'u'
        | .gt => false
      match disorder? isInOrder 1 lines with
      | none => return 0
      | some (n, line) =>
        if a.has 'c' then
          c.report (paths.headD "-" ++ ":" ++ Numeral.decimal n ++ ": disorder: " ++ String.ofList line)
        return 1
    let sorted := lines.mergeSort fun x y => compareLines r x y != .gt
    let same (x y : List Char) : Bool :=
      if keys.isEmpty then x == y else compareKeys r x y == .eq
    let sorted := if a.has 'u' then firstOfEach same sorted else sorted
    let text := ofLinesBy end? sorted true
    match a.value? 'o' with
    | none =>
      Run.print text
      return 0
    | some path =>
      let p ← get
      match p.channels.openPath (.toWrite false) path with
      | .error fault => c.fail 2 ("open failed: " ++ path ++ ": " ++ fault.reason)
      | .ok (channels, number) =>
        set { p with channels := (channels.writeTo number text).toOption.getD channels }
        return 0) false

/-! ## Lines that are alike -/

/-- The part of a line that is compared with others. -/
def uniqPart (fields chars : Nat) (most : Option Nat) (foldsCase : Bool) (line : List Char) : List Char :=
  let rest := (afterFields none fields line).drop chars
  let rest := match most with
    | some n => rest.take n
    | none => rest
  if foldsCase then rest.map Char.toUpper else rest

/-- Leaves one of the lines that follow each other and are alike. -/
def uniq : Tool := withOptions
  [plain 'c' "count", plain 'd' "repeated", plain 'D' "", ⟨'\x03', "all-repeated", .optional⟩,
    valued 'f' "skip-fields", plain 'i' "ignore-case", valued 's' "skip-chars", plain 'u' "unique",
    valued 'w' "check-chars", plain 'z' "zero-terminated"] 1 (fun c a => do
  let number (letter : Char) : Nat := ((a.value? letter).bind String.toNat?).getD 0
  match a.operands with
  | _ :: _ :: extra :: _ => c.misuse 1 ("extra operand " ++ quoted extra)
  | operands =>
    for (letter, what) in [('f', "fields to skip"), ('s', "bytes to skip"), ('w', "bytes to compare")] do
      match a.value? letter with
      | some text =>
        if text.toNat?.isNone then
          return ← c.fail 1 (text ++ ": invalid number of " ++ what)
      | none => pure ()
    match ← readFile (operands.headD "-") with
    | .error fault =>
      c.fail 1 (if fault == .isADirectory then "error reading " ++ quoted (operands.headD "-")
        else operands.headD "-" ++ ": " ++ fault.reason)
    | .ok text =>
      let separator := if a.has 'z' then '\x00' else '\n'
      let part := uniqPart (number 'f') (number 's') ((a.value? 'w').bind String.toNat?) (a.has 'i')
      let groups := (linesBy separator text).1.splitBy fun x y => part x == part y
      let showsAll := a.has 'D' || a.has '\x03'
      let shown := groups.filter fun group =>
        if showsAll then 1 < group.length
        else (!a.has 'd' || 1 < group.length) && (!a.has 'u' || group.length == 1)
      let lines := shown.flatMap fun group =>
        if showsAll then group
        else
          let front := if a.has 'c' then (Nat.toDigits 10 group.length).leftpad 7 ' ' ++ [' '] else []
          (group.take 1).map (front ++ ·)
      let found := ofLinesBy separator lines true
      match operands[1]? with
      | none =>
        Run.print found
        return 0
      | some path =>
        let p ← get
        match p.channels.openPath (.toWrite false) path with
        | .error fault => c.fail 1 (path ++ ": " ++ fault.reason)
        | .ok (channels, number) =>
          set { p with channels := (channels.writeTo number found).toOption.getD channels }
          return 0) false

/-! ## Two files in order -/

/-- Where the lines of two files in order are: in one of them or in both. The number is at least that of
the lines. -/
def merged : Nat → List (List Char) → List (List Char) → List (Nat × List Char)
  | 0, _, _ => []
  | _, as, [] => as.map (0, ·)
  | _, [], bs => bs.map (1, ·)
  | n + 1, a :: as, b :: bs =>
    match compareTexts a b with
    | .lt => (0, a) :: merged n as (b :: bs)
    | .gt => (1, b) :: merged n (a :: as) bs
    | .eq => (2, a) :: merged n as bs

/-- Reads the two files that a tool works on, or says what is missing. -/
def twoFiles (c : ToolCall) (a : Arguments) (body : List (List Char) → List (List Char) → Run Nat) :
    Run Nat := do
  match a.operands with
  | [] => c.misuse 1 "missing operand"
  | [x] => c.misuse 1 ("missing operand after " ++ quoted x)
  | [x, y] =>
    let (texts, isGood) ← readFiles c id [x, y]
    if !isGood then return 1
    match texts with
    | [(_, s), (_, t)] => body (linesOf s).1 (linesOf t).1
    | _ => return 1
  | _ :: _ :: extra :: _ => c.misuse 1 ("extra operand " ++ quoted extra)

/-- Compares two files in order. -/
def comm : Tool := withOptions
  [plain '1' "", plain '2' "", plain '3' "", plain '\x03' "check-order", plain '\x04' "nocheck-order",
    valued '\x05' "output-delimiter", plain '\x06' "total", plain 'z' "zero-terminated"] 1 (fun c a =>
  twoFiles c a fun as bs => do
    let found := merged (as.length + bs.length + 1) as bs
    let hidden := [a.has '1', a.has '2', a.has '3']
    let between := ((a.value? '\x05').getD "\t").toList
    let lines := (found.filter fun (kind, _) => !hidden.getD kind false).map fun (kind, line) =>
      (List.replicate ((hidden.take kind).count false) between).flatten ++ line
    Run.print (ofLines lines true)
    let isUnpaired := found.any fun (kind, _) => kind != 2
    let faults := [(as, "1"), (bs, "2")].filter fun (lines, _) =>
      (disorder? (fun x y => compareTexts x y != .gt) 1 lines).isSome
    if faults.isEmpty || a.has '\x04' || !(isUnpaired || a.has '\x03') then return 0
    faults.forM fun (_, name) => c.report ("file " ++ name ++ " is not in sorted order")
    c.fail 1 "input is not in sorted order") false

/-- How lines are joined. -/
structure JoinRules where
  separator : Option Char
  /-- The fields of the two files that have to agree. -/
  keys : Nat × Nat
  foldsCase : Bool
  filler : List Char
  /-- The fields that are shown, where the file zero stands for the common field. -/
  shown : List (Nat × Nat)

/-- The fields of a line. -/
def joinFields (r : JoinRules) (line : List Char) : List (List Char) :=
  match r.separator with
  | some c => line.splitOn c
  | none =>
    (line.splitBy fun a b => isLineBlank a == isLineBlank b).filter fun part => !part.all isLineBlank

/-- The key of a line of one of the files. -/
def joinKey (r : JoinRules) (second : Bool) (line : List Char) : List Char :=
  let key := (joinFields r line).getD (if second then r.keys.2 else r.keys.1) []
  if r.foldsCase then key.map Char.toUpper else key

/-- The line that two lines make, of which one may be missing. -/
def joinLines (r : JoinRules) (a b : Option (List Char)) : List Char :=
  let fields (line : Option (List Char)) : List (List Char) := (line.map (joinFields r)).getD []
  let x := fields a
  let y := fields b
  let common := match a with
    | some _ => x.getD r.keys.1 []
    | none => y.getD r.keys.2 []
  let orFiller (field : Option (List Char)) : List Char :=
    match field with
    | some cs => if cs.isEmpty then r.filler else cs
    | none => r.filler
  let parts :=
    if r.shown.isEmpty then common :: x.eraseIdx r.keys.1 ++ y.eraseIdx r.keys.2
    else r.shown.map fun (file, field) =>
      if file == 0 then common
      else if file == 1 then orFiller x[field]? else orFiller y[field]?
  [r.separator.getD ' '].intercalate parts

/-- Lines of two files that belong together by their keys. The number is at least that of the lines. -/
def pairs (r : JoinRules) : Nat → List (List Char) → List (List Char) →
    List (Option (List Char) × Option (List Char))
  | 0, _, _ => []
  | _, as, [] => as.map fun a => (some a, none)
  | _, [], bs => bs.map fun b => (none, some b)
  | n + 1, a :: as, b :: bs =>
    match compareTexts (joinKey r false a) (joinKey r true b) with
    | .lt => (some a, none) :: pairs r n as (b :: bs)
    | .gt => (none, some b) :: pairs r n (a :: as) bs
    | .eq =>
      let same := (a :: as).takeWhile fun x => joinKey r false x == joinKey r false a
      let others := (b :: bs).takeWhile fun y => joinKey r true y == joinKey r true b
      same.flatMap (fun x => others.map fun y => (some x, some y)) ++
        pairs r n ((a :: as).drop same.length) ((b :: bs).drop others.length)

/-- Joins the lines of two files in order. -/
def join : Tool := withOptions
  [valued '1' "", valued '2' "", valued 'a' "", valued 'e' "", plain 'i' "ignore-case", valued 'j' "",
    valued 'o' "", valued 't' "", valued 'v' "", plain '\x03' "check-order", plain '\x04' "nocheck-order",
    plain '\x05' "header", plain 'z' "zero-terminated"] 1 (fun c a =>
  twoFiles c a fun as bs => do
    let field (letter : Char) : Nat :=
      (((a.value? letter).or (a.value? 'j')).bind String.toNat?).getD 1 - 1
    let shown := (a.values 'o').flatMap fun text =>
      (((text.toList.map fun c => if c == ' ' then ',' else c).splitOn ',').filter (!·.isEmpty)).map
        fun part =>
          match part.splitOn '.' with
          | [file, field] => (Real.ofDigits file, Real.ofDigits field - 1)
          | _ => (0, 0)
    let r : JoinRules :=
      { separator := (a.value? 't').bind (·.toList.head?), keys := (field '1', field '2')
        foldsCase := a.has 'i', filler := ((a.value? 'e').getD "").toList, shown }
    let unpaired := a.values 'a' ++ a.values 'v'
    let lines := (pairs r (as.length + bs.length + 1) as bs).filterMap fun (x, y) =>
      let isShown := match x, y with
        | some _, some _ => !a.has 'v'
        | some _, none => unpaired.contains "1"
        | none, some _ => unpaired.contains "2"
        | none, none => false
      if isShown then some (joinLines r x y) else none
    Run.print (ofLines lines true)
    return 0) false

end SysReg.Shell.Tool
