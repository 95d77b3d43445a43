import SysReg.Shell.Regex.Reading
import SysReg.Shell.Tool.Directory
import SysReg.Shell.Tool.Launching

/-!
# Finding files

Directories are gone through, and an expression says for each file that is met what is done with it.
-/

namespace SysReg.Shell

/-- How a number is to compare with another one. -/
inductive Comparison where
  | exactly
  | less
  | more
  deriving DecidableEq, Repr

/-- What is asked of a file, or done with it. -/
inductive FileTerm where
  | name (glob : String) (foldsCase : Bool)
  | path (glob : String) (foldsCase : Bool)
  | pattern (r : Regex) (foldsCase : Bool)
  | kinds (letters : List Char)
  | empty
  | size (c : Comparison) (count unit : Nat)
  /-- Some of the permissions are set, or all of them, or they are just these. -/
  | mode (sign : Char) (bits : Nat)
  | truth (value : Bool)
  | links (c : Comparison) (count : Nat)
  | print (ending : String)
  | printForm (form : String)
  | delete
  | prune
  | quit
  /-- A program is run for each file, or once for all; perhaps in the directory of the file. -/
  | run (command : List String) (forAll isInside : Bool)

/-- An expression on files. -/
inductive FileExpr where
  | term (t : FileTerm)
  | not (e : FileExpr)
  | both (a b : FileExpr)
  | either (a b : FileExpr)
  /-- Both count, and the last one decides. -/
  | after (a b : FileExpr)

namespace FileExpr

/-- The term does something so that nothing has to be printed beside it. -/
def isAction : FileTerm → Bool
  | .print _ | .printForm _ | .delete | .quit | .run _ _ _ => true
  | _ => false

/-- The expression does something. -/
def acts : FileExpr → Bool
  | term t => isAction t && (match t with | .quit => false | _ => true)
  | not e => e.acts
  | both a b | either a b | after a b => a.acts || b.acts

/-- Something is deleted, and so what is in a directory comes before it. -/
def deletes : FileExpr → Bool
  | term .delete => true
  | term _ => false
  | not e => e.deletes
  | both a b | either a b | after a b => a.deletes || b.deletes

end FileExpr

/-- How directories are gone through. -/
structure FileWalk where
  least : Nat
  most : Option Nat
  isDeepFirst : Bool
  followsLinks : Bool
  deriving DecidableEq, Repr

namespace FileWalk

/-! ## Reading -/

/-- What is left to read, and how files are gone through so far. -/
abbrev Reading : Type → Type := ExceptT String (StateM (List String × FileWalk))

/-- The next argument. -/
def next? : Reading (Option String) := do
  return (← get).1.head?

/-- Passes over the next argument. -/
def skip : Reading Unit :=
  modify fun (arguments, w) => (arguments.drop 1, w)

/-- The value of a term. -/
def value (name : String) : Reading String := do
  match ← next? with
  | some text =>
    skip
    return text
  | none => throw ("missing argument to \x60" ++ name ++ "'")

/-- A number with a sign that says how it is to compare. -/
def counted (cs : List Char) : Comparison × List Char :=
  match cs with
  | '+' :: cs => (.more, cs)
  | '-' :: cs => (.less, cs)
  | cs => (.exactly, cs)

/-- A natural number as the value of a term. -/
def number (name text : String) (cs : List Char) : Reading Nat := do
  if cs.isEmpty || !cs.all Char.isDigit then throw ("invalid argument \x60" ++ text ++ "' to \x60" ++ name ++ "'")
  return Real.ofDigits cs

/-- The units of sizes. -/
def units : List (Char × Nat) :=
  [('b', 512), ('c', 1), ('w', 2), ('k', 1024), ('M', 1048576), ('G', 1073741824)]

/-- The command of a term, and whether it is run once for all files. -/
def command (name : String) : Nat → List String → Reading (List String × Bool)
  | 0, _ => throw ("missing argument to \x60" ++ name ++ "'")
  | n + 1, found => do
    match ← next? with
    | none => throw ("missing argument to \x60" ++ name ++ "'")
    | some word =>
      skip
      if word == ";" then
        if found.isEmpty then throw ("invalid argument \x60;' to \x60" ++ name ++ "'")
        return (found, false)
      else if word == "+" && found.getLast? == some "\x7b\x7d" then return (found.dropLast, true)
      else command name n (found ++ [word])

/-- The bits of a mode that letters or digits name. -/
def modeOf? (cs : List Char) : Option Nat :=
  if !cs.isEmpty && cs.all fun c => '0' ≤ c && c ≤ '7' then
    some (cs.foldl (fun n c => 8 * n + (c.toNat - 48)) 0)
  else
    let clauses := (cs.splitOn ',').map fun clause =>
      let who := clause.takeWhile fun c => ['u', 'g', 'o', 'a'].contains c
      let rest := clause.drop who.length
      let bits := (rest.drop 1).foldl (fun n c => n ||| (match c with
        | 'r' => 4
        | 'w' => 2
        | 'x' => 1
        | _ => 0)) 0
      let shifts := if who.isEmpty || who.contains 'a' then [6, 3, 0]
        else who.map fun c => if c == 'u' then 6 else if c == 'g' then 3 else 0
      if (rest.head?.any fun c => c == '+' || c == '=') && (rest.drop 1).all ['r', 'w', 'x'].contains then
        some ((shifts.map (bits <<< ·)).foldl (· ||| ·) 0)
      else none
    clauses.foldl (fun found clause => do return (← found) ||| (← clause)) (some 0)

/-- A term by its name. -/
def term (name : String) : Reading FileTerm := do
  match name with
  | "-name" => return .name (← value name) false
  | "-iname" => return .name (← value name) true
  | "-path" | "-wholename" => return .path (← value name) false
  | "-ipath" => return .path (← value name) true
  | "-regex" | "-iregex" =>
    match Regex.ofText ⟨false, false, false⟩ (← value name).toList with
    | .ok r => return .pattern (.seq (.edge .textStart) (.seq r (.edge .textFinish))) (name == "-iregex")
    | .error fault => throw ("failed to compile regular expression: " ++ fault.text)
  | "-type" | "-xtype" =>
    let letters := (← value name).toList.filter (· != ',')
    match letters.find? fun c => !(['f', 'd', 'l', 'b', 'c', 'p', 's'].contains c) with
    | some c => throw ("Unknown argument to " ++ name ++ ": " ++ c.toString)
    | none => return .kinds letters
  | "-empty" => return .empty
  | "-size" =>
    let text ← value name
    let (c, cs) := counted text.toList
    let digits := cs.takeWhile Char.isDigit
    match cs.drop digits.length with
    | [] =>
      if digits.isEmpty then throw ("invalid argument \x60" ++ text ++ "' to -size")
      return .size c (Real.ofDigits digits) 512
    | [letter] =>
      match units.lookup letter with
      | some unit => return .size c (Real.ofDigits digits) unit
      | none => throw ("invalid -size type \x60" ++ letter.toString ++ "'")
    | _ => throw ("invalid argument \x60" ++ text ++ "' to -size")
  | "-perm" =>
    let text ← value name
    let (sign, cs) := match text.toList with
      | '-' :: cs => ('-', cs)
      | '/' :: cs => ('/', cs)
      | cs => ('=', cs)
    match modeOf? cs with
    | some bits => return .mode sign bits
    | none => throw ("invalid mode " ++ Tool.quoted text)
  | "-links" =>
    let text ← value name
    let (c, cs) := counted text.toList
    return .links c (← number name text cs)
  | "-mtime" | "-atime" | "-ctime" =>
    let text ← value name
    let (c, cs) := counted text.toList
    let n ← number name text cs
    return .truth (match c with
      | .exactly => n == 0
      | .less => 0 < n
      | .more => false)
  | "-mmin" | "-amin" | "-cmin" =>
    let text ← value name
    let (c, cs) := counted text.toList
    let _ ← number name text cs
    return .truth (c == .less)
  | "-newer" =>
    let _ ← value name
    return .truth false
  | "-user" | "-group" | "-uid" | "-gid" =>
    let text ← value name
    return .truth (text == "root" || text == "0")
  | "-readable" | "-writable" | "-true" => return .truth true
  | "-executable" => return .mode '/' 73
  | "-nouser" | "-nogroup" | "-false" => return .truth false
  | "-print" => return .print "\n"
  | "-print0" => return .print "\x00"
  | "-printf" => return .printForm (← value name)
  | "-delete" => return .delete
  | "-prune" => return .prune
  | "-quit" => return .quit
  | "-exec" | "-ok" | "-execdir" =>
    let (words, forAll) ← command name ((← get).1.length + 1) []
    return .run words forAll (name == "-execdir")
  | "-maxdepth" | "-mindepth" =>
    let text ← value name
    match text.toNat? with
    | some n =>
      modify fun (arguments, w) =>
        (arguments, if name == "-maxdepth" then { w with most := some n } else { w with least := n })
      return .truth true
    | none => throw ("Expected a positive decimal integer argument to " ++ name ++ ", but got " ++ Tool.quoted text)
  | "-depth" | "-d" =>
    modify fun (arguments, w) => (arguments, { w with isDeepFirst := true })
    return .truth true
  | "-follow" =>
    modify fun (arguments, w) => (arguments, { w with followsLinks := true })
    return .truth true
  | "-xdev" | "-mount" | "-noleaf" | "-daystart" | "-warn" | "-nowarn" | "-ignore_readdir_race" => return .truth true
  | "-regextype" =>
    let _ ← value name
    return .truth true
  | _ => throw ("unknown predicate \x60" ++ name ++ "'")

/-- The words that join terms, with what they are called in a message. -/
def joins : List String := ["-o", "-or", "-a", "-and", ","]

/-- Something has to follow a word. -/
def needOperand (word : String) : Reading Unit := do
  match ← next? with
  | none => throw ("expected an expression after " ++ Tool.quoted word)
  | some text =>
    if joins.contains text then throw ("expected an expression after " ++ Tool.quoted word)

mutual

/-- An expression of terms that are joined. -/
def expression : Nat → Reading FileExpr
  | 0 => throw "nested too deep"
  | n + 1 => do
    let first ← choice n
    match ← next? with
    | some "," =>
      skip
      needOperand ","
      return .after first (← expression n)
    | _ => return first

/-- Terms of which one has to hold. -/
def choice : Nat → Reading FileExpr
  | 0 => throw "nested too deep"
  | n + 1 => do
    let first ← series n
    match ← next? with
    | some word =>
      if word == "-o" || word == "-or" then
        skip
        needOperand word
        return .either first (← choice n)
      else return first
    | none => return first

/-- Terms that all have to hold. -/
def series : Nat → Reading FileExpr
  | 0 => throw "nested too deep"
  | n + 1 => do
    let first ← factor n
    match ← next? with
    | none | some ")" | some "-o" | some "-or" | some "," => return first
    | some word =>
      if word == "-a" || word == "-and" then
        skip
        needOperand word
      return .both first (← series n)

/-- A term, perhaps turned round. -/
def factor : Nat → Reading FileExpr
  | 0 => throw "nested too deep"
  | n + 1 => do
    match ← next? with
    | none => throw "invalid expression"
    | some word =>
      skip
      match word with
      | "!" | "-not" =>
        needOperand word
        return .not (← factor n)
      | "(" =>
        match ← next? with
        | none =>
          throw ("invalid expression; expected to find a ')' but didn't see one. " ++
            "Perhaps you need an extra predicate after '('")
        | some ")" => throw "invalid expression; empty parentheses are not allowed."
        | some _ =>
          let e ← expression n
          match ← next? with
          | some ")" =>
            skip
            return e
          | _ =>
            throw ("invalid expression; I was expecting to find a ')' somewhere but did not see one.")
      | ")" => throw "invalid expression; you have too many ')'"
      | _ =>
        if joins.contains word then
          throw ("invalid expression; you have used a binary operator " ++ Tool.quoted word ++ " with nothing before it.")
        else if word.startsWith "-" then return .term (← term word)
        else throw ("paths must precede expression: \x60" ++ word ++ "'")

end

/-- The whole expression. -/
def whole : Reading FileExpr := do
  let n := (← get).1.length
  if n == 0 then return .term (.truth true)
  let e ← expression (4 * n + 8)
  match ← next? with
  | some ")" => throw "invalid expression; you have too many ')'"
  | _ => return e

end FileWalk

/-! ## Going through -/

/-- A file that is met. -/
structure FoundFile where
  path : String
  place : List String
  node : FileNode
  depth : Nat
  /-- What was named first. -/
  start : String

/-- What has come of the files so far. -/
structure FindState where
  isPruned : Bool
  isOver : Bool
  isGood : Bool
  /-- The commands that are run once, with the files for them. -/
  batches : List (List String × List String)

namespace FileWalk

/-- A step on files. -/
abbrev Finding : Type → Type := StateT FindState Run

/-- The last name of a path. -/
def lastName (path : String) : String :=
  let cs := path.toList.reverse.dropWhile (· == '/')
  if cs.isEmpty then "/" else String.ofList (cs.takeWhile (· != '/')).reverse

/-- The path in front of the last name. -/
def frontOf (path : String) : String :=
  let cs := path.toList.reverse.dropWhile (· != '/')
  if cs.isEmpty then "." else if cs == ['/'] then "/" else String.ofList (cs.drop 1).reverse

/-- The characters of a glob, of which one behind a backslash stands for itself. -/
def glyphsOf : List Char → List Glyph
  | '\\' :: c :: cs => .quoted c :: glyphsOf cs
  | c :: cs => .plain c :: glyphsOf cs
  | [] => []

/-- A glob fits a text. -/
def fits (glob text : String) (foldsCase : Bool) : Bool :=
  let fold (cs : List Char) : List Char := if foldsCase then cs.map Char.toLower else cs
  Wildcard.matchesAll (Wildcard.ofGlyphs .plain (glyphsOf (fold glob.toList))) (fold text.toList)

/-- A number compares with another one as asked. -/
def holds (c : Comparison) (n asked : Nat) : Bool :=
  match c with
  | .exactly => n == asked
  | .less => n < asked
  | .more => asked < n

/-- The letter of a kind of file. -/
def kindLetter : FileNode → Char
  | .directory | .sealedDirectory => 'd'
  | .file _ _ => 'f'
  | .device _ => 'c'
  | .link _ => 'l'

/-- The mode of a file. -/
def modeOf : FileNode → Nat
  | .directory | .sealedDirectory | .file _ true => 493
  | .file _ false => 420
  | .device _ => 438
  | .link _ => 511

/-- A form with what is known of a file put in. The number is at least that of the characters. -/
def formText (f : FoundFile) : Nat → List Char → List Char
  | 0, _ | _, [] => []
  | n + 1, '%' :: c :: cs =>
    let text := match c with
      | 'p' => f.path
      | 'f' => lastName f.path
      | 'h' => frontOf f.path
      | 'P' =>
        let rest := (f.path.drop f.start.length).toString
        if rest.startsWith "/" then (rest.drop 1).toString else rest
      | 'H' => f.start
      | 's' => Numeral.decimal (Tool.sizeOf f.node)
      | 'y' => (kindLetter f.node).toString
      | 'm' => String.ofList (Nat.toDigits 8 (modeOf f.node))
      | 'M' => Tool.modeText f.node
      | 'd' => Numeral.decimal f.depth
      | 'u' | 'g' => "root"
      | 'U' | 'G' => "0"
      | 'n' => if f.node.isDirectory then "2" else "1"
      | 'l' => match f.node with
        | .link target => target
        | _ => ""
      | '%' => "%"
      | c => "%" ++ c.toString
    text.toList ++ formText f n cs
  | n + 1, '\\' :: c :: cs =>
    (match c with
      | 'n' => ['\n']
      | 't' => ['\t']
      | '0' => ['\x00']
      | '\\' => ['\\']
      | c => ['\\', c]) ++ formText f n cs
  | n + 1, c :: cs => c :: formText f n cs

/-- Runs a command for a file: whether it succeeds. -/
def runFor (c : ToolCall) (command : List String) (isInside : Bool) (f : FoundFile) : Run Bool := do
  let path := if isInside then "./" ++ lastName f.path else f.path
  let words := command.map fun word =>
    String.ofList (Tool.replacing ['\x7b', '\x7d'] path.toList (word.length + 1) word.toList)
  match ← c.launch (words.headD "") (words.drop 1) with
  | .ok (.exited status) => return status == 0
  | .ok (.killed _) => return false
  | .error fault =>
    c.report (Tool.quoted (words.headD "") ++ ": " ++ fault.reason)
    return false

/-- Whether a term holds for a file, for which it may do something. -/
def meets (c : ToolCall) (f : FoundFile) : FileTerm → Finding Bool
  | .name glob foldsCase => return fits glob (lastName f.path) foldsCase
  | .path glob foldsCase => return fits glob f.path foldsCase
  | .pattern r foldsCase => return (r.matchAt? ⟨f.path.toList.toArray, foldsCase, false⟩ 0).isSome
  | .kinds letters => return letters.contains (kindLetter f.node)
  | .empty => do
    let t ← (Run.tree : Run FileTree)
    match f.node with
    | .directory | .sealedDirectory => return (t.namesIn f.place).isEmpty
    | .file octets _ => return octets.isEmpty
    | _ => return false
  | .size comparison count unit => do
    let size := if f.node.isDirectory then 4096 else Tool.sizeOf f.node
    return holds comparison ((size + unit - 1) / unit) count
  | .mode sign bits =>
    let mode := modeOf f.node
    return match sign with
      | '-' => mode &&& bits == bits
      | '/' => bits == 0 || mode &&& bits != 0
      | _ => mode == bits
  | .truth value => return value
  | .links comparison count => return holds comparison (if f.node.isDirectory then 2 else 1) count
  | .print ending => do
    (Run.print (f.path ++ ending) : Run Unit)
    return true
  | .printForm form => do
    (Run.print (String.ofList (formText f form.length form.toList)) : Run Unit)
    return true
  | .delete => do
    let t ← (Run.tree : Run FileTree)
    if f.node.isDirectory && !(t.namesIn f.place).isEmpty then
      (c.report ("cannot delete " ++ Tool.quoted f.path ++ ": Directory not empty") : Run Unit)
      modify fun s => { s with isGood := false }
      return false
    else
      (Run.setTree (t.remove f.place) : Run Unit)
      return true
  | .prune => do
    modify fun s => { s with isPruned := true }
    return true
  | .quit => do
    modify fun s => { s with isOver := true }
    return true
  | .run command forAll isInside => do
    if forAll then
      modify fun s =>
        match s.batches.lookup command with
        | some files =>
          { s with batches := s.batches.map fun b => if b.1 == command then (command, files ++ [f.path]) else b }
        | none => { s with batches := s.batches ++ [(command, [f.path])] }
      return true
    else (runFor c command isInside f : Run Bool)

/-- Whether an expression holds for a file, for which it may do something. -/
def satisfies (c : ToolCall) (f : FoundFile) : FileExpr → Finding Bool
  | .term t => do if (← get).isOver then return false else meets c f t
  | .not e => do return !(← satisfies c f e)
  | .both a b => do if ← satisfies c f a then satisfies c f b else return false
  | .either a b => do if ← satisfies c f a then return true else satisfies c f b
  | .after a b => do
    discard (satisfies c f a)
    satisfies c f b

/-- Goes through a file and what is in it. The number bounds how deep that is. -/
def visit (c : ToolCall) (w : FileWalk) (e : FileExpr) : Nat → FoundFile → Finding Unit
  | 0, _ => return
  | n + 1, f => do
    if (← get).isOver then return
    let isDeepFirst := w.isDeepFirst || e.deletes
    let test : Finding Unit := do
      if w.least ≤ f.depth then discard (satisfies c f e)
    modify fun s => { s with isPruned := false }
    if !isDeepFirst then test
    let isPruned := (← get).isPruned
    if f.node.isDirectory && (isDeepFirst || !isPruned) && w.most.all (f.depth < ·) then
      let t ← (Run.tree : Run FileTree)
      let names := (t.namesIn f.place).mergeSort fun x y => decide (x ≤ y)
      names.forM fun name => do
        let path := if f.path.endsWith "/" then f.path ++ name else f.path ++ "/" ++ name
        match t.locate w.followsLinks path with
        | .ok (place, node) => visit c w e n ⟨path, place, node, f.depth + 1, f.start⟩
        | .error _ =>
          match t.locate false path with
          | .ok (place, node) => visit c w e n ⟨path, place, node, f.depth + 1, f.start⟩
          | .error _ => return
    if isDeepFirst then test

end FileWalk

namespace Tool

/-- Finds files. -/
def find : Tool := fun c arguments => do
  let options := arguments.takeWhile fun word => ["-L", "-P", "-H"].contains word
  let rest := arguments.drop options.length
  let paths := rest.takeWhile fun word => !(word.startsWith "-" || word == "(" || word == "!" || word == ",")
  let words := rest.drop paths.length
  let start : FileWalk := ⟨0, none, false, options.getLast? == some "-L"⟩
  match (FileWalk.whole.run.run (words, start)) with
  | (.error text, _) => c.fail 1 text
  | (.ok e, (_, w)) =>
    let e := if e.acts then e else .both e (.term (.print "\n"))
    let t ← Run.tree
    let goThrough : FileWalk.Finding Unit :=
      (if paths.isEmpty then ["."] else paths).forM fun path => do
        match t.locate w.followsLinks path with
        | .ok (place, node) => FileWalk.visit c w e (t.nodes.length + 2) ⟨path, place, node, 0, path⟩
        | .error fault =>
          (c.report (quoted path ++ ": " ++ fault.reason) : Run Unit)
          modify fun s => { s with isGood := false }
    let (_, s) ← goThrough.run ⟨false, false, true, []⟩
    let outcomes ← s.batches.mapM fun (command, files) => do
      match ← c.launch (command.headD "") (command.drop 1 ++ files) with
      | .ok (.exited status) => return status == 0
      | .ok (.killed _) => return false
      | .error fault =>
        c.report (quoted (command.headD "") ++ ": " ++ fault.reason)
        return false
    return statusIf (s.isGood && outcomes.all (· == true))

end Tool
end SysReg.Shell
