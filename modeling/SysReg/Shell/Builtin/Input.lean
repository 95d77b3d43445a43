import SysReg.Shell.Builtin.Declaring

/-!
# Reading lines

A line of the input is split into fields, one for each of some variables. The last variable takes all
that is left, with the separators in it.
-/

namespace SysReg.Shell.Builtin

/-- A line at the start of a text, in which a backslash takes the meaning of what is behind it, how many
octets it takes up, and whether it has an end. The number is at least that of the characters. -/
def lineAt (isRaw : Bool) : Nat → List Char → List Glyph × Nat × Bool
  | 0, _ | _, [] => ([], 0, false)
  | n + 1, c :: cs =>
    let before (found : List Glyph) (count : Nat) (rest : List Char) : List Glyph × Nat × Bool :=
      let (others, used, ended) := lineAt isRaw n rest
      (found ++ others, count + used, ended)
    if c == '\n' then ([], 1, true)
    else if c == '\x00' then before [] 1 cs
    else if c == '\\' && !isRaw then
      match cs with
      | [] => ([], 1, false)
      | '\n' :: rest => before [] 2 rest
      | d :: rest => before [.quoted d] 2 rest
    else before [.plain c] 1 cs

/-- The glyph is a separator. -/
def isSeparator (separators : List Char) : Glyph → Bool
  | .plain c => separators.contains c
  | _ => false

/-- The glyph is a separator that makes no field by itself. -/
def isBlankSeparator (separators : List Char) : Glyph → Bool
  | .plain c => separators.contains c && Splitting.isBlank c
  | _ => false

/-- The glyphs behind one separator at most and the blanks around it. -/
def afterSeparator (separators : List Char) (line : List Glyph) : List Glyph :=
  let blank := isBlankSeparator separators
  match line.dropWhile blank with
  | g :: rest => if isSeparator separators g then rest.dropWhile blank else g :: rest
  | [] => []

/-- The text without its last glyphs of a kind. -/
def trimmedEnd (kind : Glyph → Bool) (line : List Glyph) : List Glyph :=
  (line.reverse.dropWhile kind).reverse

/-- What the last variable takes. One separator behind a single field is no part of it. -/
def lastField (separators : List Char) (line : List Glyph) : List Glyph :=
  let blank := isBlankSeparator separators
  let line := trimmedEnd blank line
  match line.reverse with
  | g :: front =>
    let body := trimmedEnd blank front.reverse
    if isSeparator separators g && !body.any (isSeparator separators) then body else line
  | [] => []

/-- The fields of a line for so many variables. -/
def lineFields (separators : List Char) : Nat → List Glyph → List (List Glyph)
  | 0, _ => []
  | 1, line => [lastField separators line]
  | n + 1, line =>
    let field := line.takeWhile fun g => !isSeparator separators g
    field :: lineFields separators n (afterSeparator separators (line.drop field.length))

/-- Reads a line into variables. -/
def readPlain : Builtin := fun arguments => do
  let (options, names) ← options ['r'] ['p'] (arguments.length + 1) arguments
  if names.isEmpty then Run.fail (.stated "arg count")
  let p ← get
  match p.channels.streamOf? 0 with
  | none => return 1
  | some number =>
    match p.channels.pending number with
    | .error _ => return 1
    | .ok text =>
      let (line, count, ended) := lineAt (options.any (·.1 == 'r')) (text.length + 1) text
      set { p with channels := p.channels.skip number count }
      let fields := lineFields p.separators names.length
        (line.dropWhile (isBlankSeparator p.separators))
      (names.zip fields).forM fun (name, field) => do
        if !isName name then Run.fail (.badName name)
        Run.setVariable name (Glyph.textOf field)
      return if ended then 0 else 1

/-! ## More ways of reading -/

/-- What ends a text that is read. -/
structure ReadingEnd where
  /-- The character behind it, if there is one. -/
  mark : Option Char
  /-- How many characters it has at most. -/
  most : Option Nat
  deriving DecidableEq, Repr

/-- A text at the start of another, how many octets it takes up, and whether it has an end. The number is at
least that of the characters. -/
def textAt (isRaw : Bool) (e : ReadingEnd) : (read : Nat) → Nat → List Char → List Glyph × Nat × Bool
  | _, 0, _ => ([], 0, e.most == some 0)
  | read, n + 1, cs =>
    if e.most == some read then ([], 0, true)
    else
      match cs with
      | [] => ([], 0, false)
      | c :: rest =>
        let before (found : List Glyph) (count : Nat) (rest : List Char) : List Glyph × Nat × Bool :=
          let (others, used, ended) := textAt isRaw e (read + found.length) n rest
          (found ++ others, count + used, ended)
        if some c == e.mark then ([], 1, true)
        else if c == '\x00' then before [] 1 rest
        else if c == '\\' && !isRaw then
          match rest with
          | [] => ([], 1, false)
          | '\n' :: rest => before [] 2 rest
          | d :: rest => before [.quoted d] 2 rest
        else before [.plain c] 1 rest

/-- The fields of a text that is read into a list. -/
def listFields (separators : List Char) (line : List Glyph) : List (List Glyph) :=
  Splitting.fields separators [⟨line, true⟩]

/-- Reads a text into variables or into a list. -/
def readExtended : Builtin := fun arguments => do
  let (options, names) ← options ['r', 's', 'e'] ['a', 'd', 'i', 'n', 'N', 'p', 't', 'u'] (arguments.length + 1)
    arguments
  let value? (c : Char) : Option String := (options.filter (·.1 == c)).getLast?.map (·.2)
  let p ← get
  let descriptor ← match value? 'u' with
    | none => pure 0
    | some text =>
      match text.toNat? with
      | some n => pure n
      | none => Run.fail (.stated (text ++ ": invalid file descriptor specification"))
  let most ← match (value? 'N').or (value? 'n') with
    | none => pure none
    | some text =>
      match text.toNat? with
      | some n => pure (some n)
      | none => Run.fail (.stated (text ++ ": invalid number"))
  let mark : Option Char := if (value? 'N').isSome then none
    else match value? 'd' with
      | none => some '\n'
      | some text => some (text.toList.headD '\x00')
  match names.find? fun name => !isName (declaredBy name).name with
  | some name => Run.fail (.badName name)
  | none => pure ()
  match p.channels.streamOf? descriptor with
  | none =>
    Run.fail (.stated (Numeral.decimal descriptor ++ ": invalid file descriptor: Bad file descriptor"))
  | some number =>
    match p.channels.pending number with
    | .error fault => Run.fail (.stated ("read error: " ++ Numeral.decimal descriptor ++ ": " ++ fault.reason))
    | .ok text =>
      let (line, count, ended) :=
        if mark == some '\x00' then
          let front := text.takeWhile (· != '\x00')
          (front.map Glyph.plain, front.length + 1, decide (front.length < text.length))
        else textAt (options.any (·.1 == 'r')) ⟨mark, most⟩ 0 (text.length + 1) text
      set { p with channels := p.channels.skip number count }
      let put (name : String) (value : String) : Run Unit :=
        let d := declaredBy name
        Run.assign d.name d.key false value
      match value? 'a', names with
      | some name, _ =>
        if !isName name then Run.fail (.badName name)
        Run.assignList name false ((listFields p.separators line).map fun field => (none, Glyph.textOf field))
      | none, [] => put "REPLY" (Glyph.textOf line)
      | none, names =>
        let isWhole := (value? 'N').isSome
        let fields := if isWhole then line :: names.tail.map fun _ => []
          else lineFields p.separators names.length (line.dropWhile (isBlankSeparator p.separators))
        (names.zip fields).forM fun (name, field) => put name (Glyph.textOf field)
      return if ended then 0 else 1

/-- Reads a line into variables. -/
def read : Builtin := fun arguments => do
  match (← get).dialect with
  | .plain => readPlain arguments
  | .extended => readExtended arguments

/-- The parts of a text up to each mark, with the marks. The number is at least that of the characters. -/
def markedParts (mark : Char) : Nat → List Char → List (List Char)
  | 0, _ | _, [] => []
  | n + 1, cs =>
    let front := cs.takeWhile (· != mark)
    match cs.drop front.length with
    | [] => [front]
    | c :: rest => (front ++ [c]) :: markedParts mark n rest

/-- Reads lines into a list. -/
def mapfile : Builtin := fun arguments => do
  let (options, names) ← options ['t'] ['d', 'n', 'O', 's', 'u', 'C', 'c'] (arguments.length + 1) arguments
  let value? (c : Char) : Option String := (options.filter (·.1 == c)).getLast?.map (·.2)
  let number (c : Char) : Nat := ((value? c).bind String.toNat?).getD 0
  let name := names.headD "MAPFILE"
  if !isName name then Run.fail (.badName name)
  let mark := match value? 'd' with
    | none => '\n'
    | some text => text.toList.headD '\x00'
  match ← Run.readAll (number 'u') with
  | .error _ =>
    Run.fail (.stated (Numeral.decimal (number 'u') ++ ": invalid file descriptor: Bad file descriptor"))
  | .ok text =>
    let parts := (markedParts mark (text.length + 1) text).drop (number 's')
    let parts := if number 'n' == 0 then parts else parts.take (number 'n')
    let shown (part : List Char) : String :=
      let isEnded := part.getLast? == some mark
      let part := if isEnded && (options.any (·.1 == 't') || mark == '\x00') then part.dropLast else part
      String.ofList part
    if (value? 'O').isNone then Run.assignList name false []
    let start := number 'O'
    parts.zipIdx.forM fun (part, n) =>
      Run.assign name (some (Numeral.decimal (start + n))) false (shown part)
    return 0

end SysReg.Shell.Builtin
