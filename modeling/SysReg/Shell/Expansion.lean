import SysReg.Shell.Arithmetic
import SysReg.Shell.Calculation
import SysReg.Shell.Field
import SysReg.Shell.Quotation

/-!
# Words in use

Before a command is carried out its words are put in use: what stands for something else is replaced, and
the result is split into fields, some of which stand for files. The output of commands is handed in by
what carries commands out.

A word with braces stands for several words: one for each of the parts between commas, or for each number
or letter of a row.
-/

namespace SysReg.Shell

/-! ## Braces -/

namespace Braces

/-- The piece is a character that has a meaning. -/
def isSign (c : Char) : Piece → Bool
  | .plain d => c == d
  | _ => false

/-- The pieces up to the brace that closes, and those behind it. Something has to be between the braces that
is made of parts. The number is that of the braces inside that are open. -/
def insideAt? : (depth : Nat) → (hasParts : Bool) → Word → Option (Word × Word)
  | _, _, [] => none
  | depth, hasParts, piece :: rest =>
    let go (depth : Nat) (hasParts : Bool) : Option (Word × Word) :=
      (insideAt? depth hasParts rest).map fun (front, behind) => (piece :: front, behind)
    if isSign '\x7b' piece then go (depth + 1) hasParts
    else if isSign '\x7d' piece then
      if depth == 0 then if hasParts then some ([], rest) else go 0 hasParts else go (depth - 1) hasParts
    else
      let isPart := depth == 0 &&
        (isSign ',' piece || (isSign '.' piece && rest.head?.any (isSign '.')))
      go depth (hasParts || isPart)

/-- The parts between commas. The number is that of the braces that are open. -/
def parts : (depth : Nat) → (current : Word) → Word → List Word
  | _, current, [] => [current.reverse]
  | depth, current, piece :: rest =>
    if depth == 0 && isSign ',' piece then current.reverse :: parts 0 [] rest
    else
      let depth := if isSign '\x7b' piece then depth + 1
        else if isSign '\x7d' piece then depth - 1 else depth
      parts depth (piece :: current) rest

/-- The numbers from one to another by steps. -/
def row (first last step : Int) : List Int :=
  let step := if step == 0 then 1 else step.natAbs
  let count := (last - first).natAbs / step + 1
  (List.range count).map fun (n : Nat) => if first ≤ last then first + step * n else first - step * n

/-- A number with zeros in front of it, up to a width. -/
def widened (width : Nat) (n : Int) : String :=
  let digits := (Numeral.decimal n.natAbs).toList
  if n < 0 then "-" ++ String.ofList (digits.leftpad (width - 1) '0')
  else String.ofList (digits.leftpad width '0')

/-- The number that a whole text spells. -/
def number? (text : String) : Option Int :=
  if text.toList.any fun c => c == ' ' then none else Arithmetic.ofText? true text

/-- The texts of a row of numbers or letters. -/
def rowOf? (text : String) : Option (List String) := do
  let (first, last, step) ← match text.splitOn ".." with
    | [first, last] => some (first, last, 1)
    | [first, last, step] => (number? step).map fun n => (first, last, n)
    | _ => none
  match number? first, number? last with
  | some a, some b =>
    let isPadded (text : String) : Bool :=
      let digits := if text.startsWith "-" then (text.drop 1).toString else text
      1 < digits.length && digits.startsWith "0"
    let width := if isPadded first || isPadded last then max first.length last.length else 0
    return (row a b step).map (widened width)
  | _, _ =>
    match first.toList, last.toList with
    | [a], [b] =>
      if a.isAlpha && b.isAlpha then
        return (row a.toNat b.toNat step).map fun n =>
          let c := Char.ofNat n.toNat
          if c == '\\' then "" else c.toString
      else none
    | _, _ => none

/-- The first braces that stand for several words: what is in front of them, inside and behind. -/
def find? : Word → Option (Word × Word × Word)
  | [] => none
  | piece :: rest =>
    let later := (find? rest).map fun (front, inside, behind) => (piece :: front, inside, behind)
    if isSign '\x7b' piece then
      match insideAt? 0 false rest with
      | some (inside, behind) => some ([], inside, behind)
      | none => later
    else later

/-- The words that a word stands for. The number is greater than that of its pieces. -/
def expandWithin : Nat → Word → List Word
  | 0, word => [word]
  | n + 1, word =>
    match find? word with
    | none => [word]
    | some (front, inside, behind) =>
      let choices : List Word :=
        match parts 0 [] inside with
        | [_] =>
          match (Word.bare? inside).bind rowOf? with
          | some texts => texts.map fun text => [.quoted text.toList]
          | none => [.plain '\x7b' :: inside ++ [.plain '\x7d']]
        | several => several.flatMap (expandWithin n)
      choices.flatMap fun choice => (expandWithin n behind).map fun rest => front ++ choice ++ rest

/-- The words that a word stands for. -/
def expand (word : Word) : List Word :=
  expandWithin (word.length + 1) word

end Braces

/-- What a word is used for. -/
structure Usage where
  /-- It is split into fields. -/
  isFields : Bool
  /-- It stands in the place of an absent value that is not quoted. -/
  isInPlace : Bool
  deriving DecidableEq, Repr

/-- Where a tilde stands for the directory of a user. -/
inductive TildeUse where
  | never
  | atStart
  /-- At the start and after each colon. -/
  | inPath
  deriving DecidableEq, Repr

namespace Expansion

/-! ## Tildes -/

/-- The directories of users. -/
def userHomes : List (String × String) :=
  [("root", "/root"), ("daemon", "/usr/sbin"), ("bin", "/bin"), ("sys", "/dev"),
    ("nobody", "/nonexistent"), ("mail", "/var/mail"), ("www-data", "/var/www")]

/-- The directory that a name after a tilde stands for. -/
def homeOf? (p : Process) (user : String) : Option String :=
  if user.isEmpty then p.value? "HOME" else userHomes.lookup user

/-- The pieces of a word whose first may be a tilde. -/
def tilde (p : Process) (inPath : Bool) (word : Word) : Word :=
  match word with
  | .plain '~' :: rest =>
    let name := rest.takeWhile fun piece =>
      match piece with
      | .plain c => c != '/' && !(inPath && c == ':')
      | _ => false
    let after := rest.drop name.length
    let ends := match after with
      | [] => true
      | .plain _ :: _ => true
      | _ => false
    match if ends then (Word.bare? name).bind (homeOf? p) else none with
    | some home => .quoted home.toList :: after
    | none => word
  | _ => word

/-- The pieces of a word that are a colon and end the part in front of it. -/
def isColon : Piece → Bool
  | .plain ':' => true
  | _ => false

/-- The pieces of a word whose tildes are replaced. -/
def tildes (p : Process) (use : TildeUse) (word : Word) : Word :=
  match use with
  | .never => word
  | .atStart => tilde p false word
  | .inPath => [Piece.plain ':'].intercalate ((word.splitOnP isColon).map (tilde p true))

/-! ## Parameters -/

/-- The character that is put between the arguments of one field. -/
def joint (p : Process) : String :=
  match p.value? "IFS" with
  | none => " "
  | some text => (text.take 1).toString

/-- The arguments, each of which is a field. -/
def argumentFields (p : Process) (asValue : String → List Glyph) : List Glyph :=
  [Glyph.stop].intercalate (p.arguments.map asValue)

/-- The value of the arguments. -/
def argumentsInUse (p : Process) (u : Usage) (name : String) (isQuoted : Bool) : List Stretch :=
  if u.isFields && isQuoted && name == "@" then
    [⟨argumentFields p fun text => .edge :: text.toList.map .quoted, false⟩]
  else if u.isFields && !isQuoted && (joint p).isEmpty then
    [⟨argumentFields p fun text => text.toList.map .plain, false⟩]
  else [Stretch.value isQuoted ((joint p).intercalate p.arguments)]

/-- The value of a parameter as it is put in. -/
def inUse (p : Process) (u : Usage) (name : String) (isQuoted : Bool) (value : String) :
    List Stretch :=
  if name == "@" || name == "*" then argumentsInUse p u name isQuoted
  else [Stretch.value isQuoted value]

/-- The value, unless it is absent. -/
def present (absence : Absence) (value : Option String) : Option String :=
  match absence with
  | .unset => value
  | .unsetOrEmpty => value.filter fun value => !value.isEmpty

/-- The value of a parameter. One that is not set is a fault if that is asked for. -/
def valueOf (name : String) : Run String := do
  let p ← get
  match p.parameter? name with
  | some value => return value
  | none => if p.has 'u' then Run.failForGood (.absent name .unset) else return ""

/-- The name of a parameter that is a number or a sign. -/
def isSpecial (name : String) : Bool :=
  !isName name

/-! ## Lists -/

/-- What a use of a parameter is about: one value, or all those of a list. -/
inductive Referent where
  | one (name : String) (key : Option String)
  /-- The elements of a list, or the arguments if it has no name. -/
  | all (name : Option String) (isJoined : Bool)
  deriving DecidableEq, Repr

namespace Referent

/-- The referent that a name and perhaps the text of a key stand for. -/
def of (name : String) (key : Option String) : Referent :=
  match name, key with
  | "@", none => all none false
  | "*", none => all none true
  | _, some "@" => all (some name) false
  | _, some "*" => all (some name) true
  | _, _ => one name key

/-- The text of a referent in a message. -/
def text : Referent → String
  | one name none => if isName name || specialNames.contains (name.front) then name else "$" ++ name
  | one name (some key) => name ++ "[" ++ key ++ "]"
  | all none isJoined => if isJoined then "*" else "@"
  | all (some name) isJoined => name ++ (if isJoined then "[*]" else "[@]")

end Referent

/-- The values of a list or of the arguments, with their keys. -/
def entriesOf (p : Process) (name : Option String) : List (String × String) :=
  match name with
  | none => p.arguments.zipIdx.map fun (value, n) => (Numeral.decimal (n + 1), value)
  | some name => ((p.content? name).map Content.entries).getD []

/-- The values of a list as they are put in. -/
def listInUse (p : Process) (u : Usage) (isJoined isQuoted : Bool) (values : List String) :
    List Stretch :=
  if !u.isFields then
    [Stretch.value isQuoted ((if isJoined then joint p else " ").intercalate values)]
  else if isQuoted then
    if isJoined then [Stretch.quoted ((joint p).intercalate values)]
    else
      [⟨[Glyph.stop].intercalate (values.map fun text => .edge :: text.toList.map .quoted), false⟩]
  else
    let fields := (values.filter fun text => !text.isEmpty).map fun text => text.toList.map Glyph.plain
    [⟨[Glyph.stop].intercalate fields, true⟩]

/-- The referent that a text names. -/
def referentOf? (text : String) : Option Referent :=
  let cs := text.toList
  let name := String.ofList (cs.takeWhile (· != '['))
  match cs.drop name.length with
  | [] =>
    if isName text || (!text.isEmpty && text.all Char.isDigit) ||
        (cs.length == 1 && specialNames.contains text.front) then some (.of text none) else none
  | '[' :: rest =>
    if isName name && rest.getLast? == some ']' && 1 < rest.length then
      some (.of name (some (String.ofList rest.dropLast)))
    else none
  | _ => none

/-! ## Changes of values -/

/-- The text in quotes, such that a shell reads it as it is. -/
def quotedForShell (text : String) : String :=
  let cs := text.toList
  let isPlain (c : Char) : Bool := ' ' ≤ c && c ≤ '~'
  if cs.all isPlain then
    "\x27" ++ String.join (cs.map fun c => if c == '\x27' then "\x27\\\x27\x27" else c.toString) ++ "\x27"
  else
    "$\x27" ++ String.join (cs.map shown) ++ "\x27"
where
  /-- A character between quotes with escapes. -/
  shown (c : Char) : String :=
    match ((Escape.letters.filter fun e => e.2 != '\x1b').find? fun e => e.2 == c) with
    | some (letter, _) => String.ofList ['\\', letter]
    | none =>
      if c == '\x1b' then "\\E"
      else if c == '\x27' then "\\\x27"
      else if ' ' ≤ c && c ≤ '~' then c.toString
      else "\\" ++ String.ofList ((Nat.toDigits 8 c.toNat).leftpad 3 '0')

/-- The letter changed. -/
def changed (change : LetterChange) (c : Char) : Char :=
  match change with
  | .upper => c.toUpper
  | .lower => c.toLower
  | .toggled => if c.isUpper then c.toLower else c.toUpper

/-- The text with those letters changed that match a pattern, or only its first one. -/
def withLetters (change : LetterChange) (every : Bool) (pattern : List Wildcard) (text : String) :
    String :=
  let one (c : Char) : Char :=
    if pattern.isEmpty || Wildcard.matchesAll pattern [c] then changed change c else c
  match text.toList with
  | [] => ""
  | c :: cs => String.ofList (one c :: if every then cs.map one else cs)

/-- What stands in the place of a match: the pieces with a sign for the match itself replaced. -/
def replacement (glyphs : List Glyph) (found : List Char) : List Char :=
  glyphs.flatMap fun g =>
    match g with
    | .plain '&' => found
    | g => g.char?.toList

/-- The characters with matches of a pattern replaced. At each place the longest match is taken. The number is
greater than that of the characters. -/
def replacedIn (pattern : List Wildcard) (change : List Char → List Char) (every : Bool) :
    Nat → List Char → List Char
  | 0, cs => cs
  | n + 1, cs =>
    match cs with
    | [] => []
    | c :: rest =>
      let counts := (List.range (cs.length + 1)).reverse
      match counts.find? fun k => 0 < k && Wildcard.matchesAll pattern (cs.take k) with
      | some k =>
        change (cs.take k) ++
          if every then replacedIn pattern change every n (cs.drop k) else cs.drop k
      | none => c :: replacedIn pattern change every n rest

/-- The text with matches of a pattern replaced. -/
def replaced (extent : Extent) (pattern : List Wildcard) (change : List Char → List Char) (text : String) :
    String :=
  let cs := text.toList
  let counts := (List.range (cs.length + 1)).reverse
  String.ofList <|
    match extent with
    | .atStart =>
      match counts.find? fun k => Wildcard.matchesAll pattern (cs.take k) with
      | some k => change (cs.take k) ++ cs.drop k
      | none => cs
    | .atEnd =>
      match counts.find? fun k => Wildcard.matchesAll pattern (cs.drop (cs.length - k)) with
      | some k => cs.take (cs.length - k) ++ change (cs.drop (cs.length - k))
      | none => cs
    | .every => if pattern.isEmpty then cs else replacedIn pattern change true (cs.length + 1) cs
    | .first => if pattern.isEmpty then cs else replacedIn pattern change false (cs.length + 1) cs

/-- Where a slice of so many things begins and ends. A negative length is counted from the end. -/
def sliceBounds (size : Nat) (offset : Int) (length : Option Int) (isList : Bool) :
    Except Int (Option (Nat × Nat)) :=
  let start : Int := if offset < 0 then size + offset else offset
  if start < 0 || size < start then .ok none
  else
    match length with
    | none => .ok (some (start.toNat, size))
    | some n =>
      if n < 0 then
        if isList then .error n
        else
          let finish := size + n
          if finish < start then .error n else .ok (some (start.toNat, finish.toNat))
      else .ok (some (start.toNat, min size (start.toNat + n.toNat)))

/-! ## Pieces -/

/-- What puts the work of commands into words. -/
structure Makers where
  /-- The output of commands. -/
  capture : Command → Run String
  /-- A path for the output of commands, or for their input. -/
  channel : Command → (isOutput : Bool) → Run String

section

variable (makers : Makers)

/-- What a parameter stands for in the simpler kind of shell, given what a word stands for. -/
def parameter (word : Usage → Word → Run (List Stretch)) (u : Usage) (name : String) (use : Use)
    (isQuoted : Bool) : Run (List Stretch) := do
  let p ← get
  let replacement : Usage := ⟨u.isFields, !isQuoted⟩
  let asText (w : Word) : Run String := Stretch.textOf <$> word ⟨false, false⟩ w
  match use with
  | .plain => return inUse p u name isQuoted (← valueOf name)
  | .length =>
    let value ← if name == "@" || name == "*" then pure ((joint p).intercalate p.arguments)
      else valueOf name
    return [Stretch.value isQuoted (Numeral.decimal value.length)]
  | .orElse absence w =>
    match present absence (p.parameter? name) with
    | some value => return inUse p u name isQuoted value
    | none => word replacement w
  | .andThen absence w =>
    if (present absence (p.parameter? name)).isSome then word replacement w else return []
  | .orSet absence w =>
    match present absence (p.parameter? name) with
    | some value => return inUse p u name isQuoted value
    | none =>
      let value ← asText w
      if isSpecial name then Run.fail (.badName name)
      Run.setVariable name value
      return [Stretch.value isQuoted value]
  | .orFail absence w =>
    match present absence (p.parameter? name) with
    | some value => return inUse p u name isQuoted value
    | none =>
      if w.isEmpty then Run.fail (.absent name absence)
      else Run.fail (.missing name (← asText w))
  | .without atStart longest w =>
    let value ← if name == "@" || name == "*" then pure ((joint p).intercalate p.arguments)
      else valueOf name
    let pattern := Wildcard.ofGlyphs .plain (Stretch.glyphsOf (← word ⟨false, false⟩ w))
    let left := if atStart then Wildcard.trimStart longest pattern value.toList
      else Wildcard.trimEnd longest pattern value.toList
    return [Stretch.value isQuoted (String.ofList left)]
  | _ => Run.fail (.badSubstitution "")

/-- What a subject refers to, given what a word stands for. -/
def referent (word : Usage → Word → Run (List Stretch)) : Parameter → Run Referent
  | .named name => return .of name none
  | .element name key => do
    match key with
    | [.plain '@'] => return .all (some name) false
    | [.plain '*'] => return .all (some name) true
    | _ => return .one name (some (Stretch.textOf (← word ⟨false, false⟩ key)))
  | .through subject => do
    let found ← referent word subject
    let value ← match found with
      | .one name key => Run.lookUp Run.evaluate name key
      | .all name _ => pure (some (" ".intercalate ((entriesOf (← get) name).map (·.2))))
    match value with
    | none | some "" => Run.fail (.stated (found.text ++ ": invalid indirect expansion"))
    | some text =>
      match referentOf? text with
      | some found => return found
      | none => Run.fail (.stated (text ++ ": invalid variable name"))

/-- The value as a letter says. -/
def shownAs (p : Process) (r : Referent) (letter : Char) (value : String) : String :=
  match letter with
  | 'Q' => quotedForShell value
  | 'U' => value.map Char.toUpper
  | 'u' => withLetters .upper false [] value
  | 'L' => value.map Char.toLower
  | 'E' => String.ofList (Quotation.unescaped (value.length + 1) value.toList)
  | 'a' =>
    match r with
    | .one name _ | .all (some name) _ => String.ofList (((p.variableOf? name).map Variable.marks).getD [])
    | .all none _ => ""
  | 'A' =>
    match r with
    | .one name none =>
      let found := String.ofList (((p.variableOf? name).map Variable.marks).getD [])
      (if found.isEmpty then "" else "declare -" ++ found ++ " ") ++ name ++ "=" ++ quotedForShell value
    | _ => value
  | 'K' | 'k' => quotedForShell value
  | _ => value

/-- What a parameter stands for, given what a word stands for. -/
def parameterExtended (word : Usage → Word → Run (List Stretch)) (u : Usage) (subject : Parameter)
    (use : Use) (isQuoted : Bool) : Run (List Stretch) := do
  match use with
  | .unknown text => Run.fail (.badSubstitution text)
  | .names =>
    let start : String := match subject with
      | .named name => name
      | _ => ""
    let p ← get
    let names := ((p.scope.filter fun (name, v) => name.startsWith start && v.content.isSome).map
      (·.1)).mergeSort fun a b => decide (a ≤ b)
    return listInUse p u false isQuoted names
  | _ =>
  let r ← referent word subject
  let p ← get
  let replacementUsage : Usage := ⟨u.isFields, !isQuoted⟩
  let glyphs (w : Word) : Run (List Glyph) := Stretch.glyphsOf <$> word ⟨false, false⟩ w
  let asText (w : Word) : Run String := Stretch.textOf <$> word ⟨false, false⟩ w
  let value? : Run (Option String) := match r with
    | .one name key => Run.lookUp Run.evaluate name key
    | .all name isJoined => do
      match (entriesOf (← get) name).map (·.2) with
      | [] => return none
      | values => return some ((if isJoined then joint p else " ").intercalate values)
  let put (value : String) : Run (List Stretch) := return [Stretch.value isQuoted value]
  let asItIs (value : String) : Run (List Stretch) := match r with
    | .one _ _ => put value
    | .all name isJoined => return listInUse p u isJoined isQuoted ((entriesOf p name).map (·.2))
  let value : Run String := do
    match ← value?, r with
    | some value, _ => return value
    | none, .one _ _ => if p.has 'u' then Run.failForGood (.absent r.text .unset) else return ""
    | none, .all _ _ => return ""
  let onEach (f : String → String) : Run (List Stretch) := do
    match r with
    | .one _ _ => put (f (← value))
    | .all name isJoined => return listInUse p u isJoined isQuoted ((entriesOf p name).map fun e => f e.2)
  match use with
  | .plain => asItIs (← value)
  | .length =>
    match r with
    | .one _ _ => put (Numeral.decimal (← value).length)
    | .all name _ => put (Numeral.decimal (entriesOf p name).length)
  | .orElse absence w =>
    match present absence (← value?) with
    | some value => asItIs value
    | none => word replacementUsage w
  | .andThen absence w =>
    if (present absence (← value?)).isSome then word replacementUsage w else return []
  | .orSet absence w =>
    match present absence (← value?), r with
    | some value, _ => asItIs value
    | none, .one name key =>
      if isSpecial name then Run.fail (.stated ("$" ++ name ++ ": cannot assign in this way"))
      let value ← asText w
      Run.assign name key false value
      put ((← value?).getD value)
    | none, .all name _ =>
      Run.fail (.stated ((match name with
        | some _ => r.text
        | none => "$" ++ r.text) ++ ": cannot assign in this way"))
  | .orFail absence w =>
    match present absence (← value?) with
    | some value => asItIs value
    | none =>
      let name := match r with
        | .one name none => name
        | r => r.text
      let text ← asText w
      Run.failForGood (.missing name (
        if !text.isEmpty then text
        else if absence == .unset then "parameter not set" else "parameter null or not set"))
  | .without atStart longest w =>
    let pattern := Wildcard.ofGlyphs .extended (← glyphs w)
    onEach fun value => String.ofList (if atStart then Wildcard.trimStart longest pattern value.toList
      else Wildcard.trimEnd longest pattern value.toList)
  | .replaced extent w new =>
    let pattern := Wildcard.ofGlyphs .extended (← glyphs w)
    let new ← glyphs new
    onEach (replaced extent pattern (replacement new))
  | .recased change every w =>
    let pattern := Wildcard.ofGlyphs .extended (← glyphs w)
    onEach (withLetters change every pattern)
  | .shown letter => onEach (shownAs p r letter)
  | .keys =>
    match r with
    | .all (some name) isJoined =>
      return listInUse p u isJoined isQuoted ((entriesOf p (some name)).map (·.1))
    | _ => put ""
  | .slice offset length =>
    let offset ← Run.evaluate (← asText offset)
    let length ← length.mapM fun w => do Run.evaluate (← asText w)
    match r with
    | .one _ _ =>
      let value ← value
      match sliceBounds value.length offset length false with
      | .error n => Run.fail (.stated (Numeral.signedDecimal n ++ ": substring expression < 0"))
      | .ok none => put ""
      | .ok (some (start, finish)) => put (String.ofList ((value.toList.take finish).drop start))
    | .all name isJoined =>
      let values : List (Nat × String) := match name with
        | none => (0, p.name) :: p.arguments.zipIdx.map fun (value, n) => (n + 1, value)
        | some name =>
          match p.content? name with
          | some (.list elements) => elements
          | found => ((found.map Content.entries).getD []).zipIdx.map fun (e, n) => (n, e.2)
      let size := ((values.getLast?).map (·.1 + 1)).getD 0
      match sliceBounds size offset none true with
      | .error _ | .ok none => return listInUse p u isJoined isQuoted []
      | .ok (some (start, _)) =>
        let found := (values.filter fun e => start ≤ e.1).map (·.2)
        match length with
        | none => return listInUse p u isJoined isQuoted found
        | some n =>
          if n < 0 then Run.fail (.stated (Numeral.signedDecimal n ++ ": substring expression < 0"))
          return listInUse p u isJoined isQuoted (found.take n.toNat)
  | .unknown _ | .names => return []

/-- What a piece stands for, given what a word stands for. -/
def piece (word : Usage → Word → Run (List Stretch)) (u : Usage) : Piece → Run (List Stretch)
  | .plain c => return [⟨[.plain c], u.isInPlace⟩]
  | .quoted cs => return [⟨.edge :: cs.map .quoted, false⟩]
  | .parameter subject use isQuoted => do
    match (← get).dialect, subject with
    | .plain, .named name => parameter word u name use isQuoted
    | _, _ => parameterExtended word u subject use isQuoted
  | .output commands isQuoted => return [Stretch.value isQuoted (← makers.capture commands)]
  | .value expression isQuoted => do
    let text := Stretch.textOf (← word ⟨false, false⟩ expression)
    return [Stretch.value isQuoted (Numeral.signedDecimal (← Run.evaluate text))]
  | .channel commands isOutput => return [Stretch.quoted (← makers.channel commands isOutput)]
  | .elements _ => return []
  | .patterns sign choices => do
    let found ← choices.mapM fun choice => do
      return Stretch.glyphsOf (← word ⟨false, false⟩ choice)
    return [⟨[.sign sign, .sign '('] ++ [Glyph.sign '|'].intercalate found ++ [.sign ')'], false⟩]

/-- Stretches of which those that follow each other and are put in together are one. -/
def merged : List Stretch → List Stretch
  | [] => []
  | s :: rest =>
    match merged rest with
    | t :: others => if s.splits == t.splits then ⟨s.glyphs ++ t.glyphs, s.splits⟩ :: others
      else s :: t :: others
    | [] => [s]

/-- What a word stands for. The number bounds how deep words are nested. -/
def word : Nat → TildeUse → Usage → Word → Run (List Stretch)
  | 0, _, _, _ => Run.fail (.stated "nested too deep")
  | n + 1, use, u, w => do
    let parts ← (tildes (← get) use w).mapM (piece makers (fun u w => do
      let found ← word n .atStart u w
      return if u.isInPlace then merged found else found) u)
    return parts.flatten

/-- How deep words are nested at most. -/
def depth : Nat := 100

/-! ## Uses of words -/

/-- How a process looks for the names of files. -/
def globbing (p : Process) : Globbing :=
  ⟨p.dialect, p.switches.contains "dotglob", p.switches.contains "nullglob"⟩

/-- The fields of a word. -/
def fields (w : Word) : Run (List String) := do
  let words := if (← get).dialect == .extended then Braces.expand w else [w]
  let found ← words.mapM fun w => do
    let found ← word makers depth .atStart ⟨true, false⟩ w
    let p ← get
    let fields := Splitting.fields p.separators found
    if p.has 'f' then return fields.map Glyph.textOf
    else return fields.flatMap (pathsOf (globbing p) p.channels.tree)
  return found.flatten

/-- The text of a word that is not split. -/
def text (use : TildeUse) (w : Word) : Run String := do
  return Stretch.textOf (← word makers depth use ⟨false, false⟩ w)

/-- The glyphs of a word that is not split. -/
def glyphs (w : Word) : Run (List Glyph) := do
  return Stretch.glyphsOf (← word makers depth .atStart ⟨false, false⟩ w)

/-- The pattern that a word is. -/
def pattern (w : Word) : Run (List Wildcard) := do
  return Wildcard.ofGlyphs (← get).dialect (← glyphs makers w)

end

end Expansion
end SysReg.Shell
