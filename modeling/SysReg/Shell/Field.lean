import SysReg.FileTree
import SysReg.Shell.Wildcard

/-!
# Fields

The fields of a word in use. A word in use is a row of stretches: what was put in without quotes ends a
field at each separator, and the rest does not. A field with wildcards stands for the names of files.
-/

namespace SysReg.Shell

/-- A stretch of a word in use. -/
structure Stretch where
  glyphs : List Glyph
  /-- Fields end at separators. -/
  splits : Bool
  deriving DecidableEq, Repr

namespace Stretch

/-- Characters that stand for themselves. -/
def quoted (text : String) : Stretch :=
  ⟨text.toList.map .quoted, false⟩

/-- What was put in, quoted or not. -/
def value (isQuoted : Bool) (text : String) : Stretch :=
  if isQuoted then quoted text else ⟨text.toList.map .plain, true⟩

/-- The glyphs of stretches. -/
def glyphsOf (stretches : List Stretch) : List Glyph :=
  stretches.flatMap glyphs

/-- The text of stretches. -/
def textOf (stretches : List Stretch) : String :=
  Glyph.textOf (glyphsOf stretches)

end Stretch

/-- How far a word is split: the fields so far and the field that has begun, all of them from behind, and
what is passed over behind a separator, which may still hold one that is no blank. -/
structure Splitting where
  done : List (List Glyph)
  current : List Glyph
  passing : Option Bool

namespace Splitting

/-- The start of a word. -/
def start : Splitting := ⟨[], [], none⟩

/-- A separator that makes no field by itself. -/
def isBlank (c : Char) : Bool :=
  c == ' ' || c == '\t' || c == '\n'

/-- Adds a glyph to the field. -/
def push (s : Splitting) (g : Glyph) : Splitting :=
  { s with current := g :: s.current, passing := none }

/-- Ends the field. -/
def close (s : Splitting) (passing : Option Bool) : Splitting :=
  ⟨s.current.reverse :: s.done, [], passing⟩

/-- Goes on with a glyph of a stretch that splits. -/
def step (separators : List Char) (s : Splitting) (g : Glyph) : Splitting :=
  match g with
  | .plain c =>
    if !separators.contains c then s.push g
    else
      match s.passing, isBlank c with
      | some _, true => s
      | some true, false => { s with passing := some false }
      | some false, false => s.close (some false)
      | none, isBlank => if isBlank && s.current.isEmpty then s else s.close (some isBlank)
  | .stop => s.close none
  | _ => s.push g

/-- Goes on with a stretch. -/
def stretch (separators : List Char) (s : Splitting) (part : Stretch) : Splitting :=
  let s := { s with passing := none }
  if part.splits then part.glyphs.foldl (step separators) s
  else part.glyphs.foldl (fun s g => if g == .stop then s.close none else s.push g) s

/-- The fields of a word in use. -/
def fields (separators : List Char) (word : List Stretch) : List (List Glyph) :=
  let s := word.foldl (stretch separators) start
  (if s.current.isEmpty then s.done else s.current.reverse :: s.done).reverse

end Splitting

/-! ## Names of files -/

/-- The names in the directory of a path, with those of the directory itself and of the one above. -/
def namesAt (t : FileTree) (path : String) : List String :=
  let path := if path.isEmpty then "." else path
  match t.walk path (FileTree.names path) with
  | .ok place => if (t.node? place).any FileNode.isDirectory then "." :: ".." :: t.namesIn place else []
  | .error _ => []

/-- How names of files are looked for. -/
structure Globbing where
  dialect : Dialect
  /-- A name that begins with a dot is meant as well. -/
  withHidden : Bool
  /-- What stands for no file is nothing. -/
  orNothing : Bool

/-- The part stands for the character. -/
def isOne (c : Char) : Wildcard → Bool
  | .one d => c == d
  | _ => false

/-- The paths below one that parts of a pattern stand for. A name that begins with a dot is only meant by
a dot. -/
def pathsBelow (g : Globbing) (t : FileTree) (above : String) : List (List Glyph) → List String
  | [] => [above]
  | part :: rest =>
    let pattern := Wildcard.ofGlyphs g.dialect part
    if !Wildcard.isWild pattern then
      let path := above ++ String.ofList (pattern.filterMap fun w => match w with
        | .one c => some c
        | _ => none)
      if !rest.isEmpty then pathsBelow g t (path ++ "/") rest
      else if (t.locate false path).isOk then [path] else []
    else
      let found := (namesAt t above).filter fun name =>
        Wildcard.matchesAll pattern name.toList &&
          (!name.startsWith "." || pattern.head?.any (isOne '.') || g.withHidden) &&
          (g.dialect == .plain || (name != "." && name != ".."))
      if rest.isEmpty then found.map (above ++ ·)
      else
        (found.filter fun name => ((t.find (above ++ name)).toOption).any FileNode.isDirectory).flatMap
          fun name => pathsBelow g t (above ++ name ++ "/") rest

/-- The paths that a field stands for, or else its text. -/
def pathsOf (g : Globbing) (t : FileTree) (field : List Glyph) : List String :=
  if !Wildcard.isWild (Wildcard.ofGlyphs g.dialect field) then [Glyph.textOf field]
  else
    let parts := (field.filter fun glyph => glyph.char?.isSome).splitOnP fun glyph => glyph.char? == some '/'
    match pathsBelow g t "" parts with
    | [] => if g.orNothing then [] else [Glyph.textOf field]
    | found => found.mergeSort fun a b => decide (a ≤ b)

end SysReg.Shell
