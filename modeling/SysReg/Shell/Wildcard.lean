import SysReg.Shell.Syntax

/-!
# Wildcards

A pattern of the shell. Unless it is quoted, a question mark stands for any one octet, an asterisk for
any octets, and brackets for one of those that they list.
-/

namespace SysReg.Shell

/-- A character of a word that is in use, or a mark between such characters. -/
inductive Glyph where
  /-- A character that matches only itself. -/
  | quoted (c : Char)
  /-- A character that may be a wildcard. -/
  | plain (c : Char)
  /-- Nothing, but enough to make a field. -/
  | edge
  /-- The end of a field. -/
  | stop
  /-- A sign of patterns in brackets: the one in front of them, a bracket, or a bar. -/
  | sign (c : Char)
  deriving DecidableEq, Repr

namespace Glyph

/-- The character of a glyph, if it has one. -/
def char? : Glyph → Option Char
  | quoted c | plain c | sign c => some c
  | edge | stop => none

/-- The text of glyphs. -/
def textOf (glyphs : List Glyph) : String :=
  String.ofList (glyphs.filterMap char?)

end Glyph

/-- A part of a pattern. -/
inductive Wildcard where
  | one (c : Char)
  | anyOne
  | anyMany
  /-- One of the characters in some ranges, or one that is in none of them. -/
  | oneOf (negated : Bool) (ranges : List (Char × Char))
  /-- Texts that match some patterns, as many or as few as the sign says. -/
  | choice (sign : Char) (patterns : List (List Wildcard))

namespace Wildcard

/-- The ranges of the names that may stand between colons in brackets. -/
def namedRanges : List (String × List (Char × Char)) :=
  [("alnum", [('0', '9'), ('A', 'Z'), ('a', 'z')]), ("alpha", [('A', 'Z'), ('a', 'z')]),
    ("blank", [(' ', ' '), ('\t', '\t')]), ("cntrl", [('\x00', '\x1f'), ('\x7f', '\x7f')]),
    ("digit", [('0', '9')]), ("graph", [('!', '~')]), ("lower", [('a', 'z')]),
    ("print", [(' ', '~')]), ("punct", [('!', '/'), (':', '@'), ('[', '\x60'), ('\x7b', '~')]),
    ("space", [(' ', ' '), ('\t', '\r')]), ("upper", [('A', 'Z')]),
    ("xdigit", [('0', '9'), ('A', 'F'), ('a', 'f')])]

/-- The character at the start of glyphs, of which a backslash that is not quoted takes the meaning, and
whether it has a meaning. -/
def glyphAt? : List Glyph → Option (Char × Bool × List Glyph)
  | .plain '\\' :: .plain c :: rest => some (c, false, rest)
  | .plain c :: rest => some (c, true, rest)
  | .quoted c :: rest => some (c, false, rest)
  | _ => none

/-- The ranges of a list in brackets and what follows its end; no end means that there is no list.
The number is at least that of the glyphs. -/
def ranges : Nat → (isFirst : Bool) → List Glyph → Option (List (Char × Char) × List Glyph)
  | 0, _, _ => none
  | n + 1, isFirst, glyphs =>
    let before (found : List (Char × Char)) (rest : List Glyph) :=
      (ranges n false rest).map fun (others, rest) => (found ++ others, rest)
    match glyphAt? glyphs with
    | none => none
    | some (']', true, rest) => if isFirst then before [(']', ']')] rest else some ([], rest)
    | some (c, hasMeaning, rest) =>
      let name := Glyph.textOf ((rest.drop 1).takeWhile fun g => g.char?.any Char.isAlpha)
      let behind := rest.drop (name.length + 1)
      match hasMeaning && c == '[' && rest.head? == some (.plain ':'), namedRanges.lookup name, behind with
      | true, some found, .plain ':' :: .plain ']' :: rest => before found rest
      | _, _, _ =>
        match rest with
        | .plain '-' :: after =>
          match glyphAt? after with
          | some (d, isOpen, after) =>
            if isOpen && d == ']' then before [(c, c)] rest else before [(c, d)] after
          | none => before [(c, c)] rest
        | _ => before [(c, c)] rest

/-- The list in brackets behind the first of them, and what follows it. One kind of shell has two signs for
what is not in a list. -/
def listAt? (d : Dialect) (glyphs : List Glyph) : Option (Wildcard × List Glyph) :=
  let (negated, glyphs) := match glyphs with
    | .plain '!' :: rest => (true, rest)
    | .plain '^' :: rest => (d == Dialect.extended, if d == Dialect.extended then rest else glyphs)
    | rest => (false, rest)
  (ranges (glyphs.length + 1) true glyphs).map fun (found, rest) => (oneOf negated found, rest)

/-- The character matches a part that stands for one. -/
def admits (w : Wildcard) (c : Char) : Bool :=
  match w with
  | one d => c == d
  | anyOne | anyMany => true
  | choice _ _ => false
  | oneOf negated found => (found.any fun (low, high) => low ≤ c && c ≤ high) != negated

/-- The parts of a pattern up to its end or to a bar or bracket, and what follows. The number is at least
that of the glyphs. -/
def partsAt (d : Dialect) : Nat → List Glyph → List Wildcard × List Glyph
  | 0, glyphs => ([], glyphs)
  | n + 1, glyphs =>
    let before (w : Wildcard) (rest : List Glyph) : List Wildcard × List Glyph :=
      let (others, rest) := partsAt d n rest
      (w :: others, rest)
    match glyphs with
    | .sign '|' :: _ | .sign ')' :: _ => ([], glyphs)
    | .sign sign :: .sign '(' :: rest =>
      let (patterns, rest) := patternsAt d n rest
      before (choice sign patterns) rest
    | _ =>
      match glyphAt? glyphs with
      | none => ([], glyphs)
      | some (c, false, rest) => before (one c) rest
      | some ('*', true, rest) => before anyMany rest
      | some ('?', true, rest) => before anyOne rest
      | some ('[', true, rest) =>
        match listAt? d rest with
        | some (list, after) => before list after
        | none => before (one '[') rest
      | some (c, true, rest) => before (one c) rest
where
  /-- The patterns between bars up to a bracket, and what follows it. -/
  patternsAt (d : Dialect) : Nat → List Glyph → List (List Wildcard) × List Glyph
    | 0, glyphs => ([], glyphs)
    | n + 1, glyphs =>
      let (first, rest) := partsAt d n glyphs
      match rest with
      | .sign '|' :: rest =>
        let (others, rest) := patternsAt d n rest
        (first :: others, rest)
      | rest => ([first], rest.drop 1)

/-- The parts of a pattern. -/
def ofGlyphs (d : Dialect) (glyphs : List Glyph) : List Wildcard :=
  (partsAt d (2 * glyphs.length + 1) (glyphs.filter fun g => g.char?.isSome)).1

/-- The whole text matches the pattern. The number is greater than that of the parts and characters. -/
def matchesWithin : Nat → List Wildcard → List Char → Bool
  | 0, _, _ => false
  | _, [], cs => cs.isEmpty
  | n + 1, anyMany :: rest, cs =>
    (List.range (cs.length + 1)).any fun k => matchesWithin n rest (cs.drop k)
  | n + 1, choice sign patterns :: rest, cs =>
    let one (text : List Char) : Bool := patterns.any fun pattern => matchesWithin n pattern text
    let counts := List.range (cs.length + 1)
    let once := counts.any fun k => one (cs.take k) && matchesWithin n rest (cs.drop k)
    let more := (counts.drop 1).any fun k =>
      one (cs.take k) && matchesWithin n (choice '*' patterns :: rest) (cs.drop k)
    match sign with
    | '?' => matchesWithin n rest cs || once
    | '*' => matchesWithin n rest cs || more
    | '+' => once || more
    | '!' => counts.any fun k => !one (cs.take k) && matchesWithin n rest (cs.drop k)
    | _ => once
  | _, _ :: _, [] => false
  | n + 1, w :: rest, c :: cs => w.admits c && matchesWithin n rest cs

/-- How many parts a pattern has, with those in brackets. -/
def weight : List Wildcard → Nat
  | [] => 0
  | choice _ patterns :: rest => weights patterns + weight rest + 1
  | _ :: rest => weight rest + 1
where
  /-- How many parts some patterns have. -/
  weights : List (List Wildcard) → Nat
    | [] => 0
    | pattern :: rest => weight pattern + weights rest

/-- The whole text matches the pattern. -/
def matchesAll (pattern : List Wildcard) (cs : List Char) : Bool :=
  matchesWithin (2 * weight pattern + 2 * cs.length + 1) pattern cs

/-- The pattern has a part that stands for more than one text. -/
def isWild (pattern : List Wildcard) : Bool :=
  pattern.any fun w => match w with
    | one _ => false
    | _ => true

/-- The text without the shortest or longest start that matches. -/
def trimStart (longest : Bool) (pattern : List Wildcard) (cs : List Char) : List Char :=
  let counts := List.range (cs.length + 1)
  let counts := if longest then counts.reverse else counts
  cs.drop ((counts.find? fun n => matchesAll pattern (cs.take n)).getD 0)

/-- The text without the shortest or longest end that matches. -/
def trimEnd (longest : Bool) (pattern : List Wildcard) (cs : List Char) : List Char :=
  let counts := List.range (cs.length + 1)
  let counts := if longest then counts else counts.reverse
  cs.take ((counts.find? fun n => matchesAll pattern (cs.drop n)).getD cs.length)

end Wildcard
end SysReg.Shell
