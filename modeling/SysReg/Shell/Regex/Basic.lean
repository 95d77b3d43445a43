import SysReg.Shell.Wildcard

/-!
# Regular expressions

A regular expression of the tools, which may count groups and ask for the text of one again. A match is
where it ends and what its groups matched.

The matches from one place are found all at once, the preferred one of those with the same end. Of two
parts that follow each other the first is preferred to be long.
-/

namespace SysReg.Shell

/-- A set of octets. -/
structure OctetSet where
  isNegated : Bool
  ranges : List (Char × Char)
  deriving DecidableEq, Repr

namespace OctetSet

/-- The octet is in one of the ranges. -/
def covers (s : OctetSet) (c : Char) : Bool :=
  s.ranges.any fun (low, high) => low ≤ c && c ≤ high

/-- The octet is in the set, perhaps in the other case. -/
def admits (s : OctetSet) (foldsCase : Bool) (c : Char) : Bool :=
  (s.covers c || (foldsCase && (s.covers c.toLower || s.covers c.toUpper))) != s.isNegated

/-- The set of one octet. -/
def one (c : Char) : OctetSet := ⟨false, [(c, c)]⟩

/-- The set of all octets. -/
def all : OctetSet := ⟨true, []⟩

/-- The octets of words. -/
def words : OctetSet := ⟨false, [('0', '9'), ('A', 'Z'), ('_', '_'), ('a', 'z')]⟩

/-- The blank octets. -/
def blanks : OctetSet := ⟨false, [(' ', ' '), ('\t', '\x0d')]⟩

end OctetSet

/-- A place between octets. -/
inductive TextEdge where
  /-- The start of the text, or of a line. -/
  | start
  | finish
  /-- The start of the whole text. -/
  | textStart
  | textFinish
  | wordStart
  | wordFinish
  /-- The start or end of a word. -/
  | wordEdge
  | noWordEdge
  /-- No word stands in front of the place. -/
  | noWordBefore
  /-- No word stands at the place. -/
  | noWordAfter
  deriving DecidableEq, Repr

/-- A regular expression. -/
inductive Regex where
  | empty
  | one (s : OctetSet)
  | edge (e : TextEdge)
  | seq (first second : Regex)
  | either (first second : Regex)
  /-- So many times or more. -/
  | many (least : Nat) (body : Regex)
  /-- So many times at most. -/
  | upTo (most : Nat) (body : Regex)
  | group (number : Nat) (body : Regex)
  /-- The text of a group again. -/
  | again (number : Nat)
  deriving DecidableEq, Repr

/-- A text that is searched. -/
structure Subject where
  text : Array Char
  foldsCase : Bool
  /-- Lines in the text have starts and ends of their own. -/
  byLine : Bool

/-- Where a match ends, and where its groups begin and end. -/
structure MatchEnd where
  place : Nat
  groups : List (Nat × Nat × Nat)
  deriving DecidableEq, Repr

namespace Subject

/-- The octet at a place. -/
def at? (s : Subject) (place : Nat) : Option Char :=
  s.text[place]?

/-- A word stands at a place. -/
def hasWord (s : Subject) (place : Nat) : Bool :=
  (s.at? place).any (OctetSet.words.admits false)

/-- A word stands in front of a place. -/
def hasWordBefore (s : Subject) (place : Nat) : Bool :=
  match place with
  | 0 => false
  | n + 1 => s.hasWord n

/-- The place is an edge of a kind. -/
def isEdge (s : Subject) (place : Nat) (e : TextEdge) : Bool :=
  let before := s.hasWordBefore place
  let after := s.hasWord place
  match e with
  | .textStart => place == 0
  | .textFinish => place == s.text.size
  | .start => place == 0 || (s.byLine && s.at? (place - 1) == some '\n')
  | .finish => place == s.text.size || (s.byLine && s.at? place == some '\n')
  | .wordStart => !before && after
  | .wordFinish => before && !after
  | .wordEdge => before != after
  | .noWordEdge => before == after
  | .noWordBefore => !before
  | .noWordAfter => !after

/-- The octets between two places. -/
def slice (s : Subject) (first last : Nat) : List Char :=
  (s.text.extract first last).toList

/-- Two octets count as equal. -/
def agree (s : Subject) (a b : Char) : Bool :=
  a == b || (s.foldsCase && a.toLower == b.toLower)

/-- The place behind some octets, if they stand at a place. -/
def after? (s : Subject) (place : Nat) : List Char → Option Nat
  | [] => some place
  | c :: cs =>
    match s.at? place with
    | some d => if s.agree c d then s.after? (place + 1) cs else none
    | none => none

end Subject

namespace Regex

/-- The expression asks for the text of a group again. -/
def hasAgain : Regex → Bool
  | again _ => true
  | seq a b | either a b => a.hasAgain || b.hasAgain
  | many _ a | upTo _ a | group _ a => a.hasAgain
  | _ => false

/-- The number of groups. -/
def groupCount : Regex → Nat
  | seq a b | either a b => max a.groupCount b.groupCount
  | many _ a | upTo _ a => a.groupCount
  | group n a => max n a.groupCount
  | _ => 0

/-- Without the ends that are like one before them. Ends at one place are alike unless groups are asked
for again. -/
def distinct (keepsGroups : Bool) (ends : List MatchEnd) : List MatchEnd :=
  go [] ends
where
  /-- The ends that were not seen. -/
  go (seen : List MatchEnd) : List MatchEnd → List MatchEnd
    | [] => []
    | e :: rest =>
      if seen.any fun d => d.place == e.place && (!keepsGroups || d.groups == e.groups) then go seen rest
      else e :: go (e :: seen) rest

/-- The ends, of which one further on is preferred. -/
def longestFirst (ends : List MatchEnd) : List MatchEnd :=
  ends.mergeSort fun a b => decide (b.place ≤ a.place)

/-- What a step leads to when it is made again and again, without what it has led to before. Only so many
ends are followed. -/
def reach (keepsGroups : Bool) (step : MatchEnd → List MatchEnd) :
    Nat → List MatchEnd → List MatchEnd → List MatchEnd
  | 0, seen, _ | _, seen, [] => seen
  | n + 1, seen, e :: rest =>
    if seen.any fun d => d.place == e.place && (!keepsGroups || d.groups == e.groups) then
      reach keepsGroups step n seen rest
    else
      reach keepsGroups step n (e :: seen) ((step e).filter (fun d => e.place < d.place) ++ rest)

/-- The ends after so many steps. -/
def steps (keepsGroups : Bool) (step : MatchEnd → List MatchEnd) : Nat → List MatchEnd → List MatchEnd
  | 0, ends => ends
  | n + 1, ends => steps keepsGroups step n (distinct keepsGroups (ends.flatMap step))

/-- The ends after at most so many steps, of which each leads further on. -/
def upToSteps (keepsGroups : Bool) (step : MatchEnd → List MatchEnd) :
    Nat → List MatchEnd → List MatchEnd
  | 0, ends => ends
  | n + 1, ends =>
    let next := ends.flatMap fun e => (step e).filter fun d => e.place < d.place
    if next.isEmpty then ends
    else upToSteps keepsGroups step n (distinct keepsGroups next) ++ ends

/-- The ends of all matches from a place on. -/
def ends (s : Subject) (keepsGroups : Bool) : Regex → MatchEnd → List MatchEnd
  | empty, e => [e]
  | one set, e =>
    match s.at? e.place with
    | some c => if set.admits s.foldsCase c then [{ e with place := e.place + 1 }] else []
    | none => []
  | edge kind, e => if s.isEdge e.place kind then [e] else []
  | seq a b, e => distinct keepsGroups ((ends s keepsGroups a e).flatMap (ends s keepsGroups b))
  | either a b, e => longestFirst (distinct keepsGroups (ends s keepsGroups a e ++ ends s keepsGroups b e))
  | many least a, e =>
    let step := ends s keepsGroups a
    let size := s.text.size + 2
    longestFirst (reach keepsGroups step (size * size * size) [] (steps keepsGroups step least [e]))
  | upTo most a, e =>
    longestFirst (distinct keepsGroups (upToSteps keepsGroups (ends s keepsGroups a) most [e]))
  | group n a, e =>
    (ends s keepsGroups a e).map fun d =>
      { d with groups := (n, e.place, d.place) :: d.groups.filter (·.1 != n) }
  | again n, e =>
    match e.groups.lookup n with
    | none => []
    | some (first, last) =>
      match s.after? e.place (s.slice first last) with
      | some place => [{ e with place }]
      | none => []

/-- The longest match at a place. -/
def matchAt? (r : Regex) (s : Subject) (place : Nat) : Option MatchEnd :=
  (longestFirst (r.ends s r.hasAgain ⟨place, []⟩)).head?

/-- The first match from a place on: where it begins, and its end. -/
def search? (r : Regex) (s : Subject) (place : Nat) : Option (Nat × MatchEnd) :=
  (List.range' place (s.text.size + 1 - place)).findSome? fun first =>
    (r.matchAt? s first).map (first, ·)

/-- The text has a match. -/
def occursIn (r : Regex) (s : Subject) : Bool :=
  (r.search? s 0).isSome

/-- What a group of a match matched; the group with the number zero is the match. -/
def groupText (s : Subject) (first : Nat) (e : MatchEnd) (number : Nat) : List Char :=
  if number == 0 then s.slice first e.place
  else
    match e.groups.lookup number with
    | some (first, last) => s.slice first last
    | none => []

end Regex
end SysReg.Shell
