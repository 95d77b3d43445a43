import SysReg.Text.CharRange

/-!
# Sets of characters

The characters that a class of a pattern stands for, as ranges of their codes. The ranges are kept in
order and apart from each other, so that two classes with the same characters are equal.
-/

namespace SysReg.Log.Pattern

/-- A set of characters. Its ranges hold codes, both ends included. -/
structure CharSet where
  ranges : List (Nat × Nat)
  deriving DecidableEq, Repr

namespace CharSet

/-- The greatest code of a character. -/
def lastCode : Nat := 0x10FFFF

/-- Ranges in the order of their first codes, with those that meet or touch made one. -/
def join : List (Nat × Nat) → List (Nat × Nat)
  | [] => []
  | range :: ranges =>
    ranges.foldl
      (fun done next =>
        match done with
        | [] => [next]
        | (low, high) :: done =>
          if next.1 ≤ high + 1 then (low, max high next.2) :: done else next :: (low, high) :: done)
      [range] |>.reverse

/-- The set of the codes in ranges. -/
def ofRanges (ranges : List (Nat × Nat)) : CharSet :=
  ⟨join (ranges.mergeSort fun a b => decide (a.1 ≤ b.1))⟩

/-- No character. -/
def none : CharSet := ⟨[]⟩

/-- The characters from one to another. -/
def ofRange (first last : Char) : CharSet :=
  ⟨[(first.toNat, last.toNat)]⟩

/-- One character. -/
def single (c : Char) : CharSet :=
  ofRange c c

/-- Every character. -/
def all : CharSet := ⟨[(0, lastCode)]⟩

/-- The character is in the set. -/
def contains (s : CharSet) (c : Char) : Bool :=
  Text.inRanges s.ranges c.toNat

/-- The one character in the set. -/
def only? (s : CharSet) : Option Char :=
  match s.ranges with
  | [(low, high)] => if low = high then some (Char.ofNat low) else Option.none
  | _ => Option.none

/-! ## Operations -/

/-- What lies between ranges, from a code on. -/
def gaps (first : Nat) : List (Nat × Nat) → List (Nat × Nat)
  | [] => if first ≤ lastCode then [(first, lastCode)] else []
  | (low, high) :: ranges =>
    (if first < low then [(first, low - 1)] else []) ++ gaps (high + 1) ranges

/-- All other characters. -/
def complement (s : CharSet) : CharSet :=
  ⟨gaps 0 s.ranges⟩

/-- The characters in at least one of two sets. -/
def union (s t : CharSet) : CharSet :=
  ofRanges (s.ranges ++ t.ranges)

/-- The characters in both of two sets. -/
def inter (s t : CharSet) : CharSet :=
  (s.complement.union t.complement).complement

/-- The characters in the first of two sets only. -/
def diff (s t : CharSet) : CharSet :=
  s.inter t.complement

/-- The characters in one of two sets and not in the other. -/
def either (s t : CharSet) : CharSet :=
  (s.diff t).union (t.diff s)

/-- The part of a range between two letters, moved by a distance up or down. -/
def moved (first last up down : Nat) (range : Nat × Nat) : Option (Nat × Nat) :=
  let low := max first range.1
  let high := min last range.2
  if low ≤ high then some (low + up - down, high + up - down) else Option.none

/-- The set with the other case of each of its ASCII letters. -/
def caseless (s : CharSet) : CharSet :=
  ofRanges (s.ranges ++ s.ranges.filterMap (moved 65 90 32 0) ++
    s.ranges.filterMap (moved 97 122 0 32))

/-! ## Classes with a name -/

/-- The decimal digits. -/
def digits : CharSet := ofRange '0' '9'

/-- The letters, digits and the underscore. -/
def wordChars : CharSet := ofRanges [(48, 57), (65, 90), (95, 95), (97, 122)]

/-- The blank characters. -/
def blanks : CharSet := ofRanges [(9, 13), (32, 32)]

/-- The class of a name that stands between colons. -/
def named? : String → Option CharSet
  | "alnum" => some (ofRanges [(48, 57), (65, 90), (97, 122)])
  | "alpha" => some (ofRanges [(65, 90), (97, 122)])
  | "ascii" => some (ofRanges [(0, 127)])
  | "blank" => some (ofRanges [(9, 9), (32, 32)])
  | "cntrl" => some (ofRanges [(0, 31), (127, 127)])
  | "digit" => some digits
  | "graph" => some (ofRange '!' '~')
  | "lower" => some (ofRange 'a' 'z')
  | "print" => some (ofRange ' ' '~')
  | "punct" => some (ofRanges [(33, 47), (58, 64), (91, 96), (123, 126)])
  | "space" => some blanks
  | "upper" => some (ofRange 'A' 'Z')
  | "word" => some wordChars
  | "xdigit" => some (ofRanges [(48, 57), (65, 70), (97, 102)])
  | _ => Option.none

end CharSet
end SysReg.Log.Pattern
