import SysReg.Shell.Directive
import SysReg.Shell.Tool.Records.Program

/-!
# Values of programs

A value is a number or a text, or a text that came in and is spelled like a number, which then counts as
one too.
-/

namespace SysReg.Shell.Records

/-- A value. -/
inductive Datum where
  /-- Nothing was given. -/
  | unset
  | number (x : Float)
  | text (cs : List Char)
  /-- A text that came in and is spelled like a number. -/
  | numeral (cs : List Char) (x : Float)

namespace Datum

/-- The number at the start of a text, or else zero. -/
def numberOf (cs : List Char) : Float :=
  match Real.ofText? cs with
  | some (x, _) => x.toFloat
  | none => 0.0

/-- The value of a text that came in. -/
def ofInput (cs : List Char) : Datum :=
  let isBlank (c : Char) : Bool := c == ' ' || ('\t' ≤ c && c ≤ '\x0d')
  let inner := ((cs.dropWhile isBlank).reverse.dropWhile isBlank).reverse
  let (isNegative, digits) := match inner with
    | '-' :: rest => (true, rest)
    | '+' :: rest => (false, rest)
    | rest => (false, rest)
  match Real.decimalAt? isNegative digits with
  | some (x, []) => numeral cs x.toFloat
  | _ => text cs

/-- The value as a number. -/
def toNumber : Datum → Float
  | unset => 0.0
  | number x | numeral _ x => x
  | text cs => numberOf cs

/-- The number to print. One that is undefined has a sign. -/
def real (x : Float) : Real :=
  match Real.ofFloat x with
  | .undefined _ => .undefined true
  | r => r

/-- The integer that a number is, if it is one that is printed as such. -/
def integer? (x : Float) : Option Int :=
  match Real.ofFloat x with
  | .fraction isNegative n d =>
    if n % d != 0 then none
    else
      let n := n / d
      if isNegative then if n ≤ 0x8000000000000000 then some (-n) else none
      else if n ≤ 0x10000000000000000 then some (min n 0xffffffffffffffff : Nat) else none
  | _ => none

/-- A number in a form with one directive. -/
def inForm (form : List Char) (x : Float) : List Char :=
  let front := form.takeWhile (· != '%')
  match form.drop front.length with
  | '%' :: rest =>
    let (d, after) := OpenDirective.ofChars [] rest
    let directive := Directive.ofOpen d (d.letter.getD 'g') 0 0
    let shown :=
      if directive.letter == 'd' || directive.letter == 'i' then
        directive.signed (match Real.ofFloat x with
          | .fraction isNegative n d => if isNegative then -((n / d : Nat) : Int) else (n / d : Nat)
          | _ => 0)
      else directive.real (real x)
    front ++ shown ++ after
  | _ => form

/-- The text of a number: an integer in full, and another one in a form. -/
def numberText (form : List Char) (x : Float) : List Char :=
  match integer? x with
  | some n => (Numeral.signedDecimal n).toList
  | none => inForm form x

/-- The value as a text, given the form of numbers. -/
def toText (form : List Char) : Datum → List Char
  | unset => []
  | number x => numberText form x
  | text cs | numeral cs _ => cs

/-- The value counts as true. -/
def isTrue : Datum → Bool
  | unset => false
  | number x | numeral _ x => x != 0.0
  | text cs => !cs.isEmpty

/-- The truth as a value. -/
def ofBool (b : Bool) : Datum :=
  number (if b then 1.0 else 0.0)

/-- The number as a value. -/
def ofNat (n : Nat) : Datum :=
  number n.toFloat

/-- How two texts compare. -/
def compareTexts : List Char → List Char → Ordering
  | [], [] => .eq
  | [], _ :: _ => .lt
  | _ :: _, [] => .gt
  | a :: as, b :: bs => if a < b then .lt else if b < a then .gt else compareTexts as bs

/-- Whether a relation holds between two values. They are compared as numbers unless one of them is a text
only. -/
def holds (r : Relation) (form : List Char) (a b : Datum) : Bool :=
  let isText : Datum → Bool
    | text _ => true
    | _ => false
  if isText a || isText b then
    let found := compareTexts (a.toText form) (b.toText form)
    match r with
    | .less => found == .lt
    | .atMost => found != .gt
    | .equal => found == .eq
    | .unequal => found != .eq
    | .atLeast => found != .lt
    | .greater => found == .gt
  else
    let x := a.toNumber
    let y := b.toNumber
    match r with
    | .less => decide (x < y)
    | .atMost => decide (x ≤ y)
    | .equal => x == y
    | .unequal => x != y
    | .atLeast => decide (y ≤ x)
    | .greater => decide (y < x)

/-- The remainder of a division, which has the sign of what is divided. -/
def remainder (x y : Float) : Float :=
  match Real.ofFloat x, Real.ofFloat y with
  | .fraction isNegative n d, .fraction _ m e =>
    if m == 0 then 0.0 / 0.0
    else
      -- Over one denominator the rest is that of natural numbers.
      (Real.fraction isNegative ((n * e) % (m * d)) (d * e)).toFloat
  | .fraction _ _ _, .infinite _ => x
  | _, _ => 0.0 / 0.0

/-- Two numbers put together. -/
def combined : Operation → Float → Float → Float
  | .plus, x, y => x + y
  | .minus, x, y => x - y
  | .times, x, y => x * y
  | .over, x, y => x / y
  | .rest, x, y => remainder x y
  | .power, x, y => Float.pow x y

/-- The integer part of a number. -/
def truncated (x : Float) : Float :=
  match Real.ofFloat x with
  | .fraction isNegative n d => (Real.fraction isNegative (n / d) 1).toFloat
  | _ => x

/-- The integer part of a number, of which too large ones are cut. -/
def toInt (x : Float) : Int :=
  match Real.ofFloat x with
  | .fraction isNegative n d =>
    let n : Int := n / d
    if isNegative then max (-n) (-0x8000000000000000) else min n 0x7fffffffffffffff
  | .infinite isNegative => if isNegative then -0x8000000000000000 else 0x7fffffffffffffff
  | .undefined _ => -0x8000000000000000

end Datum
end SysReg.Shell.Records
