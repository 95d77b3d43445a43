import SysReg.Text.Numeral

/-!
# Reals in print

The decimal spelling of a real number with so many digits. The number is given as a fraction and rounded
exactly, a tie to the even neighbour.
-/

namespace SysReg.Shell

/-- A number to print. -/
inductive Real where
  | fraction (isNegative : Bool) (numerator denominator : Nat)
  | infinite (isNegative : Bool)
  | undefined (isNegative : Bool)
  deriving DecidableEq, Repr

namespace Real

/-- The number whose bits in the double format these are. -/
def ofBits (bits : UInt64) : Real :=
  let n := bits.toNat
  let isNegative := n / 0x8000000000000000 == 1
  let exponent := n / 0x10000000000000 % 2048
  let mantissa := n % 0x10000000000000
  if exponent == 2047 then if mantissa == 0 then infinite isNegative else undefined isNegative
  else if exponent == 0 then fraction isNegative mantissa (Nat.pow 2 1074)
  else if 1075 ≤ exponent then fraction isNegative ((0x10000000000000 + mantissa) * Nat.pow 2 (exponent - 1075)) 1
  else fraction isNegative (0x10000000000000 + mantissa) (Nat.pow 2 (1075 - exponent))

/-- The number of a float. -/
def ofFloat (x : Float) : Real :=
  ofBits x.toBits

/-- The number has a minus sign. -/
def isNegative : Real → Bool
  | fraction isNegative _ _ | infinite isNegative | undefined isNegative => isNegative

/-- The natural number nearest to a fraction, of two the even one. -/
def rounded (numerator denominator : Nat) : Nat :=
  let quotient := numerator / denominator
  let rest := 2 * (numerator % denominator)
  if denominator < rest || (rest == denominator && quotient % 2 == 1) then quotient + 1 else quotient

/-- Digits with a point in front of the last of them. -/
def withPoint (places : Nat) (alternative : Bool) (digits : List Char) : List Char :=
  let digits := List.replicate (places + 1 - digits.length) '0' ++ digits
  let whole := digits.take (digits.length - places)
  if places == 0 then if alternative then whole ++ ['.'] else whole
  else whole ++ '.' :: digits.drop (digits.length - places)

/-- A fraction with so many places behind the point. -/
def fixed (places : Nat) (alternative : Bool) (numerator denominator : Nat) : List Char :=
  withPoint places alternative (Nat.toDigits 10 (rounded (numerator * Nat.pow 10 places) denominator))

/-- The number of decimal digits of a natural number. -/
def digitCount (n : Nat) : Nat :=
  (Nat.toDigits 10 n).length

/-- The exponent of ten of the first digit of a fraction that is not zero. -/
def exponentOf (numerator denominator : Nat) : Int :=
  let guess : Int := (digitCount numerator : Int) - digitCount denominator
  let reaches :=
    if 0 ≤ guess then denominator * Nat.pow 10 guess.toNat ≤ numerator
    else denominator ≤ numerator * Nat.pow 10 (-guess).toNat
  if reaches then guess else guess - 1

/-- The digits of a fraction, so many behind the first, and the exponent of ten of the first. -/
def significant (places numerator denominator : Nat) : Nat × Int :=
  if numerator == 0 then (0, 0)
  else
    let exponent := exponentOf numerator denominator
    let shift : Int := places - exponent
    let digits :=
      if 0 ≤ shift then rounded (numerator * Nat.pow 10 shift.toNat) denominator
      else rounded numerator (denominator * Nat.pow 10 (-shift).toNat)
    if digits == Nat.pow 10 (places + 1) then (Nat.pow 10 places, exponent + 1) else (digits, exponent)

/-- The exponent behind a number. -/
def exponentText (exponent : Int) : List Char :=
  let digits := Nat.toDigits 10 exponent.natAbs
  'e' :: (if exponent < 0 then '-' else '+') :: List.replicate (2 - digits.length) '0' ++ digits

/-- A fraction with one digit in front of the point, and its exponent. -/
def scientific (places : Nat) (alternative : Bool) (numerator denominator : Nat) : List Char :=
  let (digits, exponent) := significant places numerator denominator
  withPoint places alternative ((Nat.toDigits 10 digits).leftpad (places + 1) '0') ++
    exponentText exponent

/-- Digits without zeros at the end of what is behind the point. -/
def withoutZeros (digits : List Char) : List Char :=
  if !digits.contains '.' then digits
  else
    match digits.reverse.dropWhile (· == '0') with
    | '.' :: rest => rest.reverse
    | rest => rest.reverse

/-- A fraction with so many digits, in the shorter of the two ways. -/
def general (precision : Nat) (alternative : Bool) (numerator denominator : Nat) : List Char :=
  let precision := max precision 1
  let (_, exponent) := significant (precision - 1) numerator denominator
  let short (digits : List Char) : List Char := if alternative then digits else withoutZeros digits
  if exponent < -4 || (precision : Int) ≤ exponent then
    let found := scientific (precision - 1) alternative numerator denominator
    short (found.takeWhile (· != 'e')) ++ found.dropWhile (· != 'e')
  else short (fixed ((precision : Int) - 1 - exponent).toNat alternative numerator denominator)

/-- The spelling of a number without its sign, in the way that a letter names. -/
def spelled (letter : Char) (precision : Option Nat) (alternative : Bool) : Real → List Char
  | infinite _ => ['i', 'n', 'f']
  | undefined _ => ['n', 'a', 'n']
  | fraction _ numerator denominator =>
    let precision := precision.getD 6
    match letter with
    | 'e' => scientific precision alternative numerator denominator
    | 'g' => general precision alternative numerator denominator
    | _ => fixed precision alternative numerator denominator

/-! ## Reading -/

/-- The digits at the start of a text. -/
def digitsAt (cs : List Char) : List Char :=
  cs.takeWhile Char.isDigit

/-- The value of decimal digits. -/
def ofDigits (digits : List Char) : Nat :=
  digits.foldl (fun n c => 10 * n + (c.toNat - 48)) 0

/-- A fraction times a power of ten. -/
def scaled (isNegative : Bool) (digits : Nat) (exponent : Int) : Real :=
  if 0 ≤ exponent then fraction isNegative (digits * Nat.pow 10 exponent.toNat) 1
  else fraction isNegative digits (Nat.pow 10 (-exponent).toNat)

/-- The exponent at the start of a text behind one of two letters, and what follows it. -/
def exponentAt (letter : Char) (cs : List Char) : Int × List Char :=
  match cs with
  | c :: rest =>
    if c.toLower != letter then (0, cs)
    else
      let (isNegative, rest) := match rest with
        | '-' :: rest => (true, rest)
        | '+' :: rest => (false, rest)
        | rest => (false, rest)
      match digitsAt rest with
      | [] => (0, cs)
      | digits =>
        let n : Int := min (ofDigits digits) 5000
        (if isNegative then -n else n, rest.drop digits.length)
  | [] => (0, cs)

/-- A number in decimal without its sign at the start of a text, and what follows it. -/
def decimalAt? (isNegative : Bool) (cs : List Char) : Option (Real × List Char) :=
  let whole := digitsAt cs
  let rest := cs.drop whole.length
  let (places, rest) := match rest with
    | '.' :: after => (digitsAt after, after.drop (digitsAt after).length)
    | rest => ([], rest)
  if whole.isEmpty && places.isEmpty then none
  else
    let (exponent, rest) := exponentAt 'e' rest
    some (scaled isNegative (ofDigits (whole ++ places)) (exponent - places.length), rest)

/-- A number in hexadecimal without its sign and mark at the start of a text, and what follows it. -/
def hexadecimalAt? (isNegative : Bool) (cs : List Char) : Option (Real × List Char) :=
  let whole := cs.takeWhile Numeral.isHexDigit
  let rest := cs.drop whole.length
  let (places, rest) := match rest with
    | '.' :: after =>
      let digits := after.takeWhile Numeral.isHexDigit
      (digits, after.drop digits.length)
    | rest => ([], rest)
  if whole.isEmpty && places.isEmpty then none
  else
    let digits := (whole ++ places).foldl (fun n c => 16 * n + (Numeral.digitValue? c).getD 0) 0
    let (exponent, rest) := exponentAt 'p' rest
    let exponent := exponent - 4 * places.length
    some (if 0 ≤ exponent then fraction isNegative (digits * Nat.pow 2 exponent.toNat) 1
      else fraction isNegative digits (Nat.pow 2 (-exponent).toNat), rest)

/-- The text begins with a word in either case. -/
def beginsWith (word : List Char) (cs : List Char) : Bool :=
  (cs.take word.length).map Char.toLower == word

/-- A number at the start of a text, and what follows it. -/
def ofText? (cs : List Char) : Option (Real × List Char) :=
  let rest := cs.dropWhile fun c => c == ' ' || ('\t' ≤ c && c ≤ '\x0d')
  let (isNegative, rest) := match rest with
    | '-' :: rest => (true, rest)
    | '+' :: rest => (false, rest)
    | rest => (false, rest)
  if beginsWith ['i', 'n', 'f', 'i', 'n', 'i', 't', 'y'] rest then some (infinite isNegative, rest.drop 8)
  else if beginsWith ['i', 'n', 'f'] rest then some (infinite isNegative, rest.drop 3)
  else if beginsWith ['n', 'a', 'n'] rest then some (undefined isNegative, rest.drop 3)
  else
    match rest with
    | '0' :: x :: digits =>
      if x == 'x' || x == 'X' then
        (hexadecimalAt? isNegative digits).or (some (fraction isNegative 0 1, x :: digits))
      else decimalAt? isNegative rest
    | _ => decimalAt? isNegative rest

/-- The float nearest to a number. -/
def toFloat : Real → Float
  | infinite isNegative => if isNegative then -1.0 / 0.0 else 1.0 / 0.0
  | undefined _ => 0.0 / 0.0
  | fraction isNegative numerator denominator =>
    let magnitude :=
      if numerator == 0 then 0.0
      else
        -- Sixty-four bits and a mark of what is behind them round as the whole does.
        let shift : Int := 64 - ((Nat.log2 numerator : Int) - Nat.log2 denominator)
        let (n, d) := if 0 ≤ shift then (numerator * Nat.pow 2 shift.toNat, denominator)
          else (numerator, denominator * Nat.pow 2 (-shift).toNat)
        let n := 2 * (n / d) + (if n % d == 0 then 0 else 1)
        ofScaled n (-shift - 1)
    if isNegative then -magnitude else magnitude
where
  /-- The float nearest to a natural number times a power of two. -/
  ofScaled (n : Nat) (exponent : Int) : Float :=
    if 0 ≤ exponent then Float.ofNat (n * Nat.pow 2 (min exponent.toNat 1100))
    else
      let k := (-exponent).toNat
      -- The bits that a float cannot hold are rounded away before the division, which is then exact.
      let top := Nat.log2 n + 1
      let held := min 53 (top + 1074 - k)
      let drop := top - held
      let m := if drop == 0 then n else rounded n (Nat.pow 2 drop)
      (Float.ofNat m).scaleB (drop - k)

end Real
end SysReg.Shell
