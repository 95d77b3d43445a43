import SysReg.Shell.Tool.Basic

/-!
# Digests

Tools that print a number for the octets of a file, by which a change of the file shows.
-/

namespace SysReg.Shell.Tool

/-- How the digest of octets is computed. -/
structure Digest where
  name : String
  /-- The number of hexadecimal digits. -/
  size : Nat
  digits : List Nat → List Char

namespace Digest

/-! ## Words -/

/-- The greatest number of so many bits whose power is no more than another number. -/
def root (power bits n : Nat) : Nat :=
  (List.range bits).reverse.foldl (fun r b => if Nat.pow (r + Nat.pow 2 b) power ≤ n then r + Nat.pow 2 b else r) 0

/-- The first primes. -/
def primes (count : Nat) : List Nat :=
  ((List.range' 2 (6 * count)).filter fun n => (List.range' 2 (n - 2)).all fun d => n % d != 0).take count

/-- A word of so many bits turned to the left. -/
def turnedLeft (bits n count : Nat) : Nat :=
  (n <<< count ||| n >>> (bits - count)) % Nat.pow 2 bits

/-- A word of so many bits turned to the right. -/
def turnedRight (bits n count : Nat) : Nat :=
  turnedLeft bits n (bits - count)

/-- The octets of a number, the greatest first. -/
def octetsOf (count n : Nat) : List Nat :=
  (List.range count).reverse.map fun k => n >>> (8 * k) % 256

/-- The number of octets, the greatest first. -/
def ofOctets (octets : List Nat) : Nat :=
  octets.foldl (fun n octet => 256 * n + octet) 0

/-- Pieces of so many octets. -/
def pieces (size : Nat) (octets : List Nat) : List (List Nat) :=
  (List.range ((octets.length + size - 1) / size)).map fun k => (octets.drop (size * k)).take size

/-- Octets made up to whole blocks: a bit that is set, zeros, and the number of bits. -/
def padded (block lengthSize : Nat) (lengthOctets : Nat → List Nat) (octets : List Nat) : List Nat :=
  let used := octets.length + 1 + lengthSize
  octets ++ 128 :: List.replicate ((block - used % block) % block) 0 ++ lengthOctets (8 * octets.length)

/-- The hexadecimal digits of a number. -/
def hexadecimal (size n : Nat) : List Char :=
  (Nat.toDigits 16 n).leftpad size '0'

/-! ## The digests -/

/-- The bits of a word without which it is zero turned. -/
def complement (bits n : Nat) : Nat :=
  Nat.pow 2 bits - 1 - n

/-- How far words are turned in each round. -/
def turns : List (List Nat) :=
  [[7, 12, 17, 22], [5, 9, 14, 20], [4, 11, 16, 23], [6, 10, 15, 21]]

/-- The digest of 128 bits. -/
def md5 (octets : List Nat) : List Char :=
  let table := (List.range 64).map fun i => ((Float.sin (i + 1).toFloat).abs * 4294967296.0).toUInt64.toNat
  let start := [0x67452301, 0xefcdab89, 0x98badcfe, 0x10325476]
  let block (state : List Nat) (octets : List Nat) : List Nat :=
    let words := ((pieces 4 octets).map fun four => ofOctets four.reverse).toArray
    let step (s : Nat × Nat × Nat × Nat) (ik : Nat × Nat) : Nat × Nat × Nat × Nat :=
      let (a, b, c, d) := s
      let (k, i) := ik
      let (f, g) :=
        if i < 16 then ((b &&& c) ||| (complement 32 b &&& d), i)
        else if i < 32 then ((d &&& b) ||| (complement 32 d &&& c), (5 * i + 1) % 16)
        else if i < 48 then (b ^^^ c ^^^ d, (3 * i + 5) % 16)
        else (c ^^^ (b ||| complement 32 d), 7 * i % 16)
      let turn := (turns[i / 16]?.getD [])[i % 4]?.getD 0
      (d, (b + turnedLeft 32 ((a + f + k + words[g]?.getD 0) % 0x100000000) turn) % 0x100000000, b, c)
    match state with
    | [a, b, c, d] =>
      let (a', b', c', d') := table.zipIdx.foldl step (a, b, c, d)
      [a + a', b + b', c + c', d + d'].map (· % 0x100000000)
    | other => other
  let final := (pieces 64 (padded 64 8 (fun n => (octetsOf 8 n).reverse) octets)).foldl block start
  final.flatMap fun n => hexadecimal 8 (ofOctets (octetsOf 4 n).reverse)

/-- The digest of 160 bits. -/
def sha1 (octets : List Nat) : List Char :=
  let start := [0x67452301, 0xefcdab89, 0x98badcfe, 0x10325476, 0xc3d2e1f0]
  let constants := [2, 3, 5, 10].map fun p => root 2 32 (p * 0x1000000000000000)
  let block (state : List Nat) (octets : List Nat) : List Nat :=
    let words := (List.range' 16 64).foldl (fun (w : Array Nat) t =>
      let at' (k : Nat) : Nat := w[t - k]?.getD 0
      w.push (turnedLeft 32 (at' 3 ^^^ at' 8 ^^^ at' 14 ^^^ at' 16) 1))
      ((pieces 4 octets).map ofOctets).toArray
    let step (s : Nat × Nat × Nat × Nat × Nat) (wt : Nat × Nat) : Nat × Nat × Nat × Nat × Nat :=
      let (a, b, c, d, e) := s
      let (w, t) := wt
      let f :=
        if t < 20 then (b &&& c) ||| (complement 32 b &&& d)
        else if t < 40 then b ^^^ c ^^^ d
        else if t < 60 then (b &&& c) ||| (b &&& d) ||| (c &&& d)
        else b ^^^ c ^^^ d
      ((turnedLeft 32 a 5 + f + e + constants[t / 20]?.getD 0 + w) % 0x100000000, a, turnedLeft 32 b 30, c, d)
    match state with
    | [a, b, c, d, e] =>
      let (a', b', c', d', e') := words.toList.zipIdx.foldl step (a, b, c, d, e)
      [a + a', b + b', c + c', d + d', e + e'].map (· % 0x100000000)
    | other => other
  ((pieces 64 (padded 64 8 (octetsOf 8) octets)).foldl block start).flatMap (hexadecimal 8)

/-- What distinguishes the two sizes of words in which the longer digests are computed. -/
structure WordSize where
  bits : Nat
  rounds : Nat
  /-- How far words are turned, and last shifted, to mix the words of a block. -/
  small : List (Nat × Nat × Nat)
  /-- How far words are turned to mix the state. -/
  large : List (Nat × Nat × Nat)

/-- Words of 32 bits. -/
def short : WordSize :=
  ⟨32, 64, [(7, 18, 3), (17, 19, 10)], [(2, 13, 22), (6, 11, 25)]⟩

/-- Words of 64 bits. -/
def long : WordSize :=
  ⟨64, 80, [(1, 8, 7), (19, 61, 6)], [(28, 34, 39), (14, 18, 41)]⟩

/-- The words of a longer digest, from a state to begin with. -/
def sha2Words (size : WordSize) (start : List Nat) (octets : List Nat) : List Nat :=
  let bits := size.bits
  let constants := (primes size.rounds).map fun p => root 3 (bits + 4) (p * Nat.pow 2 (3 * bits)) % Nat.pow 2 bits
  let small (k n : Nat) : Nat :=
    let (a, b, c) := size.small[k]?.getD (0, 0, 0)
    turnedRight bits n a ^^^ turnedRight bits n b ^^^ (n >>> c)
  let large (k n : Nat) : Nat :=
    let (a, b, c) := size.large[k]?.getD (0, 0, 0)
    turnedRight bits n a ^^^ turnedRight bits n b ^^^ turnedRight bits n c
  let block (state : List Nat) (octets : List Nat) : List Nat :=
    let words := (List.range' 16 (size.rounds - 16)).foldl (fun (w : Array Nat) t =>
      let at' (k : Nat) : Nat := w[t - k]?.getD 0
      w.push ((small 1 (at' 2) + at' 7 + small 0 (at' 15) + at' 16) % Nat.pow 2 bits))
      ((pieces (bits / 8) octets).map ofOctets).toArray
    let step (s : List Nat) (kw : Nat × Nat) : List Nat :=
      match s with
      | [a, b, c, d, e, f, g, h] =>
        let chosen := (e &&& f) ^^^ (complement bits e &&& g)
        let most := (a &&& b) ^^^ (a &&& c) ^^^ (b &&& c)
        let first := h + large 1 e + chosen + kw.1 + kw.2
        [(first + large 0 a + most) % Nat.pow 2 bits, a, b, c, (d + first) % Nat.pow 2 bits, e, f, g]
      | other => other
    List.zipWith (fun a b => (a + b) % Nat.pow 2 bits) state ((constants.zip words.toList).foldl step state)
  (pieces (2 * bits) (padded (2 * bits) (bits / 4) (octetsOf (bits / 4)) octets)).foldl block start

/-- The first bits behind the point of the roots of primes, of which some are passed over. -/
def rootBits (bits passed : Nat) : List Nat :=
  ((primes (passed + 8)).drop passed).map fun p => root 2 (bits + 4) (p * Nat.pow 2 (2 * bits)) % Nat.pow 2 bits

/-- The digest of 224 bits. -/
def sha224 (octets : List Nat) : List Char :=
  ((sha2Words short ((rootBits 64 8).map (· % 0x100000000)) octets).take 7).flatMap (hexadecimal 8)

/-- The digest of 256 bits. -/
def sha256 (octets : List Nat) : List Char :=
  (sha2Words short (rootBits 32 0) octets).flatMap (hexadecimal 8)

/-- The digest of 384 bits. -/
def sha384 (octets : List Nat) : List Char :=
  ((sha2Words long (rootBits 64 8) octets).take 6).flatMap (hexadecimal 16)

/-- The digest of 512 bits. -/
def sha512 (octets : List Nat) : List Char :=
  (sha2Words long (rootBits 64 0) octets).flatMap (hexadecimal 16)

end Digest

/-! ## The tools -/

/-- What a line of a list of digests says: the digest and the path. -/
def listedDigest? (d : Digest) (line : List Char) : Option (List Char × String) :=
  let digits := line.takeWhile Numeral.isHexDigit
  match line.drop digits.length with
  | ' ' :: _ :: path =>
    if digits.length == d.size && !path.isEmpty then some (digits.map Char.toLower, String.ofList path) else none
  | _ => none

/-- Compares digests with those in lists. -/
def checkDigests (d : Digest) (c : ToolCall) (a : Arguments) : Run Nat := do
  let (lists, isGood) ← readFiles c id a.operands
  let isSilent := a.has '\x04'
  let outcomes ← lists.mapM fun (path, text) => do
    let lines := (linesOf text).1
    let listed := lines.filterMap (listedDigest? d)
    if listed.isEmpty then
      c.report ((if path == "-" then "'standard input'" else path) ++ ": no properly formatted checksum lines found")
      return false
    let found ← listed.mapM fun (digits, path) => do
      match ← readOr c id path with
      | none =>
        if !isSilent then Run.print (path ++ ": FAILED open or read\n")
        return (false, true)
      | some text =>
        let isEqual := d.digits (text.map Char.toNat) == digits
        if !isSilent && !(isEqual && a.has '\x05') then
          Run.print (path ++ (if isEqual then ": OK\n" else ": FAILED\n"))
        return (isEqual, false)
    let count (n : Nat) (one more : String) : Run Unit :=
      if n == 0 || isSilent then return
      else c.report ("WARNING: " ++ Numeral.decimal n ++ " " ++ (if n == 1 then one else more))
    count (lines.length - listed.length) "line is improperly formatted" "lines are improperly formatted"
    count (found.filter (·.2)).length "listed file could not be read" "listed files could not be read"
    count (found.filter fun (isEqual, isMissing) => !isEqual && !isMissing).length
      "computed checksum did NOT match" "computed checksums did NOT match"
    return found.all (·.1)
  return statusIf (isGood && outcomes.all (· == true))

/-- Prints digests of files. -/
def digest (d : Digest) : Tool := withOptions
  [plain 'b' "binary", plain 'c' "check", plain '\x03' "tag", plain 't' "text", plain 'z' "zero",
    plain '\x06' "ignore-missing", plain '\x05' "quiet", plain '\x04' "status", plain '\x07' "strict",
    plain 'w' "warn"] 1 (fun c a => do
  if a.has 'c' then return ← checkDigests d c a
  let (files, isGood) ← readFiles c id a.operands
  files.forM fun (path, text) =>
    let digits := String.ofList (d.digits (text.map Char.toNat))
    let line := if a.has '\x03' then d.name ++ " (" ++ path ++ ") = " ++ digits
      else digits ++ (if a.has 'b' then " *" else "  ") ++ path
    Run.print (line ++ (if a.has 'z' then "\x00" else "\n"))
  return statusIf isGood) false

/-- The digests by the names of their tools. -/
def digests : List (String × Digest) :=
  [("md5sum", ⟨"MD5", 32, Digest.md5⟩), ("sha1sum", ⟨"SHA1", 40, Digest.sha1⟩),
    ("sha224sum", ⟨"SHA224", 56, Digest.sha224⟩), ("sha256sum", ⟨"SHA256", 64, Digest.sha256⟩),
    ("sha384sum", ⟨"SHA384", 96, Digest.sha384⟩), ("sha512sum", ⟨"SHA512", 128, Digest.sha512⟩)]

/-- The rest of a division of polynomials, by octets. -/
def cyclicRest (octets : List Nat) : Nat :=
  octets.foldl (fun crc octet =>
    (List.range 8).foldl (fun crc _ =>
      let next := crc * 2 % 0x100000000
      if 0x80000000 ≤ crc then next ^^^ 0x04c11db7 else next) (crc ^^^ (octet * 0x1000000))) 0

/-- The octets of a number without zeros in front, the least first. The number bounds them. -/
def lengthOctets : Nat → Nat → List Nat
  | 0, _ | _, 0 => []
  | n + 1, length => length % 256 :: lengthOctets n (length / 256)

/-- Prints cyclic sums of files. -/
def cksum : Tool := withOptions [valued 'a' "algorithm"] 1 (fun c a => do
  let (files, isGood) ← readFiles c id a.operands
  files.forM fun (path, text) =>
    let octets := text.map Char.toNat
    let sum := 0xffffffff - cyclicRest (octets ++ lengthOctets 8 octets.length)
    Run.print (Numeral.decimal sum ++ " " ++ Numeral.decimal octets.length ++
      (if a.operands.isEmpty then "" else " " ++ path) ++ "\n")
  return statusIf isGood) false

/-- Prints sums of the octets of files. -/
def sum : Tool := withOptions [plain 'r' "", plain 's' "sysv"] 1 (fun c a => do
  let (files, isGood) ← readFiles c id a.operands
  files.forM fun (path, text) =>
    let octets := text.map Char.toNat
    let number (n width : Nat) (filler : Char) : String :=
      String.ofList ((Nat.toDigits 10 n).leftpad width filler)
    let name := if a.operands.isEmpty then "" else " " ++ path
    if a.lastOf? ['r', 's'] == some 's' then
      let s := octets.foldl (· + ·) 0
      let r := s % 65536 + s % 0x100000000 / 65536
      Run.print (Numeral.decimal (r % 65536 + r / 65536) ++ " " ++
        Numeral.decimal ((octets.length + 511) / 512) ++ name ++ "\n")
    else
      let s := octets.foldl (fun s octet => (s / 2 + s % 2 * 32768 + octet) % 65536) 0
      Run.print (number s 5 '0' ++ " " ++ number ((octets.length + 1023) / 1024) 5 ' ' ++ name ++ "\n")
  return statusIf isGood) false

/-! ## Octets as letters -/

/-- The letters of six bits. -/
def letters64 : List Char :=
  "ABCDEFGHIJKLMNOPQRSTUVWXYZabcdefghijklmnopqrstuvwxyz0123456789+/".toList

/-- The letters of five bits. -/
def letters32 : List Char :=
  "ABCDEFGHIJKLMNOPQRSTUVWXYZ234567".toList

/-- Octets spelled by letters that stand for so many bits each, in groups of whole octets. -/
def spelledBy (letters : List Char) (bits groupOctets : Nat) (octets : List Nat) : List Char :=
  let groupLetters := 8 * groupOctets / bits
  (Digest.pieces groupOctets octets).flatMap fun group =>
    let n := Digest.ofOctets (group ++ List.replicate (groupOctets - group.length) 0)
    let used := (8 * group.length + bits - 1) / bits
    (List.range groupLetters).map fun k =>
      if used ≤ k then '='
      else (letters[n >>> (bits * (groupLetters - 1 - k)) % Nat.pow 2 bits]?).getD '='

/-- The octets that letters spell, and whether all is spelled right. The number is at least that of the
letters. -/
def octetsBy (letters : List Char) (bits groupOctets : Nat) : Nat → List Char → List Nat × Bool
  | 0, _ | _, [] => ([], true)
  | n + 1, cs =>
    let groupLetters := 8 * groupOctets / bits
    let group := cs.take groupLetters
    let front := group.takeWhile (· != '=')
    let values := front.takeWhile letters.contains |>.filterMap letters.idxOf?
    let count := bits * values.length / 8
    let filled := values ++ List.replicate (groupLetters - values.length) 0
    let number := filled.foldl (fun n v => n * Nat.pow 2 bits + v) 0
    let octets := (Digest.octetsOf groupOctets number).take count
    let isWhole := values.length == front.length && group.length == groupLetters &&
      (group.drop front.length).all (· == '=') && 0 < count
    if !isWhole then (octets, false)
    else
      let (others, isGood) := octetsBy letters bits groupOctets n (cs.drop groupLetters)
      (octets ++ others, isGood)

/-- Spells octets by letters, or the other way round. -/
def lettered (letters : List Char) (bits groupOctets : Nat) : Tool := withOptions
  [plain 'd' "decode", plain 'i' "ignore-garbage", valued 'w' "wrap"] 1 (fun c a => do
  let width? := match a.value? 'w' with
    | some text => text.toNat?
    | none => some 76
  match width?, a.operands with
  | none, _ => c.fail 1 ("invalid wrap size: " ++ quoted ((a.value? 'w').getD ""))
  | _, _ :: extra :: _ => c.misuse 1 ("extra operand " ++ quoted extra)
  | some width, operands =>
    match ← readOr c id (operands.headD "-") with
    | none => return 1
    | some text =>
      if a.has 'd' then
        let cs := text.filter fun c => c != '\n' && (!a.has 'i' || letters.contains c || c == '=')
        let (octets, isGood) := octetsBy letters bits groupOctets cs.length cs
        Run.print (textOfOctets octets)
        if isGood then return 0 else c.fail 1 "invalid input"
      else
        let cs := spelledBy letters bits groupOctets (text.map Char.toNat)
        if width == 0 then Run.print (String.ofList cs)
        else
          let lines := (List.range ((cs.length + width - 1) / width)).map fun k => (cs.drop (width * k)).take width
          Run.print (ofLines lines true)
        return 0) false

end SysReg.Shell.Tool
