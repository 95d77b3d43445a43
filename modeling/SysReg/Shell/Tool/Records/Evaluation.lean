import SysReg.Shell.Tool.Machine
import SysReg.Shell.Tool.Records.Working

/-!
# Evaluating programs

What expressions are worth and what statements do. The numbers bound how deep they are nested, functions
that call themselves included.
-/

namespace SysReg.Shell.Records

/-! ## Texts in forms -/

/-- Why values are not put into a form. -/
inductive FormFault where
  /-- There are not enough values. -/
  | missing
  /-- The directive of a number makes no sense. -/
  | improper (number : Nat)
  deriving DecidableEq, Repr

namespace Form

/-- An integer in decimal, of which large ones are cut. -/
def decimal (d : Directive) (x : Float) : List Char :=
  match Real.ofFloat x with
  | .fraction isNegative n m =>
    let n := n / m
    if isNegative then d.signed (max (-(n : Int)) (-0x7fffffffffffffff))
    else d.signed (min n 0xffffffffffffffff : Nat)
  | .infinite isNegative => d.signed (if isNegative then -0x7fffffffffffffff else 0x7fffffffffffffff)
  | .undefined _ => d.signed (-0x8000000000000000)

/-- A natural number, of which large ones are cut; a negative one counts down from the largest. -/
def unsigned (d : Directive) (x : Float) : List Char :=
  match Real.ofFloat x with
  | .fraction isNegative n m =>
    let n := n / m
    d.unsigned (if isNegative && n != 0 then 0x10000000000000000 - min n 0x8000000000000000
      else min n 0xffffffffffffffff)
  | .infinite isNegative => d.unsigned (if isNegative then 0x8000000000000000 else 0xffffffffffffffff)
  | .undefined _ => d.unsigned 0x8000000000000000

/-- A value as a directive says. -/
def shown (numbers : List Char) (d : Directive) (v : Datum) : Option (List Char) :=
  match d.letter with
  | 'd' | 'i' => some (decimal d v.toNumber)
  | 'o' | 'u' | 'x' | 'X' => some (unsigned d v.toNumber)
  | 'e' | 'E' | 'f' | 'F' | 'g' | 'G' => some (d.real (Datum.real v.toNumber))
  | 's' => some (d.text (v.toText numbers))
  | 'c' =>
    match v with
    | .text cs => some (d.character true cs)
    | .unset => some (d.character true [])
    | _ => some (d.character true [Char.ofNat ((Datum.toInt v.toNumber) % 256).toNat])
  | _ => none

/-- The next of some values as an integer. -/
def nextInt (isAsked : Bool) (values : List Datum) : Option (Int × List Datum) :=
  if isAsked then
    match values with
    | v :: rest => some (Datum.toInt v.toNumber, rest)
    | [] => none
  else some (0, values)

/-- A form with values put in, given the form of numbers, and what is wrong with it. The first number is at
least that of the characters. -/
def filled (numbers : List Char) : Nat → (count : Nat) → List Char → List Datum → List Char × Option FormFault
  | 0, _, _, _ | _, _, [], _ => ([], none)
  | n + 1, count, '%' :: '%' :: cs, values =>
    let (others, fault) := filled numbers n count cs values
    ('%' :: others, fault)
  | n + 1, count, '%' :: cs, values =>
    let (directive, rest) := OpenDirective.ofChars ['h', 'l'] cs
    let found : Except FormFault (List Char × List Datum) := do
      if values.isEmpty then throw .missing
      let some (width, values) := nextInt directive.width.isNone values | throw .missing
      let some (precision, values) := nextInt (directive.precision == some none) values | throw .missing
      match directive.letter, values with
      | some letter, v :: values =>
        match shown numbers (.ofOpen directive letter width precision) v with
        | some text => return (text, values)
        | none => throw (.improper (count + 1))
      | some _, [] => throw .missing
      | none, _ => throw (.improper (count + 1))
    match found with
    | .ok (text, values) =>
      let (others, fault) := filled numbers n (count + 1) rest values
      (text ++ others, fault)
    | .error fault => ([], some fault)
  | n + 1, count, c :: cs, values =>
    let (others, fault) := filled numbers n count cs values
    (c :: others, fault)

end Form

namespace Step

/-- Values in a form. What could be put in is given to a step before a fault is reported. -/
def inForm (called : String) (values : List Datum) (finish : List Char → Step Unit) : Step Unit := do
  match values with
  | [] => return
  | form :: values =>
    let form ← text form
    let (found, fault) := Form.filled (← textForm) (form.length + 1) 0 form values
    finish found
    let shown := called ++ "(\x22" ++ String.ofList form ++ "\x22)"
    match fault with
    | none => return
    | some .missing => fail ("not enough arguments passed to " ++ shown)
    | some (.improper number) =>
      fail ("improper conversion(number " ++ Numeral.decimal number ++ ") in " ++ shown)

/-! ## Replacing -/

/-- What takes the place of a match. -/
def replacementText (found : List Char) : List Char → List Char
  | [] => []
  | '\\' :: '\\' :: '&' :: cs => '\\' :: found ++ replacementText found cs
  | '\\' :: '&' :: cs => '&' :: replacementText found cs
  | '&' :: cs => found ++ replacementText found cs
  | c :: cs => c :: replacementText found cs

/-- A text with matches replaced, and how many there were. Behind a match an empty one does not count. The
number is greater than that of the characters. -/
def replaced (r : Regex) (s : Subject) (all : Bool) (new : List Char) :
    Nat → (isBehind : Bool) → (place : Nat) → List Char × Nat
  | 0, _, place => (s.slice place s.text.size, 0)
  | n + 1, isBehind, place =>
    match r.search? s place with
    | none => (s.slice place s.text.size, 0)
    | some (first, e) =>
      let front := s.slice place first
      let onward (isBehind : Bool) (place : Nat) : List Char × Nat :=
        if all then replaced r s all new n isBehind place else (s.slice place s.text.size, 0)
      if first == e.place then
        let next := s.slice first (first + 1)
        let isOver := s.text.size ≤ first
        if isBehind && first == place then
          if isOver then (front, 0)
          else
            let (others, count) := onward false (first + 1)
            (front ++ next ++ others, count)
        else if !all then
          (front ++ replacementText [] new ++ s.slice first s.text.size, 1)
        else if isOver then (front ++ replacementText [] new, 1)
        else
          let (others, count) := onward false (first + 1)
          (front ++ replacementText [] new ++ next ++ others, count + 1)
      else
        let (others, count) := onward true e.place
        (front ++ replacementText (s.slice first e.place) new ++ others, count + 1)

/-- The place of a text in another one, counted from one, or else zero. -/
def indexOf (wanted : List Char) (place : Nat) : List Char → Nat
  | [] => 0
  | c :: cs => if wanted.isPrefixOf (c :: cs) then place else indexOf wanted (place + 1) cs

/-- A part of a text from a place on, counted from one, which has so many characters. -/
def part (cs : List Char) (first : Int) (count : Option Int) : List Char :=
  let rest := cs.drop (first - 1).toNat
  match count with
  | none => rest
  | some count => rest.take (if first < 0 then count - first else count).toNat

/-! ## Loops -/

/-- How often a loop is gone through at most. -/
def loopLimit : Nat := 1000000

/-- Carries a step out as long as it says so, a limited number of times. -/
def repeated : Nat → Step Bool → Step Unit
  | 0, _ => return
  | n + 1, step => do
    if ← step then repeated n step

/-- Carries the body of a loop out: whether the loop goes on. -/
def looped (body : Step Unit) : Step Bool :=
  tryCatch (do
    body
    return true) fun leaving =>
    match leaving with
    | .break => return false
    | .continue => return true
    | other => throw other

/-! ## Places -/

/-- What can be given a value, with its subscripts known. -/
inductive Location where
  | variable (v : Variable)
  | element (table : Nat) (subscript : Int ⊕ List Char)
  | field (place : Nat)

/-- The value that is there. -/
def load : Location → Step Datum
  | .variable v => do
    match ← cell v with
    | .value d => return d
    | _ => return .unset
  | .element number subscript => do
    changeTable number (·.touch subscript)
    return (← table number).value subscript
  | .field place => field place

/-- Puts a value there. -/
def store (l : Location) (d : Datum) : Step Unit :=
  match l with
  | .variable v => setVariable v d
  | .element number subscript => changeTable number (·.put subscript d)
  | .field place => setField place d

/-- A name in a table by its subscripts. -/
def subscriptOf (values : List Datum) : Step (Int ⊕ List Char) := do
  match values with
  | [d] => return Table.subscript (← textForm) d
  | _ => return .inr ((← sharedText "SUBSEP").intercalate (← values.mapM text))

/-! ## Functions -/

/-- The time now, in seconds. -/
def now : Step Int := do
  return Tool.beginning + ((← outside get).clock / 1000 : Nat)

/-- The seconds of a time that is spelled in numbers. -/
def secondsOf (cs : List Char) : Int :=
  let numbers := (words cs).map fun word => (String.ofList word).toInt?
  match numbers with
  | some year :: some month :: some day :: some hour :: some minute :: some second :: _ =>
    match Date.of? year month.toNat 1 with
    | some first => 86400 * (Tool.dayNumber first + day - 1) + 3600 * hour + 60 * minute + second
    | none => -1
  | _ => -1

/-- The next number by chance, from zero up to one. -/
def chance : Step Float := do
  let s ← get
  let random := (1103515245 * s.random + 12345) % 0x80000000
  set { s with random }
  return random.toFloat / (0x80000000 : Nat).toFloat

/-- The value of a function that every program has, for values. -/
def primitive (p : Primitive) (values : List Datum) : Step Datum := do
  let number (f : Float → Float) : Step Datum := do
    return .number (f ((values.head?.getD .unset).toNumber))
  let first ← text (values.head?.getD .unset)
  match p, values with
  | .length, [] => return .ofNat (← text (← get).record).length
  | .length, _ => return .ofNat first.length
  | .index, [_, wanted] =>
    let wanted ← text wanted
    return .ofNat (if wanted.isEmpty then 1 else indexOf wanted 1 first)
  | .substring, _ :: place :: count =>
    return .text (part first (Datum.toInt place.toNumber)
      (count.head?.map fun d => Datum.toInt d.toNumber))
  | .sine, _ => number Float.sin
  | .cosine, _ => number Float.cos
  | .arcTangent, [y, x] => return .number (Float.atan2 y.toNumber x.toNumber)
  | .exponential, _ => number Float.exp
  | .logarithm, _ => number Float.log
  | .integer, _ => number Datum.truncated
  | .root, _ => number Float.sqrt
  | .random, _ => return .number (← chance)
  | .seed, _ =>
    let s ← get
    let seed ← match values with
      | d :: _ => pure d
      | [] => pure (.number (Float.ofInt (← now)))
    set { s with seed, random := (Datum.toInt seed.toNumber).natAbs }
    return s.seed
  | .close, _ => return .number (← close (String.ofList first))
  | .system, _ =>
    flush
    return .ofNat (← command (String.ofList first))
  | .upper, _ => return .text (first.map Char.toUpper)
  | .lower, _ => return .text (first.map Char.toLower)
  | .flush, _ =>
    flush
    return .number 0.0
  | .now, _ => return .number (Float.ofInt (← now))
  | .timeOf, _ => return .number (Float.ofInt (secondsOf first))
  | .timeText, _ =>
    let form := if values.isEmpty then ['%', 'c'] else first
    let seconds ← match values with
      | _ :: d :: _ => pure (Datum.toInt d.toNumber)
      | _ => now
    match Time.ofUnixNanos? (seconds.toNat * 1000000000) with
    | some t => return .text (Tool.dateText t form.length form)
    | none => return .text []
  | _, _ => return .unset

/-- The nesting is too deep. -/
def tooDeep {α : Type} : Step α :=
  stop "program limit exceeded: eval stack size=1024"

/-- What a line is read into. -/
def receive (origin : Origin) (name : String) (target : Option Location) : Step Datum := do
  let found ← match origin with
    | .records => do
      match ← nextRecord mostFiles with
      | some record => pure (Except.ok record)
      | none => pure (.error false)
    | _ => recordOf origin name
  match found with
  | .error isFault => return .number (if isFault then -1.0 else 0.0)
  | .ok record =>
    match target with
    | some l => store l (.ofInput record)
    | none => setRecord record
    return .number 1.0

variable (routines : List Routine)

mutual

/-- The value of an expression. -/
def evaluate : Nat → Expr → Step Datum
  | 0, _ => tooDeep
  | n + 1, e => do
    match e with
    | .number x => return .number x
    | .text cs => return .text cs
    | .matchesRecord r => return .ofBool (r.occursIn ⟨(← text (← get).record).toArray, false, false⟩)
    | .get p => load (← locate n p)
    | .assign p none e =>
      let l ← locate n p
      let d ← evaluate n e
      store l d
      return d
    | .assign p (some o) e =>
      let l ← locate n p
      let d ← evaluate n e
      let d := Datum.number (Datum.combined o (← load l).toNumber d.toNumber)
      store l d
      return d
    | .step isUp isAfter p =>
      let l ← locate n p
      let before := (← load l).toNumber
      let after := if isUp then before + 1.0 else before - 1.0
      store l (.number after)
      return .number (if isAfter then before else after)
    | .combine o a b =>
      let a ← evaluate n a
      let b ← evaluate n b
      return .number (Datum.combined o a.toNumber b.toNumber)
    | .negative e => return .number (-(← evaluate n e).toNumber)
    | .numeric e => return .number (← evaluate n e).toNumber
    | .not e => return .ofBool (!(← evaluate n e).isTrue)
    | .compare r a b =>
      let a ← evaluate n a
      let b ← evaluate n b
      return .ofBool (Datum.holds r (← textForm) a b)
    | .join a b =>
      let a ← text (← evaluate n a)
      let b ← text (← evaluate n b)
      return .text (a ++ b)
    | .isMatch isNegated e pattern =>
      let subject ← text (← evaluate n e)
      let r ← patternOf n pattern
      return .ofBool (r.occursIn ⟨subject.toArray, false, false⟩ != isNegated)
    | .both a b =>
      if (← evaluate n a).isTrue then return .ofBool (← evaluate n b).isTrue else return .ofBool false
    | .oneOf a b =>
      if (← evaluate n a).isTrue then return .ofBool true else return .ofBool (← evaluate n b).isTrue
    | .choose c a b => if (← evaluate n c).isTrue then evaluate n a else evaluate n b
    | .contains v subscripts =>
      let subscript ← subscriptOf (← subscripts.mapM (evaluate n))
      let number ← tableOf v
      if (← table number).contains subscript then
        changeTable number (·.touch subscript)
        return .ofBool true
      else return .ofBool false
    | .call name arguments => invoke n name arguments
    | .apply .formatted arguments =>
      let values ← arguments.mapM (evaluate n)
      let before ← get
      inForm "sprintf" values fun cs => modify fun s => { s with held := String.ofList cs :: s.held }
      let after ← get
      set { after with held := before.held }
      return .text ((after.held.head?.getD "").toList)
    | .apply p arguments => primitive p (← arguments.mapM (evaluate n))
    | .size v =>
      match ← cell v with
      | .table number => return .ofNat (← table number).size
      | .undecided (some number) => return .ofNat (← table number).size
      | .value d => return .ofNat (← text d).length
      | .undecided none => return .number 0.0
    | .split e v separator =>
      let cs ← text (← evaluate n e)
      let found ← match separator with
        | none => pieces (← sharedText "FS") cs
        | some (.matchesRecord r) =>
          if cs.isEmpty then pure []
          else pure (piecesBy r ⟨cs.toArray, false, false⟩ (cs.length + 1) 0 0)
        | some e => pieces (← text (← evaluate n e)) cs
      changeTable (← tableOf v) fun _ => Table.ofList (found.map Datum.ofInput)
      return .ofNat found.length
    | .find e pattern =>
      let cs ← text (← evaluate n e)
      let r ← patternOf n pattern
      match r.search? ⟨cs.toArray, false, false⟩ 0 with
      | some (first, last) =>
        putShared "RSTART" (.ofNat (first + 1))
        putShared "RLENGTH" (.ofNat (last.place - first))
        return .ofNat (first + 1)
      | none =>
        putShared "RSTART" (.number 0.0)
        putShared "RLENGTH" (.number (-1.0))
        return .number 0.0
    | .replace all pattern new p =>
      let r ← patternOf n pattern
      let new ← text (← evaluate n new)
      let l ← locate n p
      let cs ← text (← load l)
      let (found, count) := replaced r ⟨cs.toArray, false, false⟩ all new (cs.length + 2) false 0
      if count != 0 then store l (.text found)
      return .ofNat count
    | .readLine origin source target =>
      let name ← match origin with
        | .records => pure []
        | _ => text (← evaluate n source)
      let target ← match target with
        | some p => some <$> locate n p
        | none => pure none
      receive origin (String.ofList name) target

/-- Where a value is or is put. -/
def locate : Nat → Place → Step Location
  | 0, _ => tooDeep
  | n + 1, p => do
    match p with
    | .variable v => return .variable v
    | .element v subscripts =>
      let subscript ← subscriptOf (← subscripts.mapM (evaluate n))
      return .element (← tableOf v) subscript
    | .field e => return .field (← fieldPlace (← evaluate n e))

/-- The pattern that an expression is. -/
def patternOf : Nat → Expr → Step Regex
  | 0, _ => tooDeep
  | n + 1, e => do
    match e with
    | .matchesRecord r => return r
    | e => pattern (← text (← evaluate n e))

/-- The value of a function of the program. -/
def invoke : Nat → String → List Expr → Step Datum
  | 0, _, _ => tooDeep
  | n + 1, name, arguments => do
    match routines.find? (·.name == name) with
    | none => return .unset
    | some routine =>
      let cells ← arguments.mapM fun e => do
        match e with
        | .get (.variable v) => passedCell v
        | e => return .value (← evaluate n e)
      let before := (← get).own
      modify fun s => { s with
        own := (cells ++ List.replicate (routine.parameters - cells.length) (Cell.undecided none)).toArray }
      let found ← tryCatch (do
        perform n routine.body
        return .unset) fun leaving => do
        match leaving with
        | .return d => return d
        | other => throw other
      modify fun s => { s with own := before }
      return found

/-- Carries a statement out. -/
def perform : Nat → Statement → Step Unit
  | 0, _ => tooDeep
  | n + 1, statement => do
    match statement with
    | .empty => return
    | .block ss => ss.forM (perform n)
    | .value e => discard (evaluate n e)
    | .print es target =>
      let texts ← if es.isEmpty then pure [← text (← get).record] else
        es.mapM fun e => do
          match ← evaluate n e with
          | .number x => return Datum.numberText (← printedForm) x
          | d => return d.toText []
      let place ← placeOf n target
      put place (String.ofList ((← sharedText "OFS").intercalate texts ++ (← sharedText "ORS")))
    | .printForm es target =>
      let values ← es.mapM (evaluate n)
      let place ← placeOf n target
      inForm "printf" values fun cs => put place (String.ofList cs)
    | .branch c yes no => if (← evaluate n c).isTrue then perform n yes else perform n no
    | .whileTrue c body =>
      repeated loopLimit do
        if (← evaluate n c).isTrue then looped (perform n body) else return false
    | .untilFalse body c =>
      repeated loopLimit do
        if ← looped (perform n body) then return (← evaluate n c).isTrue else return false
    | .count first condition step body =>
      match first with
      | some e => discard (evaluate n e)
      | none => pure ()
      repeated loopLimit do
        let isOn ← match condition with
          | some e => do pure (← evaluate n e).isTrue
          | none => pure true
        if !isOn then return false
        if ← looped (perform n body) then
          match step with
          | some e => discard (evaluate n e)
          | none => pure ()
          return true
        else return false
    | .forEach v t body =>
      let number ← tableOf t
      let (ordered, names) := (← table number).ordered
      changeTable number fun _ => ordered
      discard <| names.foldlM (fun isOn name => do
        if !isOn then return false
        setVariable v (.text name)
        looped (perform n body)) true
    | .delete v subscripts =>
      let subscript ← subscriptOf (← subscripts.mapM (evaluate n))
      changeTable (← tableOf v) (·.erase subscript)
    | .clear v => changeTable (← tableOf v) fun _ => Table.empty
    | .break => throw .break
    | .continue => throw .continue
    | .next => throw .next
    | .nextFile => throw .nextFile
    | .exit e =>
      match e with
      | some e =>
        let status := Datum.toInt (← evaluate n e).toNumber
        modify fun s => { s with status := (status % 256).toNat }
      | none => pure ()
      throw .exit
    | .return e =>
      match e with
      | some e => throw (.return (← evaluate n e))
      | none => throw (.return .unset)

/-- Where output goes. -/
def placeOf : Nat → Option (Outlet × Expr) → Step (Option (Outlet × String))
  | 0, _ => tooDeep
  | n + 1, target => do
    match target with
    | none => return none
    | some (outlet, e) => return some (outlet, String.ofList (← text (← evaluate n e)))

end

end Step
end SysReg.Shell.Records
