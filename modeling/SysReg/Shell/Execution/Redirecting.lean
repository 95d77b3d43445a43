import SysReg.Shell.Execution.Basic

/-!
# Redirections

A redirection lets descriptors stand for something else while a command is carried out. What they are to stand
for is worked out first, for all redirections of the command.
-/

namespace SysReg.Shell.Execution

-- What carries out the commands that a command holds.
variable (run : Executor)

/-- What a descriptor is to stand for. -/
inductive Target where
  | path (how : Opening) (text : String)
  /-- What another descriptor stands for, or nothing. -/
  | same (descriptor : Option Nat)
  | text (text : String)
  /-- Nothing that could be made out of the words. -/
  | refused (fault : Fault)

/-! ## What descriptors are to stand for -/

/-- How a direction opens a path, if it does. -/
def openingOf? (p : Process) : Direction → Option Opening
  | .read => some .toRead
  | .write | .writeBoth => some (.toWrite (p.has 'C'))
  | .overwrite => some (.toWrite false)
  | .append | .appendBoth => some .toAppend
  | .readAndWrite => some .toReadAndWrite
  | .sameInput | .sameOutput => none

/-- Refuses what is no descriptor, as the reading of the script would. -/
def refuseDescriptor {α : Type} : Run α := do
  modify fun p => { p with line := p.readLine }
  Run.fail (.stated "Syntax error: Bad fd number")

/-- What a descriptor is to stand for in the simpler kind of shell. -/
def plainTarget (direction : Direction) (word : Word) : Run Target := do
  let text ← Expansion.text (makers run) .atStart word
  match openingOf? (← get) direction, text.toList with
  | some how, _ => return .path how text
  | none, ['-'] => return .same none
  | none, [c] => if c.isDigit then return .same (some (c.toNat - 48)) else refuseDescriptor
  | none, _ => refuseDescriptor

/-- What descriptors are to stand for, if the target stands as a text in the script. -/
def extendedTargets (descriptor : Nat) (direction : Direction) (word : Word) (source : String) :
    Run (List (Nat × Target)) := do
  let ambiguous : List (Nat × Target) :=
    [(descriptor, .refused (.stated (source ++ ": ambiguous redirect")))]
  match ← Expansion.fields (makers run) word with
  | [text] =>
    let p ← get
    let both (how : Opening) : List (Nat × Target) := [(1, .path how text), (2, .same (some 1))]
    let digits := text.toList.takeWhile Char.isDigit
    let other := (String.ofList digits).toNat?
    match openingOf? p direction, text.toList.drop digits.length, other with
    | some how, _, _ =>
      return if direction == .writeBoth || direction == .appendBoth then both how
        else [(descriptor, .path how text)]
    | none, ['-'], none => return [(descriptor, .same none)]
    | none, [], some other => return [(descriptor, .same (some other))]
    | none, ['-'], some other => return [(descriptor, .same (some other)), (other, .same none)]
    | none, _, _ =>
      return if direction == .sameOutput && descriptor == 1 then both (.toWrite (p.has 'C')) else ambiguous
  | _ => return ambiguous

/-- What a redirection is to be: descriptors, and what they are to stand for. -/
def targets (r : Redirection) : Run (List (Nat × Target)) := do
  match r with
  | .document descriptor number =>
    let word := ((← get).documents.lookup number).getD []
    return [(descriptor, .text (← Expansion.text (makers run) .never word))]
  | .line descriptor word =>
    return [(descriptor, .text ((← Expansion.text (makers run) .atStart word) ++ "\n"))]
  | .directed descriptor direction word source =>
    match (← get).dialect with
    | .plain => return [(descriptor, ← plainTarget run direction word)]
    | .extended => extendedTargets run descriptor direction word source

/-- What all redirections of a command are to be. -/
def allTargets (redirections : List Redirection) : Run (List (Nat × Target)) := do
  return (← redirections.mapM (targets run)).flatten

/-! ## Redirecting -/

/-- Lets a descriptor stand for something. -/
def aim (descriptor : Nat) (t : Target) : Run Unit := do
  let p ← get
  match t with
  | .refused fault => Run.fail fault
  | .text text =>
    let (channels, number) := p.channels.add (.incoming text.toList)
    set { p with channels := channels.assign descriptor number }
  | .same none => set { p with channels := p.channels.close descriptor }
  | .same (some other) =>
    match p.channels.streamOf? other with
    | some number => set { p with channels := p.channels.assign descriptor number }
    | none => Run.fail (.badDescriptor (Numeral.decimal other))
  | .path how text =>
    match p.channels.openPath how text with
    | .ok (channels, number) => set { p with channels := channels.assign descriptor number }
    | .error fault =>
      Run.fail (if how == .toRead then .notOpened text fault else .notCreated text fault)

/-- Lets a descriptor stand for what it stood for before. -/
def giveBack (before : Channels) (descriptor : Nat) : Run Unit :=
  modify fun p =>
    { p with
      channels := match before.streamOf? descriptor with
        | some number => p.channels.assign descriptor number
        | none => p.channels.close descriptor }

/-- Carries a step out with redirections: whether they could be made. They are taken back unless they are
kept. -/
def redirected (aims : List (Nat × Target)) (isKept : Bool) (step : Run Unit) : Run Bool := do
  let before := (← get).channels
  let takeBack : Run Unit := aims.forM fun (descriptor, _) => giveBack before descriptor
  match ← outcome (aims.forM fun (descriptor, t) => aim descriptor t) with
  | some .failed =>
    takeBack
    return false
  | some i => throw i
  | none =>
    Run.andFinally step (if isKept then return else takeBack)
    return true

end SysReg.Shell.Execution
