import SysReg.FileTree

/-!
# Streams

What a process reads and writes goes through descriptors, which are numbers for streams. A stream is text
that comes in, text that went out, or a file that was opened, in which it has a place. Two descriptors may
stand for the same stream.
-/

namespace SysReg.Shell

/-- The text whose characters stand for octets. -/
def textOfOctets (octets : List Nat) : String :=
  String.ofList (octets.map Char.ofNat)

/-- The octets that the characters of a text stand for. -/
def octetsOfText (text : String) : List Nat :=
  text.toList.map Char.toNat

/-- What a file was opened for. -/
structure Access where
  reads : Bool
  writes : Bool
  /-- All is written to the end. -/
  atEnd : Bool
  deriving DecidableEq, Repr

/-- What a descriptor stands for. -/
inductive Stream where
  /-- Text that comes in. What was read of it is gone. -/
  | incoming (rest : List Char)
  /-- Text that went out. -/
  | outgoing (text : String)
  | opened (place : List String) (offset : Nat) (access : Access)
  deriving DecidableEq, Repr

namespace Stream

/-- The text that went out. -/
def written : Stream → String
  | outgoing text => text
  | _ => ""

end Stream

/-- How a path is opened for a redirection. -/
inductive Opening where
  | toRead
  /-- What is there is lost, and nothing may be there if `onlyNew`. -/
  | toWrite (onlyNew : Bool)
  | toAppend
  | toReadAndWrite
  deriving DecidableEq, Repr

namespace Opening

/-- What a file is opened for. -/
def access : Opening → Access
  | toRead => ⟨true, false, false⟩
  | toWrite _ => ⟨false, true, false⟩
  | toAppend => ⟨false, true, true⟩
  | toReadAndWrite => ⟨true, true, false⟩

end Opening

/-- Files, streams, and the descriptors that stand for them by their numbers. -/
structure Channels where
  tree : FileTree
  streams : Array Stream
  descriptors : List (Nat × Nat)

namespace Channels

/-- A descriptor that stands for nothing. -/
def closed : FileFault := .other "Bad file descriptor"

/-- The number of the stream that a descriptor stands for. -/
def streamOf? (c : Channels) (descriptor : Nat) : Option Nat :=
  c.descriptors.lookup descriptor

/-- Lets a descriptor stand for nothing. -/
def close (c : Channels) (descriptor : Nat) : Channels :=
  { c with descriptors := c.descriptors.filter (·.1 != descriptor) }

/-- Lets a descriptor stand for a stream. -/
def assign (c : Channels) (descriptor stream : Nat) : Channels :=
  { c with descriptors := (descriptor, stream) :: (c.close descriptor).descriptors }

/-- A new stream and its number. -/
def add (c : Channels) (s : Stream) : Channels × Nat :=
  ({ c with streams := c.streams.push s }, c.streams.size)

/-- The stream of a number. -/
def stream (c : Channels) (number : Nat) : Stream :=
  c.streams[number]?.getD (.outgoing "")

/-- Puts a stream in the place of another. -/
def setStream (c : Channels) (number : Nat) (s : Stream) : Channels :=
  { c with streams := c.streams.modify number fun _ => s }

/-! ## Opening -/

/-- How many descriptors there may be. -/
def descriptorCount : Nat := 64

/-- The devices that stand for descriptors. -/
def ownDevices : List (List String × Nat) :=
  [(["dev", "stdin"], 0), (["dev", "stdout"], 1), (["dev", "stderr"], 2)] ++
    (List.range descriptorCount).flatMap fun n =>
      [(["dev", "fd", Numeral.decimal n], n), (["proc", "self", "fd", Numeral.decimal n], n)]

/-- How much can be read of a device without an end. -/
def deviceLimit : Nat := 65536

/-- The tree with a file for a redirection, and its place. -/
def openAt (t : FileTree) (how : Opening) (path : String) :
    Except FileFault (FileTree × List String) := do
  match how with
  | .toRead => return (t, (← t.locate true path).1)
  | .toWrite onlyNew =>
    let place ← t.placeToWrite path
    match t.node? place with
    | some (.device _) => return (t, place)
    | some _ =>
      if onlyNew then throw .alreadyExists else return (← t.writeOctets place [], place)
    | none => return (← t.writeOctets place [], place)
  | .toAppend | .toReadAndWrite =>
    let place ← t.placeToWrite path
    if (t.node? place).isSome then return (t, place) else return (← t.writeOctets place [], place)

/-- Opens a path: the number of its stream. -/
def openPath (c : Channels) (how : Opening) (path : String) : Except FileFault (Channels × Nat) := do
  let walked := (c.tree.walk path (FileTree.names path)).toOption
  match walked.bind fun place => ownDevices.lookup place with
  | some descriptor =>
    match c.streamOf? descriptor with
    | some number => return (c, number)
    | none => throw .notFound
  | none =>
    if walked == some ["dev", "zero"] && how == .toRead then
      return c.add (.incoming (List.replicate deviceLimit '\x00'))
    let (tree, place) ← openAt c.tree how path
    return { c with tree }.add (.opened place 0 how.access)

/-! ## Reading -/

/-- What is left to read of a stream. -/
def pending (c : Channels) (number : Nat) : Except FileFault (List Char) :=
  match c.stream number with
  | .incoming rest => .ok rest
  | .outgoing _ => .error closed
  | .opened place offset access =>
    if !access.reads then .error closed
    else
      match c.tree.node? place with
      | some (.file octets _) => .ok ((octets.drop offset).map Char.ofNat)
      | some (.device _) | none => .ok []
      | some _ => .error .isADirectory

/-- Passes over the next octets of a stream. -/
def skip (c : Channels) (number count : Nat) : Channels :=
  match c.stream number with
  | .incoming rest => c.setStream number (.incoming (rest.drop count))
  | .outgoing _ => c
  | .opened place offset access => c.setStream number (.opened place (offset + count) access)

/-- The octets of a stream can be passed over again. -/
def isSeekable (c : Channels) (number : Nat) : Bool :=
  match c.stream number with
  | .opened _ _ _ => true
  | _ => false

/-- What a descriptor can read, without reading it. -/
def look (c : Channels) (descriptor : Nat) : Except FileFault (List Char) :=
  match c.streamOf? descriptor with
  | some number => c.pending number
  | none => .error closed

/-! ## Writing -/

/-- The octets of a file after others were written from an offset on. -/
def overwritten (octets : List Nat) (offset : Nat) (new : List Nat) : List Nat :=
  let front := octets.take offset
  front ++ List.replicate (offset - front.length) 0 ++ new ++ octets.drop (offset + new.length)

/-- Writes a text to a stream. -/
def writeTo (c : Channels) (number : Nat) (text : String) : Except FileFault Channels :=
  match c.stream number with
  | .incoming _ => .error closed
  | .outgoing _ =>
    .ok { c with
      streams := c.streams.modify number fun s => match s with
        | .outgoing before => .outgoing (before ++ text)
        | s => s }
  | .opened place offset access =>
    if !access.writes then .error closed
    else
      match c.tree.node? place with
      | some (.device roomy) => if roomy || text.isEmpty then .ok c else .error .noSpace
      | some (.file octets runnable) =>
        let offset := if access.atEnd then octets.length else offset
        let octets := overwritten octets offset (octetsOfText text)
        .ok ({ c with tree := c.tree.put place (.file octets runnable) }.setStream number
          (.opened place (offset + text.length) access))
      | _ => .ok c

/-- Writes a text to a descriptor. -/
def write (c : Channels) (descriptor : Nat) (text : String) : Except FileFault Channels :=
  match c.streamOf? descriptor with
  | some number => c.writeTo number text
  | none => .error closed

end Channels
end SysReg.Shell
