import SysReg.Json.Token

/-!
# Documents as they were read

The tree of a document that is read from front to back. Where the text stops being a document, the
tree ends in `broken`, so that what stands before the fault is still there to be looked at first.

Members of objects keep their order and may repeat a key. A string, or a key, that cannot be used
has no content.
-/

namespace SysReg.Json

/-- A value of a document, as far as it could be read. -/
inductive Source where
  | null
  | bool (b : Bool)
  | number (literal : List Char)
  | string (content : Option (List Char))
  | array (items : List Source)
  | object (members : List (Option (List Char) × Source))
  /-- The document ends here by a fault. -/
  | broken

namespace Source

mutual

/-- Whether a value was read to its end. -/
def isWhole : Source → Bool
  | broken => false
  | array items => areWhole items
  | object members => membersAreWhole members
  | _ => true

/-- Whether all values of a list were read to their end. -/
def areWhole : List Source → Bool
  | [] => true
  | item :: items => isWhole item && areWhole items

/-- Whether all values of a list of members were read to their end. -/
def membersAreWhole : List (Option (List Char) × Source) → Bool
  | [] => true
  | (_, value) :: members => isWhole value && membersAreWhole members

end

/-- An array or object that is not closed yet, with what it holds so far in reverse; of an object
also the key whose value is next. -/
inductive Frame where
  | array (items : List Source)
  | object (members : List (Option (List Char) × Source)) (key : Option (List Char))

/-- The open container closed after one more value. -/
def Frame.close (value : Source) : Frame → Source
  | array items => .array (value :: items).reverse
  | object members key => .object ((key, value) :: members).reverse

/-- The document that ends by a fault inside the given open containers, innermost first. -/
def cutShort (frames : List Frame) : Source :=
  frames.foldl (fun value frame => frame.close value) broken

/-- What may come next. -/
inductive Expected where
  /-- A value. -/
  | value
  /-- An element, or the end of the array. -/
  | firstItem
  /-- A key, or the end of the object. -/
  | firstKey
  /-- A key. -/
  | key
  /-- The colon after a key. -/
  | colon
  /-- What follows a value in the innermost container. -/
  | more (last : Source)

/-- The value of a token that is one. -/
def ofToken? : Token → Option Source
  | .null => some null
  | .bool b => some (bool b)
  | .number literal => some (number literal)
  | .string content => some (string content)
  | _ => none

/-- The containers that are open, and what may come next. -/
abbrev Place : Type := List Frame × Expected

/-- A token where a value may stand. -/
def valueStep (frames : List Frame) (token : Token) : Option Place :=
  match token with
  | .openArray => some (.array [] :: frames, .firstItem)
  | .openObject => some (.object [] none :: frames, .firstKey)
  | token => (ofToken? token).map fun value => (frames, .more value)

/-- A token inside an open container, given its frame and those around it. -/
def step (frame : Frame) (frames : List Frame) (expected : Expected) (token : Token) :
    Option Place :=
  match frame, expected, token with
  | .array [], .firstItem, .closeArray => some (frames, .more (.array []))
  | frame, .firstItem, token | frame, .value, token => valueStep (frame :: frames) token
  | .object members _, .firstKey, .string content
  | .object members _, .key, .string content => some (.object members content :: frames, .colon)
  | .object [] _, .firstKey, .closeObject => some (frames, .more (.object []))
  | frame, .colon, .colon => some (frame :: frames, .value)
  | .array items, .more last, .comma => some (.array (last :: items) :: frames, .value)
  | .array items, .more last, .closeArray =>
    some (frames, .more (.array (last :: items).reverse))
  | .object members key, .more last, .comma =>
    some (.object ((key, last) :: members) none :: frames, .key)
  | .object members key, .more last, .closeObject =>
    some (frames, .more (.object ((key, last) :: members).reverse))
  | _, _, _ => none

/-- The containers that a fault leaves open; a value that was complete is still in its container. -/
def openAt : Place → List Frame
  | (.array items :: frames, .more last) => .array (last :: items) :: frames
  | (.object members key :: frames, .more last) => .object ((key, last) :: members) none :: frames
  | (frames, _) => frames

/-- Builds the tree of the tokens from a place on, and leaves the tokens after the document. -/
def build : Place → List Token → Source × List Token
  | ([], .more root), tokens => (root, tokens)
  | place, [] => (cutShort (openAt place), [])
  | ([], _), token :: tokens =>
    match valueStep [] token with
    | some place => build place tokens
    | none => (broken, [])
  | (frame :: frames, expected), token :: tokens =>
    match step frame frames expected token with
    | some place => build place tokens
    | none => (cutShort (openAt (frame :: frames, expected)), [])

/-- The tree of a text, and whether nothing but blanks follows the document. -/
def ofText (text : List Char) : Source × Bool :=
  let (root, rest) := build ([], .value) (tokens text)
  (root, rest.isEmpty)

end Source
end SysReg.Json
