import SysReg.Shell.Tool.Records.Pattern
import SysReg.Shell.Tool.Records.Program

/-!
# Words of programs

The text of a program, cut into words one after the other. What a word is depends on the words in front of
it: a slash divides or begins a pattern, and behind a word for printing a sign of comparison names a file.
-/

namespace SysReg.Shell.Records

/-- A word of a program. -/
inductive Token where
  | sign (text : String)
  | number (x : Float) (text : String)
  | text (cs : List Char)
  | pattern (cs : List Char)
  | name (name : String)
  /-- A name that is followed by arguments. -/
  | called (name : String)
  | keyword (text : String)
  | primitive (p : Primitive) (text : String)
  /-- A sign behind which the place is named where output goes. -/
  | outlet (o : Outlet)
  /-- A sign behind which the file is named that a line is read from. -/
  | inlet
  | newline
  /-- The end of a statement that a closing brace makes. -/
  | supplied
  | ending
  /-- A character that begins no word. -/
  | unknown (c : Char)

namespace Token

/-- The signs that output goes by. -/
def outletText : Outlet → String
  | .file => ">"
  | .fileEnd => ">>"
  | .command => "|"

/-- How a word is shown in a message. -/
def shown : Token → String
  | sign spelling | number _ spelling | keyword spelling | primitive _ spelling => spelling
  | text cs => String.ofList cs
  | pattern cs => "/" ++ String.ofList cs ++ "/"
  | name spelling | called spelling => spelling
  | outlet o => outletText o
  | inlet => "<"
  | newline => "end of line"
  | supplied => "\x7d"
  | ending => "end of file"
  | unknown c => c.toString

/-- The word is a sign. -/
def isSign (t : Token) (text : String) : Bool :=
  match t with
  | sign found => found == text
  | _ => false

/-- The word is a keyword. -/
def isKeyword (t : Token) (text : String) : Bool :=
  match t with
  | keyword found => found == text
  | _ => false

/-- The word ends a statement. -/
def isSeparator : Token → Bool
  | newline | supplied => true
  | t => t.isSign ";"

/-- A slash behind the word divides. -/
def isDivided : Token → Bool
  | number _ _ | text _ | name _ | pattern _ => true
  | keyword spelling => spelling == "getline"
  | primitive p _ => p == .length
  | sign spelling => [")", "]", "++", "--"].contains spelling
  | _ => false

/-- What is missing in front of the word if an opening sign was not closed. -/
def closesAll (t : Token) : Bool :=
  match t with
  | ending => true
  | t => t.isSeparator

end Token

/-- The words with a meaning of their own. -/
def keywords : List String :=
  ["BEGIN", "END", "break", "continue", "delete", "do", "else", "exit", "for", "function", "getline",
    "gsub", "if", "in", "match", "next", "nextfile", "print", "printf", "return", "split", "sub", "while"]

/-- The functions that every program has, by name, with how many arguments they have at least and at
most. -/
def primitives : List (String × Primitive × Nat × Nat) :=
  [("length", .length, 0, 1), ("index", .index, 2, 2), ("substr", .substring, 2, 3),
    ("sprintf", .formatted, 1, 255), ("sin", .sine, 1, 1), ("cos", .cosine, 1, 1),
    ("atan2", .arcTangent, 2, 2), ("exp", .exponential, 1, 1), ("log", .logarithm, 1, 1),
    ("int", .integer, 1, 1), ("sqrt", .root, 1, 1), ("rand", .random, 0, 0), ("srand", .seed, 0, 1),
    ("close", .close, 1, 1), ("system", .system, 1, 1), ("toupper", .upper, 1, 1),
    ("tolower", .lower, 1, 1), ("fflush", .flush, 0, 1), ("systime", .now, 0, 0),
    ("mktime", .timeOf, 1, 1), ("strftime", .timeText, 0, 3)]

/-- The text of a program from a place on. -/
structure Scanner where
  rest : List Char
  line : Nat
  /-- The word that was read last. -/
  before : Token
  parens : Nat
  braces : Nat
  /-- A sign of comparison names a place for output. -/
  isPrinting : Bool
  /-- A sign of comparison names a file to read. -/
  isReading : Bool

namespace Scanner

/-- The start of a text. -/
def ofText (cs : List Char) : Scanner :=
  ⟨cs, 1, .newline, 0, 0, false, false⟩

/-- A blank within a line. -/
def isBlank (c : Char) : Bool :=
  c == ' ' || c == '\t' || ('\x0b' ≤ c && c ≤ '\x0d')

/-- A character of names. -/
def isNamed (c : Char) : Bool :=
  c.isAlphanum || c == '_'

/-- Passes over blanks, comments and ends of lines. -/
def skipLines (line : Nat) (cs : List Char) : List Char × Nat :=
  go (cs.length + 1) line cs
where
  /-- The number is greater than that of the characters. -/
  go : Nat → Nat → List Char → List Char × Nat
    | 0, line, cs => (cs, line)
    | n + 1, line, cs =>
      match cs.dropWhile isBlank with
      | '\n' :: rest => go n (line + 1) rest
      | '#' :: rest => go n line (rest.dropWhile (· != '\n'))
      | '\\' :: '\n' :: rest => go n (line + 1) rest
      | rest => (rest, line)

/-- Passes over blanks, comments and lines that go on. -/
def skipBlanks (line : Nat) (cs : List Char) : List Char × Nat :=
  go (cs.length + 1) line cs
where
  /-- The number is greater than that of the characters. -/
  go : Nat → Nat → List Char → List Char × Nat
    | 0, line, cs => (cs, line)
    | n + 1, line, cs =>
      match cs.dropWhile isBlank with
      | '#' :: rest => go n line (rest.dropWhile (· != '\n'))
      | '\\' :: rest =>
        match rest.dropWhile isBlank with
        | '\n' :: rest => go n (line + 1) rest
        | _ => ('\\' :: rest, line)
      | rest => (rest, line)

/-- Goes on at the next line that holds something. -/
def overLines (s : Scanner) : Scanner :=
  let (rest, line) := skipLines s.line s.rest
  { s with rest, line }

/-- The text of a string up to its closing quote, what follows, and the line. The number is at least that
of the characters. Else the text that has no end. -/
def quotedAt : Nat → Nat → List Char → Except (List Char) (List Char × List Char × Nat)
  | 0, _, _ | _, _, [] | _, _, '\n' :: _ => .error []
  | _, line, '\x22' :: cs => .ok ([], cs, line)
  | n + 1, line, '\\' :: '\n' :: cs => quotedAt n (line + 1) cs
  | n + 1, line, '\\' :: c :: cs =>
    match quotedAt n line cs with
    | .ok (text, rest) => .ok ('\\' :: c :: text, rest)
    | .error text => .error ('\\' :: c :: text)
  | n + 1, line, c :: cs =>
    match quotedAt n line cs with
    | .ok (text, rest) => .ok (c :: text, rest)
    | .error text => .error (c :: text)

/-- The text of a pattern up to the slash that closes it, and what follows. A slash in brackets closes
nothing; the number in front says how many characters of brackets were read, if some are open. Else the text
that has no end. -/
def patternAt : Nat → (boxed : Option Nat) → List Char → Except (List Char) (List Char × List Char)
  | 0, _, _ | _, _, [] | _, _, '\n' :: _ => .error []
  | n + 1, boxed, '/' :: cs =>
    if boxed.isNone then .ok ([], cs) else put ['/'] (patternAt n (boxed.map (· + 1)) cs)
  | n + 1, boxed, '\\' :: '/' :: cs => put ['/'] (patternAt n (boxed.map (· + 1)) cs)
  | n + 1, boxed, '\\' :: '\n' :: cs => patternAt n boxed cs
  | n + 1, boxed, '\\' :: c :: cs => put ['\\', c] (patternAt n (boxed.map (· + 1)) cs)
  | n + 1, boxed, '[' :: ':' :: cs =>
    let name := cs.takeWhile Char.isAlpha
    match boxed.isSome, cs.drop name.length with
    | true, ':' :: ']' :: rest => put ('[' :: ':' :: name ++ [':', ']']) (patternAt n (boxed.map (· + 1)) rest)
    | _, _ => put ['['] (patternAt n (some ((boxed.map (· + 1)).getD 0)) (':' :: cs))
  | n + 1, boxed, c :: cs =>
    match boxed with
    | none => put [c] (patternAt n (if c == '[' then some 0 else none) cs)
    | some 0 => put [c] (patternAt n (some (if c == '^' then 0 else 1)) cs)
    | some k => put [c] (patternAt n (if c == ']' then none else some (k + 1)) cs)
where
  /-- Puts characters in front of what was found. -/
  put (front : List Char) :
      Except (List Char) (List Char × List Char) → Except (List Char) (List Char × List Char)
    | .ok (text, rest) => .ok (front ++ text, rest)
    | .error text => .error (front ++ text)

/-- The number at the start of a text, and what follows it. -/
def numberAt (cs : List Char) : Token × List Char :=
  match Real.decimalAt? false cs with
  | some (x, rest) =>
    (.number x.toFloat (String.ofList (cs.take (cs.length - rest.length))), rest)
  | none => (.number 0.0 "", cs.drop 1)

/-- The signs of more than one character, the longest first. -/
def longSigns : List (List Char) :=
  [['+', '+'], ['+', '='], ['-', '-'], ['-', '='], ['*', '='], ['%', '='], ['^', '='], ['!', '='],
    ['!', '~'], ['=', '='], ['<', '='], ['>', '='], ['&', '&'], ['|', '|']]

/-- The signs of one character. -/
def shortSigns : List Char :=
  ['+', '-', '*', '%', '^', '!', '~', '=', '<', '>', '?', ':', ',', '[', '|', '$']

/-- What is read: a word, what there is to complain of before it, and what follows. -/
structure Found where
  token : Token
  /-- The line of the word. -/
  line : Nat
  complaints : List String
  next : Scanner

/-- A word and what follows it. -/
def found (s : Scanner) (t : Token) (rest : List Char) : Found :=
  ⟨t, s.line, [], { s with rest, before := t }⟩

/-- A word behind which lines may end. -/
def openFound (s : Scanner) (t : Token) (rest : List Char) : Found :=
  let f := s.found t rest
  { f with next := f.next.overLines }

/-- The word for a name. The function says whether a name is that of a variable or a function. -/
def nameFound (s : Scanner) (kindOf : String → Option Bool) (cs : List Char) : Found :=
  let name := String.ofList (cs.takeWhile isNamed)
  let rest := cs.dropWhile isNamed
  if keywords.contains name then
    let t := Token.keyword name
    let s := { s with
      isPrinting := s.isPrinting || name == "print" || name == "printf"
      isReading := s.isReading || name == "getline" }
    if name == "else" || name == "do" then s.openFound t rest else s.found t rest
  else
    match primitives.lookup name with
    | some (p, _) => s.found (.primitive p name) rest
    | none =>
      match kindOf name with
      | some true => s.found (.called name) rest
      | some false => s.found (.name name) rest
      | none =>
        if rest.head? == some '(' && !s.before.isKeyword "function" then s.found (.called name) rest
        else s.found (.name name) rest

/-- The next word, or what is wrong with the text so that nothing can follow. The number bounds how many
signs are passed over that close nothing. -/
def next (kindOf : String → Option Bool) : Nat → Scanner → Except String Found
  | 0, s => .ok (s.found .ending [])
  | n + 1, s =>
    let (rest, line) := skipBlanks s.line s.rest
    let s := { s with rest, line }
    match rest with
    | [] => .ok (s.found .ending [])
    | '\n' :: cs =>
      let f := { s with isPrinting := false, isReading := false, line := line + 1 }.openFound .newline cs
      .ok { f with line := line }
    | ';' :: cs => .ok ({ s with isPrinting := false, isReading := false }.openFound (.sign ";") cs)
    | '\x7b' :: cs => .ok ({ s with braces := s.braces + 1 }.openFound (.sign "\x7b") cs)
    | '\x7d' :: cs =>
      if s.braces == 0 then
        let cs := match cs.dropWhile isBlank with
          | ';' :: after => after
          | _ => cs
        match next kindOf n { s with rest := cs } with
        | .ok f => .ok { f with complaints := "extra '\x7d'" :: f.complaints }
        | .error text => .error text
      else if s.before.isSeparator || s.before.isSign "\x7d" then
        let braces := s.braces - 1
        let cs := match cs.dropWhile isBlank with
          | ';' :: after => if braces == 0 then after else cs
          | _ => cs
        .ok ({ s with braces, isPrinting := false, isReading := false }.openFound (.sign "\x7d") cs)
      else .ok ({ s with isPrinting := false, isReading := false }.found .supplied rest)
    | '(' :: cs => .ok ({ s with parens := s.parens + 1 }.found (.sign "(") cs)
    | ')' :: cs =>
      if s.parens == 0 then
        match next kindOf n { s with rest := cs } with
        | .ok f => .ok { f with complaints := "extra ')'" :: f.complaints }
        | .error text => .error text
      else .ok ({ s with parens := s.parens - 1, isReading := false }.found (.sign ")") cs)
    | ']' :: cs => .ok (s.found (.sign "]") cs)
    | ',' :: cs => .ok (s.openFound (.sign ",") cs)
    | '\x22' :: cs =>
      match quotedAt (cs.length + 1) line cs with
      | .ok (text, rest, line) =>
        let f := { s with line }.found (.text (Pattern.unescaped (text.length + 1) text)) rest
        .ok { f with line := s.line }
      | .error text =>
        .error ("runaway string constant \x22" ++ String.ofList (text.take 10) ++ " ...")
    | '/' :: cs =>
      if s.before.isDivided then
        match cs with
        | '=' :: rest => .ok (s.found (.sign "/=") rest)
        | _ => .ok (s.found (.sign "/") cs)
      else
        match patternAt (cs.length + 1) none cs with
        | .ok (text, rest) => .ok (s.found (.pattern text) rest)
        | .error text =>
          .error ("runaway regular expression /" ++ String.ofList (text.take 10) ++ " ...")
    | c :: cs =>
      let isNumber := c.isDigit || (c == '.' && cs.head?.any Char.isDigit)
      if isNumber then
        let (t, rest) := numberAt rest
        .ok (s.found t rest)
      else if isNamed c then .ok (s.nameFound kindOf rest)
      else if s.isPrinting && s.parens == 0 && (c == '>' || (c == '|' && cs.head? != some '|')) then
        let s := { s with isPrinting := false }
        match c, cs with
        | '>', '>' :: rest => .ok (s.found (.outlet .fileEnd) rest)
        | '>', _ => .ok (s.found (.outlet .file) cs)
        | _, _ => .ok (s.found (.outlet .command) cs)
      else
        match longSigns.find? (·.isPrefixOf rest) with
        | some sign =>
          let t := Token.sign (String.ofList sign)
          if sign == ['&', '&'] || sign == ['|', '|'] then .ok (s.openFound t (rest.drop 2))
          else .ok (s.found t (rest.drop 2))
        | none =>
          if c == '<' && s.isReading then .ok ({ s with isReading := false }.found .inlet cs)
          else if shortSigns.contains c then .ok (s.found (.sign c.toString) cs)
          else .ok (s.found (.unknown c) cs)

end Scanner
end SysReg.Shell.Records
