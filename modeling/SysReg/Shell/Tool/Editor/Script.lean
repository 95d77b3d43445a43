import SysReg.Shell.Regex.Reading

/-!
# Scripts of the line editor

A script of the editor is a row of commands, each with the lines that it is for. A command that leads
elsewhere holds the number of the command it leads to.
-/

namespace SysReg.Shell

/-- An expression that lines are searched for, or else the one that was in use last. -/
structure LinePattern where
  regex : Option Regex
  foldsCase : Bool
  byLine : Bool
  deriving DecidableEq, Repr

/-- A line, by its number or by what is in it. -/
inductive LineAddress where
  | number (n : Nat)
  /-- The first line and each that is so many lines further on. -/
  | every (first step : Nat)
  | last
  | containing (p : LinePattern)
  deriving DecidableEq, Repr

/-- Where a range of lines ends. -/
inductive RangeEnd where
  | at (a : LineAddress)
  /-- So many lines further on. -/
  | further (n : Nat)
  /-- At the next line whose number is a multiple. -/
  | multiple (n : Nat)
  deriving DecidableEq, Repr

/-- The lines that a command is for. -/
structure LineChoice where
  first : Option LineAddress
  stop : Option RangeEnd
  /-- The command is for the other lines. -/
  isNegated : Bool
  deriving DecidableEq, Repr

/-- How the case of letters is changed. -/
inductive CaseChange where
  | upper
  | lower
  | none
  deriving DecidableEq, Repr

/-- A part of what is put in the place of a match. -/
inductive NewPart where
  | one (c : Char)
  /-- The text of a group. -/
  | group (n : Nat)
  /-- From here on letters are changed. -/
  | all (change : CaseChange)
  /-- The next letter is changed. -/
  | next (change : CaseChange)
  deriving DecidableEq, Repr

/-- Putting something in the place of matches. -/
structure Substitution where
  pattern : LinePattern
  new : List NewPart
  /-- The match to begin with. -/
  first : Nat
  /-- The matches after it are replaced too. -/
  goesOn : Bool
  prints : Bool
  /-- The result is a command, whose output takes its place. -/
  runs : Bool
  /-- A file that gets the result. -/
  target : Option String
  deriving DecidableEq, Repr

/-- When a command leads elsewhere. -/
inductive LeapCondition where
  | always
  /-- Something was replaced. -/
  | afterSuccess
  | afterFailure
  deriving DecidableEq, Repr

/-- What a command does. There is the line at work, and one that is kept. -/
inductive EditAction where
  /-- Nothing. -/
  | rest
  /-- Goes on behind a block, for lines that it is not for. -/
  | block (stop : Nat)
  | leap (condition : LeapCondition) (target : Nat)
  | print (onlyFirst : Bool)
  | delete (onlyFirst : Bool)
  | next (appended : Bool)
  | recall (appended : Bool)
  | keep (appended : Bool)
  | exchange
  | clear
  | number
  | name
  /-- Shows all characters, in pieces of a width. -/
  | show (width : Option Nat)
  | before (text : List Char)
  | after (text : List Char)
  | change (text : List Char)
  | quit (printing : Bool) (status : Nat)
  | readFile (path : String)
  | readLine (path : String)
  | write (onlyFirst : Bool) (path : String)
  | substitute (s : Substitution)
  | exchangeLetters (pairs : List (Char × Char))
  | execute (command : List Char)
  deriving DecidableEq, Repr

/-- A command. -/
structure EditCommand where
  choice : LineChoice
  action : EditAction
  deriving DecidableEq, Repr

end SysReg.Shell
