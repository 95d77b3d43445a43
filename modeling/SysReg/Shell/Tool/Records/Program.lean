import SysReg.Shell.Regex.Basic

/-!
# Programs on records

A program goes over records, each of which is cut into fields. It is a list of rules: what triggers a rule,
and what is then done.
-/

namespace SysReg.Shell.Records

/-- A variable: one that a function has for itself, by its place, or one that all share. -/
inductive Variable where
  | own (place : Nat)
  | shared (name : String)
  deriving DecidableEq, Repr

/-- What two numbers are put together by. -/
inductive Operation where
  | plus
  | minus
  | times
  | over
  | rest
  | power
  deriving DecidableEq, Repr

/-- How two values are compared. -/
inductive Relation where
  | less
  | atMost
  | equal
  | unequal
  | atLeast
  | greater
  deriving DecidableEq, Repr

/-- The functions that every program has. -/
inductive Primitive where
  | length
  | index
  | substring
  | formatted
  | sine
  | cosine
  | arcTangent
  | exponential
  | logarithm
  | integer
  | root
  | random
  | seed
  | close
  | system
  | upper
  | lower
  | flush
  | now
  | timeOf
  | timeText
  deriving DecidableEq, Repr

/-- Where lines are read from beside the records. -/
inductive Origin where
  | records
  | file
  | command
  deriving DecidableEq, Repr

/-- Where output goes. -/
inductive Outlet where
  | file
  /-- All is written to the end of a file. -/
  | fileEnd
  | command
  deriving DecidableEq, Repr

mutual

/-- What has a value. -/
inductive Expr where
  | number (x : Float)
  | text (cs : List Char)
  /-- The record matches. -/
  | matchesRecord (r : Regex)
  | get (p : Place)
  | assign (p : Place) (o : Option Operation) (e : Expr)
  /-- One is added or taken away, and the value is the one after or before that. -/
  | step (isUp isAfter : Bool) (p : Place)
  | combine (o : Operation) (a b : Expr)
  | negative (e : Expr)
  | numeric (e : Expr)
  | not (e : Expr)
  | compare (r : Relation) (a b : Expr)
  | join (a b : Expr)
  | isMatch (isNegated : Bool) (e pattern : Expr)
  | both (a b : Expr)
  | oneOf (a b : Expr)
  | choose (c a b : Expr)
  | contains (table : Variable) (subscripts : List Expr)
  | call (name : String) (arguments : List Expr)
  | apply (f : Primitive) (arguments : List Expr)
  | size (v : Variable)
  | split (e : Expr) (table : Variable) (separator : Option Expr)
  | find (e pattern : Expr)
  | replace (all : Bool) (pattern replacement : Expr) (p : Place)
  | readLine (o : Origin) (source : Expr) (target : Option Place)

/-- What can be given a value. -/
inductive Place where
  | variable (v : Variable)
  | element (table : Variable) (subscripts : List Expr)
  | field (e : Expr)

end

/-- What is done. -/
inductive Statement where
  | empty
  | block (ss : List Statement)
  | value (e : Expr)
  | print (es : List Expr) (target : Option (Outlet × Expr))
  | printForm (es : List Expr) (target : Option (Outlet × Expr))
  | branch (c : Expr) (yes no : Statement)
  | whileTrue (c : Expr) (body : Statement)
  | untilFalse (body : Statement) (c : Expr)
  | count (first condition step : Option Expr) (body : Statement)
  | forEach (v table : Variable) (body : Statement)
  | delete (table : Variable) (subscripts : List Expr)
  | clear (table : Variable)
  | break
  | continue
  | next
  | nextFile
  | exit (e : Option Expr)
  | return (e : Option Expr)

/-- When a rule is carried out. -/
inductive Trigger where
  | atStart
  | atEnd
  | always
  | when (e : Expr)
  /-- From the records on for which the first is true up to those for which the second is. -/
  | between (first last : Expr)

/-- A rule, which prints the record if nothing is said. -/
structure Rule where
  trigger : Trigger
  body : Option Statement

/-- A function of a program. -/
structure Routine where
  name : String
  parameters : Nat
  body : Statement

/-- A program. -/
structure Program where
  rules : List Rule
  routines : List Routine

end SysReg.Shell.Records
