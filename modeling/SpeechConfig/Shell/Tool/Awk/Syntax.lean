/-
# Programs for records

A program for records is a row of rules, each with a pattern and an action, together with
functions.  Texts, numbers and tables of them are its values.
-/
import SpeechConfig.Shell.Octets

namespace SpeechConfig.Shell.Awk

/-- How two values are put together. -/
inductive Operator where
  | add
  | sub
  | mul
  | div
  | rem
  | power
deriving DecidableEq, Repr, Inhabited

inductive Comparison where
  | less
  | lessEqual
  | equal
  | unequal
  | greater
  | greaterEqual
deriving DecidableEq, Repr, Inhabited

/-- Where a reading of a line takes it from. -/
inductive LineSource where
  | records
  | file
  | command
deriving DecidableEq, Repr, Inhabited

inductive Expr where
  | number (x : Float)
  | text (s : String)
  | regex (s : String)
  | var (name : String)
  | element (table : String) (subscripts : List Expr)
  | field (e : Expr)
  | tuple (es : List Expr)
  | assign (target : Expr) (op : Option Operator) (e : Expr)
  | step (target : Expr) (up isFront : Bool)
  | choice (c a b : Expr)
  | both (a b : Expr)
  | either (a b : Expr)
  | member (subscripts : List Expr) (table : String)
  | matching (negated : Bool) (e r : Expr)
  | compare (c : Comparison) (a b : Expr)
  | concat (a b : Expr)
  | binary (op : Operator) (a b : Expr)
  | negate (e : Expr)
  | plus (e : Expr)
  | not (e : Expr)
  | call (name : String) (args : List Expr)
  | standard (name : String) (args : Option (List Expr))
  | readLine (source : LineSource) (from? : Option Expr) (target : Option Expr)
deriving Inhabited

inductive OutputKind where
  | fresh
  | extend
  | command
deriving DecidableEq, Repr, Inhabited

inductive Stmt where
  | nothing
  | expr (e : Expr)
  | print (args : List Expr) (goal : Option (OutputKind × Expr))
  | format (args : List Expr) (goal : Option (OutputKind × Expr))
  | block (body : List Stmt)
  | choose (test : Expr) (whenTrue whenFalse : Stmt)
  | loop (test : Expr) (body : Stmt)
  | loopAfter (body : Stmt) (test : Expr)
  | counted (start : Stmt) (test : Option Expr) (next body : Stmt)
  | forEach (name table : String) (body : Stmt)
  | next
  | nextFile
  | exit (e : Option Expr)
  | leave
  | again
  | answer (e : Option Expr)
  | forget (table : String) (subscripts : Option (List Expr))
deriving Inhabited

/-- When a rule is for a record. -/
inductive Pattern where
  | start
  | finish
  | always
  | test (e : Expr)
  | range (first last : Expr)
deriving Inhabited

/-- A rule; without an action the record is shown. -/
structure Rule where
  pattern : Pattern
  action : Option Stmt
deriving Inhabited

/-- A function.  `tables` are the names that are used as tables in it, and `passed` the names
that it gives to functions, each with the function and the place among its arguments. -/
structure Function where
  name : String
  parameters : List String
  body : Stmt
  tables : List String
  passed : List (String × String × Nat)
deriving Inhabited

structure Program where
  rules : List Rule := []
  functions : List Function := []
deriving Inhabited

end SpeechConfig.Shell.Awk
