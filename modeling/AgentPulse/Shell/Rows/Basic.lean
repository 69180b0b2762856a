import AgentPulse.Shell.Regex

/-!
# Scripts for rows

A script is a list of rules. Each rule says for which rows of a text it is meant, and what is done
then. A row is parted into cells. Expressions have numbers and texts as their values.
-/

namespace AgentPulse.Shell.Rows

/-- How two values are compared. -/
inductive Relation where
  | less
  | atMost
  | same
  | other
  | atLeast
  | more
  deriving DecidableEq, Repr, Inhabited

/-- Where a row is read from on demand. -/
inductive Source where
  | input
  | file
  | command
  deriving DecidableEq, Repr, Inhabited

/-- An expression. -/
inductive Expr where
  | number (x : Float)
  | text (cs : Raw)
  /-- Whether a pattern is in the row; as an operand, the pattern itself. -/
  | pattern (r : Regex) (source : Raw)
  | named (name : Raw)
  /-- What is in an array under a key; several keys make one. -/
  | item (name : Raw) (keys : List Expr)
  | cell (number : Expr)
  | assign (target value : Expr)
  | update (op : Char) (target value : Expr)
  /-- One more or less; the value is the one before or the one afterwards. -/
  | count (isUp isBefore : Bool) (target : Expr)
  | choose (condition whenTrue whenFalse : Expr)
  | both (a b : Expr)
  | either (a b : Expr)
  | opposite (a : Expr)
  | signed (isNegative : Bool) (a : Expr)
  | contains (keys : List Expr) (name : Raw)
  | fits (isOpposite : Bool) (a pattern : Expr)
  | compared (r : Relation) (a b : Expr)
  | joined (a b : Expr)
  | computed (op : Char) (a b : Expr)
  | group (es : List Expr)
  | call (name : Raw) (args : List Expr)
  | builtin (name : String) (args : List Expr)
  | readRow (target : Option Expr) (source : Source) (place : Option Expr)
  deriving Inhabited

/-- Where output goes instead. -/
inductive Outlet where
  | file (path : Expr)
  | fileEnd (path : Expr)
  | command (text : Expr)
  deriving Inhabited

/-- A statement. -/
inductive Statement where
  | nothing
  | value (e : Expr)
  | print (args : List Expr) (outlet : Option Outlet)
  | format (args : List Expr) (outlet : Option Outlet)
  | branch (condition : Expr) (whenTrue whenFalse : Statement)
  | repeats (condition : Option Expr) (body step : Statement)
  | atLeastOnce (body : Statement) (condition : Expr)
  | forKeys (name array : Raw) (body : Statement)
  | sequence (statements : List Statement)
  | next
  | exit (e : Option Expr)
  | leave
  | again
  | back (e : Option Expr)
  | remove (name : Raw) (keys : List Expr)
  deriving Inhabited

/-- When a rule is carried out. -/
inductive Moment where
  | start
  | finish
  | always
  | whenever (e : Expr)
  /-- From a row to another; ranges are numbered. -/
  | range (n : Nat) (first last : Expr)
  deriving Inhabited

/-- A rule. -/
structure Rule where
  moment : Moment
  body : Statement
  deriving Inhabited

/-- A function. -/
structure Function where
  parameters : List Raw
  body : Statement
  deriving Inhabited

/-- A script. -/
structure Script where
  rules : List Rule := []
  functions : List (Raw × Function) := []
  deriving Inhabited

end AgentPulse.Shell.Rows
