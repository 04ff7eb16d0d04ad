import LinkBench.Host.Regex
import LinkBench.Host.Utility.Awk.Value
/-!
Programs that are run on every line of a text: rules with conditions and actions, and functions. A rule
without an action prints the line, and one without a condition is for every line.
-/

namespace LinkBench.Host.Utility.Awk

inductive Calculation
  | add
  | subtract
  | multiply
  | divide
  | remainder
  | power
  deriving DecidableEq

/-- The functions that every program has. -/
inductive Builtin
  | length
  | substr
  | index
  | split
  | sub
  | gsub
  | matching
  | sprintf
  | sin
  | cos
  | atan2
  | exp
  | log
  | sqrt
  | int
  | rand
  | srand
  | tolower
  | toupper
  | system
  | close
  | fflush
  | systime
  | strftime
  | mktime
  deriving DecidableEq

namespace Builtin

/-- The names of functions, with the least and the greatest number of arguments. -/
def table : List (String × Builtin × Nat × Nat) :=
  [("length", .length, 0, 1), ("substr", .substr, 2, 3), ("index", .index, 2, 2),
    ("split", .split, 2, 3), ("sub", .sub, 2, 3), ("gsub", .gsub, 2, 3), ("match", .matching, 2, 2),
    ("sprintf", .sprintf, 1, 255), ("sin", .sin, 1, 1), ("cos", .cos, 1, 1),
    ("atan2", .atan2, 2, 2), ("exp", .exp, 1, 1), ("log", .log, 1, 1), ("sqrt", .sqrt, 1, 1),
    ("int", .int, 1, 1), ("rand", .rand, 0, 0), ("srand", .srand, 0, 1),
    ("tolower", .tolower, 1, 1), ("toupper", .toupper, 1, 1), ("system", .system, 1, 1),
    ("close", .close, 1, 1), ("fflush", .fflush, 0, 1), ("systime", .systime, 0, 0),
    ("strftime", .strftime, 0, 3), ("mktime", .mktime, 1, 1)]

end Builtin

mutual

inductive Expr
  | number (x : Float)
  | text (s : String)
  /-- Whether an expression is found in the line. -/
  | pattern (r : Regex)
  | value (p : Target)
  | assign (p : Target) (calculation : Option Calculation) (e : Expr)
  /-- Counts up or down; the value is the one before or the one behind. -/
  | count (p : Target) (isUp isBefore : Bool)
  | calculate (c : Calculation) (a b : Expr)
  | negate (e : Expr)
  | plus (e : Expr)
  | not (e : Expr)
  | relation (r : Value.Relation) (a b : Expr)
  | concat (a b : Expr)
  | both (a b : Expr)
  | either (a b : Expr)
  | choose (condition a b : Expr)
  | finds (isNegated : Bool) (a pattern : Expr)
  | isIn (keys : List Expr) (array : String)
  | call (function : String) (arguments : List Expr)
  | builtin (f : Builtin) (arguments : List Expr)
  | getline (source : Source) (target : Option Target)

/-- What can be given a value. -/
inductive Target
  | variable (name : String)
  | field (e : Expr)
  | element (array : String) (keys : List Expr)

/-- Where a line is read from. -/
inductive Source
  | main
  | file (e : Expr)
  | command (e : Expr)

end

instance : Inhabited Expr := ⟨.number 0⟩

inductive OutputKind
  | file
  | append
  | command
  deriving DecidableEq

inductive Statement
  | expression (e : Expr)
  | print (arguments : List Expr) (target : Option (OutputKind × Expr))
  | printf (arguments : List Expr) (target : Option (OutputKind × Expr))
  | ifElse (condition : Expr) (yes no : Statement)
  | whileLoop (condition : Expr) (body : Statement)
  | doLoop (body : Statement) (condition : Expr)
  | forLoop (start : Statement) (condition : Option Expr) (step body : Statement)
  | forKeys (name array : String) (body : Statement)
  | block (ss : List Statement)
  | next
  | nextFile
  | exit (status : Option Expr)
  | leave
  | again
  | give (value : Option Expr)
  | delete (array : String) (keys : List Expr)

inductive Condition
  | start
  | finish
  | always
  | when (e : Expr)
  | range (first last : Expr)

structure Rule where
  condition : Condition
  action : Option Statement

structure Function where
  name : String
  parameters : List String
  body : Statement

structure Program where
  rules : List Rule
  functions : List Function

namespace Program

/-- What is done before the first line, or behind the last one. -/
def actionsAt (p : Program) (isStart : Bool) : List Statement :=
  p.rules.filterMap fun r =>
    match r.condition, r.action with
    | .start, some s => if isStart then some s else none
    | .finish, some s => if isStart then none else some s
    | _, _ => none

/-- The rules for lines. -/
def lineRules (p : Program) : List Rule :=
  p.rules.filter fun r =>
    match r.condition with
    | .start | .finish => false
    | _ => true

/-- Whether the program has rules that lines are read for. -/
def readsLines (p : Program) : Bool :=
  !p.lineRules.isEmpty || !(p.actionsAt false).isEmpty

end Program

end LinkBench.Host.Utility.Awk
