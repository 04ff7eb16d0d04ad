import LinkBench.Host.Regex.Reader
/-!
Scripts of the stream editor: commands in a row, each with a choice of the lines that it is for. A block
is a command that is passed over together with what stands in it where it is not for the line; jumps
go to places of the row.
-/

namespace LinkBench.Host.Utility.Sed

/-- An expression in a script; an empty one stands for the one that was used last. -/
structure Expression where
  regex : Option Regex
  ignoresCase : Bool
  hasLines : Bool

/-- Which line begins a choice. -/
inductive Address
  | line (n : Nat)
  /-- Every so many lines from one on. -/
  | step (first step : Nat)
  | last
  | pattern (e : Expression)
  /-- In front of the first line. -/
  | start

/-- Which line ends a choice of several lines. -/
inductive Limit
  | line (n : Nat)
  | count (n : Nat)
  | multiple (n : Nat)
  | last
  | pattern (e : Expression)

structure Choice where
  first : Option Address
  limit : Option Limit
  isNegated : Bool

/-- How letters are written from a place of a replacement on. -/
inductive Case
  | upper
  | lower
  | upperNext
  | lowerNext
  | asIs
  deriving DecidableEq

inductive Piece
  | text (s : String)
  | group (n : Nat)
  | case (c : Case)

structure Substitution where
  expression : Expression
  replacement : List Piece
  /-- The number of the first match that is replaced. -/
  least : Nat
  isGlobal : Bool
  prints : Bool
  target : Option String

inductive Condition
  | always
  | replaced
  | notReplaced

inductive Command
  /-- Goes on behind the block if it is not for the line. -/
  | block (behind : Nat)
  | nothing
  | append (text : String)
  | insert (text : String)
  | change (text : String)
  | jump (c : Condition) (target : Nat)
  | delete
  | deleteFirst
  | print
  | printFirst
  | get
  | getAppend
  | hold
  | holdAppend
  | exchange
  | next
  | nextAppend
  | lineNumber
  | fileName
  | list (width : Option Nat)
  | quit (status : Nat)
  | quitSilently (status : Nat)
  | readFile (name : String)
  | readLine (name : String)
  | writeFile (name : String)
  | writeFirst (name : String)
  | substitute (s : Substitution)
  | translate (table : List (Char × Char))
  | zap

structure Step where
  choice : Choice
  command : Command

/-- The files that a command writes to. -/
def Command.targets : Command → List String
  | .writeFile name | .writeFirst name => [name]
  | .substitute s => s.target.toList
  | _ => []

end LinkBench.Host.Utility.Sed
