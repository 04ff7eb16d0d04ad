import LinkBench.Path
/-!
Words and commands of the shell language. A word is a row of parts: text, references to parameters,
commands and arithmetic, each either inside quotes or not; in a command it stands together with the
text that it was read from. Two dialects share the tree; what only the larger one has is said to be so.
The texts of inline documents are kept apart, by number.
-/

namespace LinkBench.Host.Shell

/-- The two languages: a small one, and a larger one that has lists, conditions and more. -/
inductive Dialect
  | plain
  | extended
  deriving DecidableEq, Repr

/-- What is done with the value of a parameter. -/
inductive Usage
  | value
  | length
  /-- Takes the operand where the parameter is unset, or also where it is empty. -/
  | orDefault (orEmpty : Bool)
  | orAssign (orEmpty : Bool)
  | orFail (orEmpty : Bool)
  /-- Takes the operand where the parameter has a value. -/
  | alternative (orEmpty : Bool)
  | withoutStart (longest : Bool)
  | withoutEnd (longest : Bool)
  /-- A part by offset and length; only in the extended dialect, like all below. -/
  | slice
  | replace (everywhere : Bool) (anchor : Option Char)
  | upper (all : Bool)
  | lower (all : Bool)
  | swapCase (all : Bool)
  /-- Another form of the value, by a letter. -/
  | form (letter : Char)
  /-- The names that begin with a text. -/
  | names
  /-- The indices of a list. -/
  | keys
  /-- What is between the braces makes no sense. -/
  | invalid
  deriving DecidableEq, Repr

inductive RedirectKind
  | read
  | write
  /-- Writes even to a file that is to be kept. -/
  | overwrite
  | append
  | readWrite
  /-- To where another descriptor leads; `isWriter` says which arrow it was. -/
  | duplicate (isWriter : Bool)
  /-- The standard output and the standard error together. -/
  | writeBoth
  | appendBoth
  deriving DecidableEq, Repr

/-- What happens behind an arm of a choice that has been run. -/
inductive ArmEnd
  | leave
  /-- The next arm is run too. -/
  | fallThrough
  /-- The next arms are tried. -/
  | tryNext
  deriving DecidableEq, Repr

/-- What a redirection is about: a descriptor, or a variable that a new one is kept in. -/
inductive Descriptor
  | number (n : Nat)
  | variable (name : String)
  deriving DecidableEq, Repr

mutual

inductive Part
  | text (s : String) (quoted : Bool)
  /-- A pair of quotes, which makes a field even if nothing is between them. -/
  | quotes
  /-- A reference; the subscript is empty if there is none. An indirect one is to the parameter that the
  named one names. -/
  | parameter (name : String) (subscript : List Part) (isIndirect : Bool) (usage : Usage)
      (operands : List (List Part)) (quoted : Bool)
  | command (body : Command) (quoted : Bool)
  | arithmetic (expression : List Part) (quoted : Bool)
  /-- The name of a file that leads to or from a command. -/
  | connection (isWriter : Bool) (body : Command)
  /-- The elements that a declaration gives a list; they are no part of the argument. -/
  | elements (appended : Bool) (values : List (List Part))

inductive Assignment
  | scalar (name : String) (subscript : List Part) (appended : Bool) (value : List Part)
  | list (name : String) (appended : Bool) (values : List (List Part))

inductive Redirect
  | file (descriptor : Descriptor) (kind : RedirectKind) (target : String × List Part)
  | document (descriptor : Descriptor) (number : Nat) (delimiter : String) (strips : Bool)
  /-- A word as the text to read. -/
  | word (descriptor : Descriptor) (text : String × List Part)

/-- A condition of the extended dialect. -/
inductive Condition
  | word (w : String × List Part)
  | unary (operator : String) (w : String × List Part)
  | binary (operator : String) (a b : String × List Part)
  | negation (c : Condition)
  | both (a b : Condition)
  | either (a b : Condition)
  | group (c : Condition)

inductive Command
  | skip
  | simple (line : Nat) (assignments : List (String × Assignment))
      (words : List (String × List Part)) (redirects : List Redirect)
  | pipeline (stages : List Command)
  | negate (c : Command)
  | both (first second : Command)
  | either (first second : Command)
  | sequence (first second : Command)
  | background (c : Command)
  | subshell (line : Nat) (body : Command) (redirects : List Redirect)
  /-- Commands between braces. -/
  | group (body : Command)
  | conditional (test yes : Command) (no : Option Command)
  /-- Repeats the body while the test succeeds, or until it does. -/
  | loop (untilSuccess : Bool) (test body : Command)
  /-- Runs the body once for each word, or for each positional parameter. -/
  | each (line : Nat) (name : String) (words : Option (List (String × List Part))) (body : Command)
  | choose (line : Nat) (subject : String × List Part)
      (arms : List (List (String × List Part) × Command × ArmEnd))
  | define (name : String) (body : Command)
  | redirected (line : Nat) (c : Command) (redirects : List Redirect)
  | compute (line : Nat) (expression : String × List Part)
  | count (line : Nat) (start test step : String × List Part) (body : Command)
  | check (line : Nat) (c : Condition)
  /-- Lets the user pick one of the words again and again, and runs the body for each answer. -/
  | pick (line : Nat) (name : String) (words : Option (List (String × List Part))) (body : Command)
  /-- Runs a command in the background with pipes to and from it. -/
  | partner (line : Nat) (name : String) (c : Command)
  /-- Says how long a command has taken. -/
  | timed (isPlain : Bool) (c : Command)

end

abbrev Word := List Part

/-- A word with the text that it was read from. -/
abbrev Written := String × Word

/-- The line that a command begins in, as far as it is known. -/
def Command.line? : Command → Option Nat
  | .simple line .. | .subshell line .. | .each line .. | .choose line .. | .redirected line ..
  | .compute line _ | .count line .. | .check line _ | .pick line .. | .partner line .. => some line
  | .pipeline (c :: _) | .negate c | .both c _ | .either c _ | .sequence c _ | .background c
  | .conditional c .. | .loop _ c _ | .group c | .timed _ c => c.line?
  | _ => none

namespace Word

/-- The text of a word without quotes and expansions. -/
def bareText? (w : Word) : Option String :=
  (w.mapM fun part =>
    match part with
    | Part.text s false => some s
    | _ => none).map String.join

/-- The text of a word whose quotes are taken off; other parts are left out. -/
def plainText (w : Word) : String :=
  String.join (w.map fun part =>
    match part with
    | Part.text s _ => s
    | _ => "")

def isQuoted (w : Word) : Bool :=
  w.any fun part =>
    match part with
    | Part.text _ quoted => quoted
    | Part.quotes => true
    | _ => false

end Word

def isNameStart (c : Char) : Bool := c.isAlpha || c == '_'

def isNameChar (c : Char) : Bool := c.isAlphanum || c == '_'

def isName (text : String) : Bool :=
  match text.toList with
  | [] => false
  | c :: cs => isNameStart c && cs.all isNameChar

/-- Splits the name off that an assignment begins with, up to the sign of equality. -/
def splitAssignment? (text : String) : Option (String × String) :=
  let cs := text.toList
  let name := cs.takeWhile isNameChar
  match cs.drop name.length with
  | '=' :: value =>
    if name.head?.any isNameStart then some (String.ofList name, String.ofList value) else none
  | _ => none

/-- A command whose errors go where its output goes. -/
def Command.withErrors (line : Nat) (c : Command) : Command :=
  let r : Redirect := .file (.number 2) (.duplicate true) ("1", [.text "1" false])
  match c with
  | .simple line assignments words redirects => .simple line assignments words (redirects ++ [r])
  | c => .redirected line c [r]

end LinkBench.Host.Shell
