import LinkBench.Host.Shell.Command
/-!
What is wrong with a script that cannot be read, and how each dialect tells it. The larger dialect also
shows the line; what was left of the script when the fault was met says which one that is.
-/

namespace LinkBench.Host.Shell

inductive Mistake
  /-- A token stands where it cannot, perhaps in the place of another. -/
  | unexpected (found : String) (expected : Option String)
  | unterminatedQuote (quote : Char)
  | missingBrace
  | missingParentheses
  | endInBackquotes
  | badLoopVariable (name : String)
  | badFunctionName
  | badDescriptor (text : String)
  /-- A command inside of a word has no end. -/
  | endInSubstitution
  /-- A condition is wrong, for a reason that is told before the token. -/
  | badCondition (reason token : String)
  /-- A condition has no end. -/
  | endInCondition
  /-- A loop over numbers has not three expressions. -/
  | badCounting (reason text : String)
  deriving DecidableEq, Repr

/-- What the fault makes of the script around it. -/
inductive FaultPlace
  | command
  | substitution
  /-- Among the elements of a list; what stands on later lines is still read. -/
  | elements
  deriving DecidableEq, Repr

structure Fault where
  line : Nat
  mistake : Mistake
  /-- The line in which began what has no end. -/
  opening : Option Nat
  place : FaultPlace
  /-- How much of the script was left. -/
  left : Nat
  deriving DecidableEq, Repr

namespace Mistake

/-- What a token that is no token is called at the end of a script. -/
def endName : String := "end of file"

/-- How the plain dialect puts it. -/
def plainText : Mistake → String
  | .unexpected found none => s!"{found} unexpected"
  | .unexpected found (some expected) => s!"{found} unexpected (expecting {expected})"
  | .unterminatedQuote _ => "Unterminated quoted string"
  | .missingBrace => "Missing '\x7d'"
  | .missingParentheses => "Missing '))'"
  | .endInBackquotes => "EOF in backquote substitution"
  | .badLoopVariable _ => "Bad for loop variable"
  | .badFunctionName => "Bad function name"
  | .badDescriptor _ => "Bad fd number"
  | .endInSubstitution | .endInCondition => s!"{endName} unexpected"
  | .badCondition _ token => s!"{token} unexpected"
  | .badCounting _ text => s!"{text} unexpected"

/-- A token in messages of the extended dialect, without its quotes. -/
def bareToken (text : String) : String :=
  if text.startsWith "\"" then ((text.drop 1).dropEnd 1).toString else text

/-- The sign that is missing at the end of a script. -/
def closer? : Mistake → Option Char
  | .unterminatedQuote quote => some quote
  | .missingBrace => some '\x7d'
  | .missingParentheses | .endInSubstitution => some ')'
  | .endInBackquotes => some '\x60'
  | _ => none

end Mistake

/-- A line of a message of the extended dialect: the number of a line, and what is said. -/
abbrev FaultLine := Nat × String

namespace Fault

/-- The number and the text of the line in which the last token was read. -/
def offence (start : List Char) (line : Nat) (f : Fault) : FaultLine :=
  let place := start.length - f.left - 1
  let before := start.take place
  let behind := (before.reverse.takeWhile (· != '\n')).reverse
  (line + (before.filter (· == '\n')).length,
    String.ofList (behind ++ (start.drop place).takeWhile (· != '\n')))

/-- The number of the line behind the last one. -/
def endLine (start : List Char) (line : Nat) : Nat :=
  line + (start.filter (· == '\n')).length + (if start.getLast? = some '\n' then 0 else 1)

/-- How the extended dialect puts it, given the script from a line on. -/
def extendedLines (start : List Char) (line : Nat) (f : Fault) : List FaultLine :=
  let (number, text) := f.offence start line
  let last := endLine start line
  let opening := f.opening.getD number
  let shown : FaultLine := (number, s!"\x60{text}'")
  match f.mistake with
  | .unexpected found _ =>
    if found = Mistake.endName then [(last, "syntax error: unexpected end of file")]
    else
      let token := Mistake.bareToken found
      [(number, s!"syntax error near unexpected token \x60{token}'"), shown]
  | .endInSubstitution => [(last, "unexpected EOF while looking for matching \x60)'")]
  | .badLoopVariable name => [(number, s!"\x60{name}': not a valid identifier")]
  | .badFunctionName => [(number, "not a valid identifier")]
  | .badDescriptor text => [(number, s!"{text}: ambiguous redirect")]
  | .badCondition reason token =>
    [(number, reason), (number, s!"syntax error near \x60{token}'"), shown]
  | .endInCondition =>
    [(opening, "unexpected EOF while looking for \x60]]'"),
      (last, "syntax error: unexpected end of file")]
  | .badCounting reason text =>
    [(number, s!"syntax error: {reason}"), (number, s!"syntax error: \x60{text}'")]
  | mistake =>
    let sign := String.singleton (mistake.closer?.getD ')')
    [(opening, s!"unexpected EOF while looking for matching \x60{sign}'")]

end Fault

end LinkBench.Host.Shell
