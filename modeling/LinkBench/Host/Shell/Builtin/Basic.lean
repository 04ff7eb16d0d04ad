import LinkBench.Host.Shell.Builtin.Usage
import LinkBench.Host.Shell.Quoted
import LinkBench.Host.Shell.State
/-!
What commands of the shell have in common: their options and their numbers. Such a command takes its
arguments and yields its exit status.
-/

namespace LinkBench.Host.Shell.Builtin

open Eval

inductive OptionFault
  | unknown (letter : Char)
  | missing (letter : Char)

/-- The letters of one argument behind its sign, given the letters that are known and whether they
take a value, which may be the next argument. Yields the options and the arguments left. -/
def readLetters (known : List (Char × Bool)) :
    List Char → List String → Except OptionFault (List (Char × String) × List String)
  | [], rest => .ok ([], rest)
  | c :: cs, rest =>
    match known.lookup c with
    | none => .error (.unknown c)
    | some false => do
      let (options, rest) ← readLetters known cs rest
      return ((c, "") :: options, rest)
    | some true =>
      match cs, rest with
      | [], [] => .error (.missing c)
      | [], value :: rest => .ok ([(c, value)], rest)
      | cs, rest => .ok ([(c, String.ofList cs)], rest)

/-- Splits the options off that stand in front; the fuel bounds the number of arguments. -/
def readOptions (known : List (Char × Bool)) :
    Nat → List String → Except OptionFault (List (Char × String) × List String)
  | 0, arguments => .ok ([], arguments)
  | _, [] => .ok ([], [])
  | _, "--" :: rest => .ok ([], rest)
  | fuel + 1, a :: rest =>
    match a.toList with
    | '-' :: c :: cs => do
      let (options, rest) ← readLetters known (c :: cs) rest
      let (others, rest) ← readOptions known fuel rest
      return (options ++ others, rest)
    | _ => .ok ([], a :: rest)

/-- The letters of options; one with a value is followed by a colon. -/
def knownLetters (spelled : String) : List (Char × Bool) :=
  let cs := spelled.toList
  (cs.zip (cs.tail ++ [' '])).filterMap fun (c, next) =>
    if c = ':' then none else some (c, next == ':')

/-- Says how the command that speaks is to be called. -/
def tellUsage : Eval Nat := do
  let command := (← get).speaker.getD ""
  printError s!"{command}: usage: {(usages.lookup command).getD command}\n"
  return 2

/-- Runs a command with its options read; those that it does not know are refused. -/
def withOptions (spelled : String) (arguments : List String)
    (body : List (Char × String) → List String → Eval Nat) : Eval Nat := do
  match readOptions (knownLetters spelled) (arguments.length + 1) arguments with
  | .ok (options, rest) => body options rest
  | .error (.unknown c) => do
    let letter := String.singleton c
    if ← isExtended then
      report s!"-{letter}: invalid option"
      tellUsage
    else
      refuse s!"Illegal option -{letter}"
  | .error (.missing c) => do
    let letter := String.singleton c
    if ← isExtended then
      report s!"-{letter}: option requires an argument"
      tellUsage
    else
      refuse s!"No arg for -{letter} option"

def hasOption (options : List (Char × String)) (letter : Char) : Bool :=
  options.any (·.1 == letter)

/-- Runs a command with a number read from an argument. -/
def withNumber (text : String) (body : Nat → Eval Nat) : Eval Nat := do
  match number? text with
  | some n => body n
  | none =>
    if ← isExtended then
      report s!"{text}: numeric argument required"
      return 2
    else
      refuse s!"Illegal number: {text}"

/-- The variables in the order of their names. -/
def sortedVariables (s : State) : List Variable :=
  s.bindings.mergeSort fun a b => decide (a.name ≤ b.name)

end LinkBench.Host.Shell.Builtin
