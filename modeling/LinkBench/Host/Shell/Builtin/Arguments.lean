import LinkBench.Host.Shell.Builtin.Variables
/-!
Options of scripts, read one after the other. Each dialect remembers in its own way how far it has read: the
plain one by a place in the arguments, the extended one by the letters that are left of the last argument.
-/

namespace LinkBench.Host.Shell

/-- What comes next among the arguments of a script. -/
inductive OptionStep
  | ended
  | unknown (letter : Char)
  /-- An option without the value that it has to have. -/
  | missing (letter : Char)
  | found (letter : Char) (value : Option String)
  deriving DecidableEq, Repr

namespace OptionPlace

/-- Whether a letter is among those that are spelled out, and whether a colon behind it says that it takes
a value. -/
def kind? (spelled : List Char) (letter : Char) : Option Bool :=
  if letter = ':' then none
  else
    match spelled.dropWhile (· != letter) with
    | [] => none
    | _ :: behind => some (behind.head? == some ':')

/-- Takes a letter from an argument, of which others may be left. The index is that of the argument
behind, and `place` says where reading goes on in the argument or behind it. -/
def take (spelled : List Char) (operands : List String) (letter : Char) (left : List Char)
    (next : Nat) (place : OptionPlace) : OptionStep × OptionPlace :=
  match kind? spelled letter with
  | none => (.unknown letter, place)
  | some false => (.found letter none, place)
  | some true =>
    if left ≠ [] then (.found letter (some (String.ofList left)), .atArgument next)
    else
      match operands[next - 1]? with
      | some value => (.found letter (some value), .atArgument (next + 1))
      | none => (.missing letter, .atArgument next)

/-- The next option where places are offsets. -/
def nextPlain (p : OptionPlace) (operands : List String) (spelled : List Char) :
    OptionStep × OptionPlace :=
  let p := if operands.length + 1 < p.index then .start else p
  let left := if p.offset = 0 ∨ p.index ≤ 1 then []
    else ((operands.getD (p.index - 2) "").toList.drop p.offset)
  let goOn (letter : Char) (left : List Char) (next offset : Nat) : OptionStep × OptionPlace :=
    take spelled operands letter left next ⟨next, if left = [] then 0 else offset, []⟩
  match left with
  | letter :: left => goOn letter left p.index (p.offset + 1)
  | [] =>
    match (operands[p.index - 1]?).map String.toList with
    | some ['-', '-'] => (.ended, .atArgument (p.index + 1))
    | some ('-' :: letter :: left) => goOn letter left (p.index + 1) 2
    | _ => (.ended, .atArgument p.index)

/-- The next option where the letters left are remembered. -/
def nextExtended (p : OptionPlace) (operands : List String) (spelled : List Char) :
    OptionStep × OptionPlace :=
  let goOn (letter : Char) (left : List Char) : OptionStep × OptionPlace :=
    take spelled operands letter left (p.index + 1)
      ⟨if left = [] then p.index + 1 else p.index, 0, left⟩
  if operands.length < p.index then (.ended, ⟨operands.length + 1, 0, p.letters⟩)
  else
    match p.letters with
    | letter :: left => goOn letter left
    | [] =>
      match (operands[p.index - 1]?).map String.toList with
      | some ['-', '-'] => (.ended, .atArgument (p.index + 1))
      | some ('-' :: letter :: left) => goOn letter left
      | _ => (.ended, .atArgument p.index)

end OptionPlace

namespace Builtin

open Eval

/-- What is said of an option that is wrong. -/
def optionComplaint (s : State) (letter : Char) (isMissing : Bool) : String :=
  let shown := String.singleton letter
  match s.dialect, isMissing with
  | .plain, false => s!"Illegal option -{shown}\n"
  | .plain, true => s!"No arg for -{shown} option\n"
  | .extended, false => s!"{s.name}: illegal option -- {shown}\n"
  | .extended, true => s!"{s.name}: option requires an argument -- {shown}\n"

/-- Reads the next option of the arguments into a variable. -/
def getopts (arguments : List String) : Eval Nat := do
  match arguments with
  | spelled :: name :: rest => do
    let s ← get
    let operands := if rest = [] then s.arguments else rest
    let isQuiet := spelled.startsWith ":"
    let letters := if isQuiet then spelled.toList.tail else spelled.toList
    let (step, place) := match s.dialect with
      | .plain => s.place.nextPlain operands letters
      | .extended => s.place.nextExtended operands letters
    let finish (found : Char) (status : Nat) : Eval Nat := do
      setVariable "OPTIND" (toString place.index)
      modify fun s => { s with place }
      if isName name then
        setVariable name (String.singleton found)
        return status
      else
        withName name name (return status)
    let complain (letter : Char) (isMissing : Bool) : Eval Unit := do
      if isQuiet then
        setVariable "OPTARG" (String.singleton letter)
      else
        let isSilent := s.dialect == .extended && (← value? "OPTERR") == some "0"
        if !isSilent then
          printError (optionComplaint s letter isMissing)
        unsetVariable "OPTARG"
    match step with
    | .ended => finish '?' 1
    | .unknown letter => do
      complain letter false
      finish '?' 0
    | .missing letter => do
      complain letter true
      finish (if isQuiet then ':' else '?') 0
    | .found letter none => do
      if s.dialect == .extended then unsetVariable "OPTARG" else setVariable "OPTARG" ""
      finish letter 0
    | .found letter (some value) => do
      setVariable "OPTARG" value
      finish letter 0
  | _ =>
    if ← isExtended then
      printError "getopts: usage: getopts optstring name [arg ...]\n"
      return 2
    else
      refuse "Usage: getopts optstring var [arg...]"

end Builtin

end LinkBench.Host.Shell
