import LinkBench.Host.Console
import LinkBench.Host.Utility.Quoting
import LinkBench.Host.Utility.Records
/-!
Options of programs: letters behind one dash and words behind two, which may be cut short. What stands
between the options are the operands. A program takes its arguments, the name that it was called by
first, and yields its exit status.
-/

namespace LinkBench.Host.Utility

/-- Whether an option has a value. -/
inductive Arity
  | none
  | required
  | optional
  deriving DecidableEq, Repr

/-- An option: the letter that stands for it, or another key, and its long name. -/
structure Flag where
  key : String
  long : String
  arity : Arity

/-- Options that were given, in order, with their values. -/
abbrev Given := List (String × String)

namespace Given

def has (g : Given) (key : String) : Bool := g.any (·.1 == key)

/-- The value of the last option of a key. -/
def last? (g : Given) (key : String) : Option String :=
  ((g.filter (·.1 == key)).getLast?).map (·.2)

/-- The last of several options that exclude each other. -/
def lastOf? (g : Given) (keys : List String) : Option String :=
  ((g.filter fun x => keys.contains x.1).getLast?).map (·.1)

def all (g : Given) (key : String) : List String :=
  (g.filter (·.1 == key)).map (·.2)

/-- What the records of a program end in: a line end, or a zero if an option says so. -/
def recordEnd (g : Given) : Char := if g.has "z" then '\x00' else '\n'

end Given

inductive OptionFault
  | unknownLetter (c : Char)
  | unknownWord (text : String)
  | ambiguous (text : String) (candidates : List String)
  | missingValue (c : Char)
  | missingWordValue (word : String)
  | unwantedValue (word : String)

def OptionFault.message : OptionFault → String
  | .unknownLetter c =>
    let letter := String.singleton c
    s!"invalid option -- '{letter}'"
  | .unknownWord text => s!"unrecognized option '{text}'"
  | .ambiguous text candidates =>
    s!"option '{text}' is ambiguous; possibilities:" ++
      String.join (candidates.map fun word => s!" '--{word}'")
  | .missingValue c =>
    let letter := String.singleton c
    s!"option requires an argument -- '{letter}'"
  | .missingWordValue word => s!"option '--{word}' requires an argument"
  | .unwantedValue word => s!"option '--{word}' doesn't allow an argument"

namespace Options

/-- An option without a value. -/
def flag (key : String) (long : String) : Flag := ⟨key, long, .none⟩

def valued (key : String) (long : String) : Flag := ⟨key, long, .required⟩

def optional (key : String) (long : String) : Flag := ⟨key, long, .optional⟩

/-- Reads the letters behind one dash; the value of the last one may be the next argument. -/
def readLetters (flags : List Flag) :
    List Char → List String → Except OptionFault (Given × List String)
  | [], rest => .ok ([], rest)
  | c :: cs, rest =>
    match flags.find? (·.key == String.singleton c) with
    | none => .error (.unknownLetter c)
    | some f =>
      match f.arity with
      | .none => do
        let (given, rest) ← readLetters flags cs rest
        return ((f.key, "") :: given, rest)
      | .optional => .ok ([(f.key, String.ofList cs)], rest)
      | .required =>
        match cs, rest with
        | [], [] => .error (.missingValue c)
        | [], value :: rest => .ok ([(f.key, value)], rest)
        | cs, rest => .ok ([(f.key, String.ofList cs)], rest)

/-- Reads a word behind two dashes. -/
def readWord (flags : List Flag) (argument : String) (rest : List String) :
    Except OptionFault (Given × List String) :=
  let body := (argument.drop 2).toString
  let name := (body.takeWhile (· != '=')).toString
  let value? := if name.length = body.length then none
    else some (body.drop (name.length + 1)).toString
  let exact := flags.filter (·.long == name)
  let fitting := if exact.isEmpty then
      flags.filter fun f => f.long != "" && f.long.startsWith name
    else exact
  match fitting with
  | [] => .error (.unknownWord argument)
  | f :: others =>
    if others.any (·.key != f.key) then
      .error (.ambiguous argument (fitting.map (·.long)))
    else
      match f.arity, value?, rest with
      | .none, some _, _ => .error (.unwantedValue f.long)
      | .none, none, rest => .ok ([(f.key, "")], rest)
      | .optional, value?, rest => .ok ([(f.key, value?.getD "")], rest)
      | .required, some value, rest => .ok ([(f.key, value)], rest)
      | .required, none, value :: rest => .ok ([(f.key, value)], rest)
      | .required, none, [] => .error (.missingWordValue f.long)

/-- Reads options and operands. Where options may not follow operands, the first operand ends them, and
`isOperand` says what is one with a dash in front of it. The fuel bounds the number of arguments. -/
def readAll (flags : List Flag) (mixes : Bool) (isOperand : String → Bool) :
    Nat → List String → Except OptionFault (Given × List String)
  | 0, arguments => .ok ([], arguments)
  | _, [] => .ok ([], [])
  | _, "--" :: rest => .ok ([], rest)
  | fuel + 1, a :: rest =>
    let body := if isOperand a then [] else a.toList
    match body with
    | '-' :: '-' :: _ => do
      let (given, rest) ← readWord flags a rest
      let (others, operands) ← readAll flags mixes isOperand fuel rest
      return (given ++ others, operands)
    | '-' :: c :: cs => do
      let (given, rest) ← readLetters flags (c :: cs) rest
      let (others, operands) ← readAll flags mixes isOperand fuel rest
      return (given ++ others, operands)
    | _ =>
      if mixes then do
        let (given, operands) ← readAll flags mixes isOperand fuel rest
        return (given, a :: operands)
      else
        .ok ([], a :: rest)

def read (flags : List Flag) (mixes : Bool) (arguments : List String) :
    Except OptionFault (Given × List String) :=
  readAll flags mixes (fun _ => false) (arguments.length + 1) arguments

/-- Reads options in front of operands that may be negative numbers. -/
def readNumbers (flags : List Flag) (arguments : List String) :
    Except OptionFault (Given × List String) :=
  let isNegative (a : String) : Bool :=
    match a.toList with
    | '-' :: c :: _ => c == '.' || c.isDigit
    | _ => false
  readAll flags false isNegative (arguments.length + 1) arguments

end Options

/-! ### Messages -/

/-- Complains under the name of the program. -/
def complain (command text : String) : Proc Unit :=
  Proc.printError s!"{command}: {text}\n"

def suggestHelp (command : String) : Proc Unit :=
  Proc.printError s!"Try '{command} --help' for more information.\n"

/-- Complains and says where help is to be had; yields the given status. -/
def refuseUse (command text : String) (status : Nat) : Proc Nat := do
  complain command text
  suggestHelp command
  return status

/-- Complains and yields a status. -/
def failWith (command text : String) (status : Nat) : Proc Nat := do
  complain command text
  return status

/-- Runs a program with its options read; a fault among them ends it with the given status. -/
def withOptions (flags : List Flag) (mixes : Bool) (status : Nat) (arguments : List String)
    (body : String → Given → List String → Proc Nat) : Proc Nat := do
  let command := arguments.headD ""
  match Options.read flags mixes arguments.tail with
  | .ok (given, operands) => body command given operands
  | .error f => refuseUse command f.message status

/-- Complains that operands are missing. -/
def missingOperand (command : String) : Proc Nat :=
  refuseUse command "missing operand" 1

def missingAfter (command operand : String) : Proc Nat :=
  refuseUse command s!"missing operand after {Quoting.quoted operand}" 1

def extraOperand (command operand : String) : Proc Nat :=
  refuseUse command s!"extra operand {Quoting.quoted operand}" 1

/-- Runs `f` on every operand; the status is the greatest. -/
def forEach {α : Type} (operands : List α) (f : α → Proc Nat) : Proc Nat :=
  operands.foldlM (fun status a => do return max status (← f a)) 0

/-- Reports a failed operation. -/
def report (command message : String) : Except IoError Unit → Proc Nat
  | .ok () => return 0
  | .error e => failWith command s!"{message}: {e.reason}" 1

/-- Writes what a program puts out, and yields a status. -/
def emit (command text : String) (status : Nat) : Proc Nat := do
  match ← Proc.write Proc.standardOutput text with
  | .ok () => return status
  | .error e => failWith command s!"write error: {e.reason}" (max status 1)

/-- More blocks than are ever passed on. -/
def passLimit : Nat := 1000000000

/-- The text of a file, or of the standard input under the name `-`. -/
def textOf (name : String) : Proc (Except Proc.Refusal String) := do
  return (← Proc.contents name).map ByteText.ofBytes

/-! ### Words as values

A word may be cut short as long as it stands for one meaning only. -/

/-- The words that an option may have as its value, each with what it means. -/
abbrev Choices (α : Type) := List (String × α)

namespace Choices

variable {α : Type} [DecidableEq α]

inductive Fault
  | invalid
  | ambiguous
  deriving DecidableEq

/-- The meaning of a word: of the word itself, or of all those that it begins. -/
def find (choices : Choices α) (word : String) : Except Fault α :=
  match choices.lookup word with
  | some a => .ok a
  | none =>
    match (choices.filter fun x => x.1.startsWith word).map (·.2) with
    | [] => .error .invalid
    | a :: others => if others.all (· == a) then .ok a else .error .ambiguous

/-- The words, those of one meaning on one line. -/
def listed (choices : Choices α) : String :=
  let groups := choices.splitBy fun a b => a.2 == b.2
  String.intercalate "\n" ("Valid arguments are:" :: groups.map fun group =>
    "  - " ++ String.intercalate ", " (group.map fun x => Quoting.quoted x.1))

/-- What is said about a word that has no meaning. -/
def complaint (choices : Choices α) (option word : String) (f : Fault) : String :=
  let adjective := match f with
    | .invalid => "invalid"
    | .ambiguous => "ambiguous"
  s!"{adjective} argument {Quoting.quoted word} for {Quoting.quoted option}\n" ++ choices.listed

end Choices

end LinkBench.Host.Utility
