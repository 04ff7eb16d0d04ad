import LinkBench.Host.Console
import LinkBench.Host.Shell.Grammar
/-!
The state of a running shell, and the monad that its parts are written in. A part of a shell may end
early: where a loop, a function or the shell itself is left.
-/

namespace LinkBench.Host.Shell

/-- The elements of a list by their indices, which are numbers unless the list has keys. -/
structure Elements where
  hasKeys : Bool
  entries : List (String × String)
  /-- Whether the list has been declared without being given anything. -/
  isBlank : Bool := false

/-- How the letters of a variable's values are changed. -/
inductive Casing
  | lower
  | upper
  | capital
  deriving DecidableEq, Repr

structure Variable where
  name : String
  /-- Absent if the variable is only marked. -/
  value : Option String
  elements : Option Elements
  isExported : Bool
  isReadOnly : Bool
  /-- Whether values are expressions to be calculated; only in the extended dialect, like all below. -/
  isInteger : Bool := false
  casing : Option Casing := none
  /-- Whether the value is the name of another variable that this one stands for. -/
  isReference : Bool := false

/-- The value of a variable; that of a list is its first element. -/
def Variable.text? (v : Variable) : Option String :=
  match v.elements with
  | some elements => elements.entries.lookup "0"
  | none => v.value

/-- How far options have been read from arguments. -/
structure OptionPlace where
  /-- The number of the argument that is read next. -/
  index : Nat
  /-- How far the argument before it has been read, if it has several letters; zero if it is done. -/
  offset : Nat
  /-- The letters of the argument that are left. -/
  letters : List Char
  deriving DecidableEq, Repr

namespace OptionPlace

/-- In front of an argument. -/
def atArgument (index : Nat) : OptionPlace := ⟨index, 0, []⟩

def start : OptionPlace := atArgument 1

end OptionPlace

/-- A command that runs in the background. -/
structure Job where
  /-- The number that the user calls it by. -/
  number : Nat
  /-- The process that its status comes from. -/
  id : Nat
  /-- Of how many processes it consists. -/
  stages : Nat
  ended : Option Termination
  /-- Whether its end has been waited for. -/
  isAwaited : Bool
  /-- The command, as the extended dialect shows it. -/
  text : String

structure Function where
  body : Command
  /-- The name of the script that has defined it. -/
  source : String
  isExported : Bool

/-- The path of a program that has been looked for, and how often it has been used since. -/
structure Found where
  name : String
  path : String
  uses : Nat

/-- A function or script that runs inside of another one. -/
structure Call where
  name : String
  source : String
  /-- The line that it was called in. -/
  line : Nat

structure State where
  dialect : Dialect
  /-- The name that the shell was started under. -/
  name : String
  /-- The positional parameters from the first one on. -/
  arguments : List String
  bindings : List Variable
  functions : List (String × Function)
  /-- The paths of programs that have been looked for, the last one first. -/
  found : List Found
  aliases : List (String × String)
  /-- The texts of inline documents. -/
  documents : List (Nat × Written)
  nextDocument : Nat
  /-- The exit status of the last command. -/
  status : Nat
  /-- The status of the last command substitution of the command being expanded. -/
  substitutionStatus : Option Nat
  /-- The identifier of the shell that the script was started with. -/
  id : Nat
  /-- The last process that runs in the background. -/
  lastJob : Option Nat
  /-- What runs in the background, or has run there, the last one first. -/
  jobs : List Job
  /-- The letters of the options that are set. -/
  options : List Char
  /-- The long names of further options that are set. -/
  longOptions : List String
  /-- What runs at a signal, or, under the number zero, at the exit. -/
  traps : List (Nat × String)
  /-- What was to be done at events in the shell around, as long as nothing is asked for here. -/
  outerTraps : List (Nat × String)
  /-- The signals that have come in and whose commands have not run yet. -/
  caught : List Nat
  /-- Whether the shell is at a condition, where a command may fail. -/
  isGuarded : Bool
  loopDepth : Nat
  functionDepth : Nat
  /-- How deep the shell is in files that other scripts have read. -/
  sourceDepth : Nat
  /-- The variables as they were before the running function made them its own. -/
  shadowed : List (String × Option Variable)
  /-- The line of the current command. -/
  line : Nat
  /-- How far lines are from where they were read, inside of a command of a word. -/
  lineShift : Int
  /-- The line that the script has been read up to. -/
  lastLine : Nat
  /-- The command of the shell that messages are about, if it reads further commands. -/
  speaker : Option String
  /-- What runs, the innermost first. -/
  calls : List Call
  /-- The exit statuses of the stages of the last pipeline. -/
  stageStatuses : List Nat
  /-- How many processes that do the work of a shell are around this one. -/
  subshellDepth : Nat
  /-- The last argument of the last command. -/
  lastArgument : String
  /-- The command that runs, or, while something is done at an event, the one that ran before. -/
  current : String
  /-- Whether something is being done at an event. -/
  isHandling : Bool
  /-- How many texts are being run inside of each other. -/
  traceDepth : Nat
  /-- Descriptors that lead to commands, for the command that runs. -/
  connections : List Nat
  /-- Commands of the shell that are not to be found under their names. -/
  disabled : List String
  /-- Directories to go back to, the last one first. -/
  directories : List String
  /-- What pseudo-random numbers go on from. -/
  seed : Nat
  /-- Names that mean nothing of their own any more. -/
  forgotten : List String
  /-- How far options have been read from the arguments. -/
  place : OptionPlace
  /-- Whether a script is read from a text in the arguments. -/
  readsArgument : Bool
  /-- Why the running command could not write. -/
  writeError : Option IoError

/-- What takes the place of the next command. -/
inductive Jump
  | exit
  /-- Leaves the shell because of a mistake; inside of some commands only the command. -/
  | mistake
  /-- Leaves the command that is read at once because of a mistake in it. -/
  | discarded
  | returned
  | broken (levels : Nat)
  | continued (levels : Nat)
  deriving DecidableEq, Repr

abbrev Eval := ExceptT Jump (StateT State Proc)

namespace Eval

variable {α : Type}

def ofProc (p : Proc α) : Eval α := fun s => do return (.ok (← p), s)

def ask (r : Request) : Eval r.Answer := ofProc (.request r)

def jump (j : Jump) : Eval α := throw j

def setStatus (status : Nat) : Eval Unit :=
  modify fun s => { s with status }

def setLine (line : Nat) : Eval Unit :=
  modify fun s => { s with line := (Int.ofNat line + s.lineShift).toNat }

def isExtended : Eval Bool := do return (← get).dialect == .extended

/-! ### Messages -/

def printError (text : String) : Eval Unit := ofProc (Proc.printError text)

/-- What messages of the shell begin with. -/
def heading (s : State) : String :=
  match s.dialect with
  | .plain =>
    let speaker := match s.speaker with
      | some command => command ++ ": "
      | none => ""
    s!"{s.name}: {s.line}: {speaker}"
  | .extended =>
    let source := ((s.calls.head?.map (·.source)).filter (· != "")).getD s.name
    s!"{source}: line {s.line}: "

/-- An error message of the shell itself, under its name and the current line. -/
def complain (text : String) : Eval Unit := do
  printError (heading (← get) ++ text ++ "\n")

/-- An error message of a command of the shell, under its name. -/
def report (text : String) : Eval Unit := do
  let s ← get
  match s.dialect, s.speaker with
  | .extended, some command => complain s!"{command}: {text}"
  | _, _ => complain text

/-- The status that the extended dialect leaves the shell with because of a mistake. -/
def mistakeStatus (s : State) : Nat :=
  if s.readsArgument && s.subshellDepth == 0 then 127 else 1

/-- Leaves the shell with a message. -/
def fatal (text : String) : Eval α := do
  complain text
  let s ← get
  setStatus (if s.dialect == .extended then mistakeStatus s else 2)
  jump .mistake

/-- Leaves the command that is read at once, or, in the plain dialect, the shell. -/
def discard (text : String) : Eval α := do
  complain text
  if ← isExtended then
    setStatus 1
    jump .discarded
  else
    setStatus 2
    jump .mistake

/-- Refuses to do what a command of the shell was asked for. The plain dialect leaves the command, or
even the shell. -/
def refuse (text : String) : Eval Nat := do
  report text
  if ← isExtended then
    return 1
  else
    setStatus 2
    jump .mistake

/-- Writes what a command of the shell prints, and remembers a failure. -/
def print (text : String) : Eval Unit := do
  match ← ofProc (Proc.write Proc.standardOutput text) with
  | .ok () => return
  | .error e => modify fun s => { s with writeError := some e }

/-! ### Variables -/

def find? (name : String) : Eval (Option Variable) := do
  return (← get).bindings.find? (·.name == name)

def value? (name : String) : Eval (Option String) := do
  return (← find? name).bind Variable.text?

def replaceVariable (v : Variable) : List Variable → List Variable
  | [] => [v]
  | w :: rest => if w.name = v.name then v :: rest else w :: replaceVariable v rest

def store (v : Variable) : Eval Unit :=
  modify fun s => { s with bindings := replaceVariable v s.bindings }

def newVariable (s : State) (name : String) : Variable :=
  { name, value := none, elements := none, isExported := s.options.contains 'a'
    isReadOnly := false }

/-- The variable of a name, new if there is none, to be written to. -/
def writable (name : String) : Eval Variable := do
  let s ← get
  match s.bindings.find? (·.name == name) with
  | some v =>
    if v.isReadOnly then
      discard (if s.dialect == .extended then s!"{name}: readonly variable"
        else s!"{name}: is read only")
    else
      return v
  | none => return newVariable s name

/-- The class that an element belongs to by its key; lists with keys are shown class by class. -/
def keyClass (key : String) : Nat :=
  let hash := key.toList.foldl (fun (hash : UInt32) c =>
    let code := c.toNat
    (hash * 16777619) ^^^ UInt32.ofNat (if code < 128 then code else code + 0xffffff00)) 2166136261
  hash.toNat % 1024

/-- Puts an element into the entries of a list by the order of its index or of the class of its key, of
which the last one stands first. -/
def insertEntry (hasKeys : Bool) (key value : String) :
    List (String × String) → List (String × String)
  | [] => [(key, value)]
  | x :: rest =>
    let isPlace := if hasKeys then keyClass key ≤ keyClass x.1
      else key.toNat?.getD 0 < x.1.toNat?.getD 0
    if isPlace then (key, value) :: x :: rest else x :: insertEntry hasKeys key value rest

/-- Puts an element into the entries of a list, in the place of the one of the same index. -/
def putEntry (hasKeys : Bool) (key value : String) (entries : List (String × String)) :
    List (String × String) :=
  if entries.any (·.1 == key) then
    entries.map fun x => if x.1 = key then (key, value) else x
  else
    insertEntry hasKeys key value entries

def setElement (name key value : String) : Eval Unit := do
  let v ← writable name
  let elements := v.elements.getD
    { hasKeys := false, entries := (v.value.map fun text => ("0", text)).toList }
  store { v with
    value := none
    elements := some
      { elements with
        entries := putEntry elements.hasKeys key value elements.entries, isBlank := false } }

/-- Reads an unsigned number of the plain dialect. -/
def number? (text : String) : Option Nat :=
  let cs := text.toList
  if cs ≠ [] ∧ cs.all (·.isDigit) then
    let n := Nat.ofDigitChars 10 cs 0
    if n ≤ 2147483647 then some n else none
  else
    none

/-- Names of the extended dialect that keep what they mean when they are given a value. -/
def ownNames : List String :=
  ["BASHPID", "BASH_ARGV0", "BASH_COMMAND", "DIRSTACK", "EPOCHREALTIME", "EPOCHSECONDS", "FUNCNAME",
    "GROUPS", "LINENO", "SRANDOM"]

/-- Notices that a variable has changed which says where options are read next. -/
def noticeChange (name value : String) : Eval Unit := do
  if name = "OPTIND" then
    if (number? value).isNone && !(← isExtended) then
      report s!"Illegal number: {value}"
      setStatus 2
      jump .mistake
    let index := max ((number? value).getD 1) 1
    modify fun s => { s with
      place := if s.dialect == .extended ∧ 1 < index then { s.place with index }
        else .atArgument index }
  else if name = "PATH" then
    modify fun s => { s with found := [] }
  else if name = "RANDOM" then
    modify fun s => { s with
      seed := value.toNat?.getD 0
      bindings := s.bindings.filter (·.name != name) }
  else if ownNames.contains name ∧ (← isExtended) then
    modify fun s => { s with
      name := if name = "BASH_ARGV0" then value else s.name
      bindings := s.bindings.filter (·.name != name) }

/-- Stores a text as the value of a variable, or as that of the first element of a list. -/
def storeText (name value : String) : Eval Unit := do
  let v ← writable name
  if v.elements.isSome then setElement name "0" value
  else store { v with value := some value }
  noticeChange name value

def unsetVariable (name : String) : Eval Unit := do
  let v ← writable name
  noticeChange name ""
  modify fun s => { s with
    bindings := s.bindings.filter (·.name != v.name)
    forgotten := if name = "RANDOM" ∨ name = "SECONDS" ∨ ownNames.contains name then
        name :: s.forgotten
      else s.forgotten }

/-- The elements of a list; a variable that is none is its only element. -/
def elementsOf (v : Variable) : List (String × String) :=
  match v.elements with
  | some elements => elements.entries
  | none => (v.value.map fun text => ("0", text)).toList

/-- Marks a variable as one that programs get. -/
def exportVariable (name : String) : Eval Unit := do
  let s ← get
  let v := (s.bindings.find? (·.name == name)).getD (newVariable s name)
  store { v with isExported := true }

/-- The class of a name that the plain dialect keeps its variables by. -/
def bucket (name : String) : Nat :=
  let codes := name.toList.map Char.toNat
  (16 * codes.headD 0 + codes.foldl (· + ·) 0) % 39

/-- What programs get. The plain dialect hands it over by classes of names. -/
def environment : Eval Environment := do
  let s ← get
  let exported := s.bindings.filterMap fun v =>
    if v.isExported then v.value.map fun text => (v.name, text) else none
  return match s.dialect with
    | .plain => exported.mergeSort fun a b => decide (bucket a.1 ≤ bucket b.1)
    | .extended => exported

/-! ### Structure -/

/-- Runs a part and gives the state back as another function of it says. -/
def withState (before : State → State) (after : State → State → State) (body : Eval α) :
    Eval α := fun s => do
  let (result, t) ← body (before s)
  return (result, after s t)

/-- Runs a part as a condition: its failure ends nothing. -/
def asCondition (body : Eval α) : Eval α :=
  withState (fun s => { s with isGuarded := true })
    (fun s t => { t with isGuarded := s.isGuarded }) body

/-- Runs a part and catches what it jumps for. -/
def attempt (body : Eval Unit) : Eval (Option Jump) := fun s => do
  let (result, t) ← body s
  match result with
  | .ok () => return (.ok none, t)
  | .error j => return (.ok (some j), t)

end Eval

end LinkBench.Host.Shell
