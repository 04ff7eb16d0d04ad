import LinkBench.Launch.Executable
import LinkBench.Host.Shell.Checking
import LinkBench.Host.Shell.Lookup
import LinkBench.Host.Shell.Redirection
/-!
The steps that running a command is made of: how a program takes the place of the shell, what loops and
functions do to the state, and how scripts and processes end.
-/

namespace LinkBench.Host.Shell

open LinkBench.Host.Utility

namespace Eval

/-! ### Programs -/

/-- The words for why a program does not run. -/
def execFault (d : Dialect) (e : IoError) : String :=
  match d, e with
  | .plain, .notFound | .plain, .notADirectory => "not found"
  | _, e => e.reason

def execStatus (e : IoError) : Nat :=
  if e ∈ [.notFound, .notADirectory, .tooManyLinks, .nameTooLong] then 127 else 126

/-- The shell that reads scripts that name no interpreter. -/
def scriptReader : Dialect → String
  | .plain => "/bin/sh"
  | .extended => "/bin/bash"

/-- How much of a file a shell looks at to tell whether it is a text. -/
def sampleLength : Dialect → Nat
  | .plain => 128
  | .extended => 80

/-- Whether a byte shows that a file is no text. -/
def isForeign (d : Dialect) (b : UInt8) : Bool :=
  match d with
  | .plain => (b < 0x20 && !(0x09 ≤ b && b ≤ 0x0f) && b != 0x1b) || b == 0x7f
  | .extended => b == 0

/-- Whether a file is no script, by the beginning of its first line. -/
def isBinary (d : Dialect) (bytes : Bytes) : Bool :=
  Launch.Executable.isProgram bytes ||
    ((bytes.take (sampleLength d)).takeWhile (· != 0x0a)).any (isForeign d)

/-- Whether a path leads to a file that is no script. -/
def leadsToBinary (path : String) : Eval Bool := do
  let s ← get
  let w ← ofProc Proc.view
  return match w.files.stat w.cwd (Proc.pathOf path) with
    | .ok (.file bytes _) => isBinary s.dialect bytes
    | _ => false

/-- Becomes the program of the first path that can be one; yields why there is none. -/
def becomeFirst (arguments : List String) : IoError → List String → Eval IoError
  | e, [] => return e
  | e, path :: rest => do
    let environment ← environment
    let failure ← ofProc (Proc.exec (Proc.pathOf path) arguments environment)
    match failure with
    | .execFormat => do
      if ← leadsToBinary path then
        return .execFormat
      let reader := scriptReader (← get).dialect
      ofProc (Proc.exec (Proc.pathOf reader) (reader :: path :: arguments.tail) environment)
    | .notFound | .notADirectory => becomeFirst arguments e rest
    | other => becomeFirst arguments other rest

/-- Becomes a program. If that is not possible, says why and ends with a status. -/
def become (arguments : List String) : Eval Unit := do
  let name := arguments.headD ""
  let e ← becomeFirst arguments .notFound (← programPaths name)
  let s ← get
  let e ← if s.dialect == .extended then do
      let w ← ofProc Proc.view
      pure (if w.files.isDirectory w.cwd (Proc.pathOf name) then .isADirectory else e)
    else pure e
  let reason := if s.speaker.isSome && !name.contains '/' && e == .notFound then "not found"
    else if s.dialect == .extended && e == .execFormat then
      "cannot execute binary file: " ++ e.reason
    else execFault s.dialect e
  report s!"{name}: {reason}"
  setStatus (execStatus e)
  jump .exit

/-! ### Loops and functions -/

/-- What is left of a jump out of a loop, and whether the loop goes on. -/
def loopJump : Jump → Except Jump Bool
  | .broken 0 | .broken 1 => .ok false
  | .broken (n + 1) => .error (.broken n)
  | .continued 0 | .continued 1 => .ok true
  | .continued (n + 1) => .error (.continued n)
  | j => .error j

/-- Runs the body of a loop once; says whether the loop goes on. -/
def loopRound (body : Eval Unit) : Eval Bool := do
  match ← attempt body with
  | none => return true
  | some j =>
    match loopJump j with
    | .ok goesOn => return goesOn
    | .error j => jump j

def insideLoop {α : Type} (body : Eval α) : Eval α :=
  withState (fun s => { s with loopDepth := s.loopDepth + 1 })
    (fun s t => { t with loopDepth := s.loopDepth }) body

/-- Gives variables back that were made to last only for a while, the last one first. -/
def unshadow : List (String × Option Variable) → List Variable → List Variable
  | [], bindings => bindings
  | (name, old) :: rest, bindings =>
    unshadow rest (match old with
      | some v => replaceVariable v bindings
      | none => bindings.filter (·.name != name))

/-- The options as they were before a function made them its own. -/
def keptOptions (t : State) : List Char :=
  match (t.shadowed.reverse.lookup "-").join.bind (·.value) with
  | some letters => letters.toList
  | none => t.options

/-- Runs a part behind which the variables are given back that it makes its own. -/
def inFrame {α : Type} (body : Eval α) : Eval α :=
  withState (fun s => { s with shadowed := [] })
    (fun s t => { t with
      bindings := unshadow (t.shadowed.filter (·.1 != "-")) t.bindings
      options := keptOptions t
      place := if t.shadowed.any (·.1 == "OPTIND") then s.place else t.place
      shadowed := s.shadowed }) body

/-- The events that functions do not take over from their callers what happens at, and what happens
there, unless that is asked for. -/
def ownTraps (s : State) : List (Nat × String) :=
  s.traps.filter fun x => Signal.bound ≤ x.1 && !keepsTrap s x.1

/-- Runs the body of a function with arguments of its own. -/
def asFunction (call : Call) (arguments : List String) (body : Eval Unit) : Eval Unit :=
  withState
    (fun s => { s with
      arguments
      loopDepth := 0
      functionDepth := s.functionDepth + 1
      calls := call :: s.calls
      lineShift := 0
      traps := s.traps.filter fun x => !(ownTraps s).any (·.1 == x.1)
      place := if s.dialect == .plain then .start else s.place })
    (fun s t => { t with
      arguments := s.arguments
      loopDepth := s.loopDepth
      functionDepth := s.functionDepth
      calls := s.calls
      lineShift := s.lineShift
      traps := t.traps ++ (ownTraps s).filter fun x => (t.traps.lookup x.1).isNone
      place := if s.dialect == .plain then s.place else t.place })
    do
      match ← attempt body with
      | none | some .returned => return
      | some j => jump j

/-- How deep functions may call each other. -/
def functionLimit : Nat := 1000

/-! ### Small inner commands -/

/-- Leaves loops or goes on with their next rounds; outside of loops nothing happens. -/
def leaveLoop (name : String) (arguments : List String) : Eval Nat := do
  let s ← get
  if s.dialect == .extended ∧ s.loopDepth = 0 then
    report "only meaningful in a \x60for', \x60while', or \x60until' loop"
    return 0
  Builtin.withNumber (arguments.headD "1") fun n => do
    if n = 0 then
      if s.dialect == .extended then
        report s!"{n}: loop count out of range"
        return 1
      else
        return ← refuse "Illegal number: 0"
    let depth := min n s.loopDepth
    if depth = 0 then
      return 0
    setStatus 0
    jump (if name = "continue" then .continued depth else .broken depth)

/-- The status that `exit` and `return` are asked for. -/
def askedStatus (arguments : List String) (leave : Jump) : Eval Nat := do
  match arguments with
  | [] => jump leave
  | text :: _ =>
    let extended ← isExtended
    match extended, (if text.startsWith "+" then none else text.toInt?) with
    | true, some n => do
      setStatus (n % 256).toNat
      jump leave
    | true, none => do
      report s!"{text}: numeric argument required"
      setStatus 2
      jump leave
    | false, _ =>
      Builtin.withNumber text fun n => do
        setStatus n
        jump leave

/-- The file that a script is read from by name. -/
def scriptPath (name : String) : Eval (Except IoError String) := do
  if name.contains '/' then
    return .ok name
  else
    match ← search name with
    | .ok path => return .ok path
    | .error e => do
      let w ← ofProc Proc.view
      if (← isExtended) && w.files.isFile w.cwd (Proc.pathOf name) then return .ok name
      else return .error e

/-- What a shell understands of a script. -/
def scriptText (bytes : Bytes) : String :=
  ByteText.ofBytes (bytes.filter (· != 0))

/-- What is run as a script. -/
inductive Origin
  /-- The script that the shell was started for. -/
  | main
  /-- A file that another script reads. -/
  | file
  /-- A text under a name. -/
  | text (name : String)
  deriving DecidableEq

/-- What stands in front of messages about what cannot be read, in the extended dialect. -/
def Origin.label (s : State) : Origin → String
  | .main => if s.readsArgument then "-c: " else ""
  | .file => ""
  | .text name => name ++ ": "

/-- Says what is wrong with a script, given the script from a line on, and leaves it. The extended dialect
leaves only what is being read, and goes on behind the line if a list is wrong; the value says so. -/
def complainSyntax (origin : Origin) (start : List Char) (line : Nat) (f : Fault) : Eval Bool := do
  let s ← get
  match s.dialect with
  | .plain => do
    setLine f.line
    complain s!"Syntax error: {f.mistake.plainText}"
    setStatus 2
    jump .mistake
  | .extended => do
    let name := ((s.calls.head?.map (·.source)).filter (· != "")).getD s.name
    for (number, text) in f.extendedLines start line do
      printError s!"{name}: {origin.label s}line {number}: {text}\n"
    if f.place == .elements then
      setStatus 1
      return true
    setStatus 2
    if origin == .main then
      if f.place == .substitution then
        setStatus (if mistakeStatus s = 127 then 127 else 2)
      jump .mistake
    return false

/-- Says what is odd about a script. -/
def warn (warnings : List (Nat × String)) : Eval Unit := do
  let s ← get
  let name := ((s.calls.head?.map (·.source)).filter (· != "")).getD s.name
  if s.dialect == .extended then
    for (line, text) in warnings do
      printError s!"{name}: line {line}: warning: {text}\n"

/-- Shows what has been read of a script, if that is asked for. The plain dialect does so only for
files. -/
def echoRead (origin : Origin) (text : List Char) : Eval Unit := do
  let s ← get
  let isFile := match origin with
    | .main => !s.readsArgument
    | .file => true
    | .text _ => false
  if s.options.contains 'v' && (s.dialect == .extended || isFile) && !text.isEmpty then
    let ending := if s.dialect == .extended && text.getLast? != some '\n' then "\n" else ""
    printError (String.ofList text ++ ending)

/-! ### Commands -/

/-- Keeps the paths of the programs that stages of a pipeline of the plain dialect begin with. -/
def prepareStages (stages : List Command) : Eval Unit := do
  let s ← get
  if s.dialect == .plain then
    for c in stages do
      match c with
      | .simple _ _ (w :: _) _ =>
        match Word.bareText? w.2 with
        | some name =>
          if isName name && !isBuiltin s.dialect name && !s.functions.any (·.1 == name) then
            if !s.found.any (·.name == name) then
              let _ ← locate name
        | none => pure ()
      | _ => pure ()

/-- Moves a descriptor to a high number that is free. -/
def moveHigh (descriptor : Nat) : Eval Nat := do
  match ← freeConnection connectionDescriptors with
  | none => return descriptor
  | some n => do
    let _ ← ask (.duplicate descriptor n)
    ask (.close descriptor)
    return n

/-- Lets commands of the shell be found under their names or not, or shows which are. -/
def enable (arguments : List String) : Eval Nat :=
  Builtin.withOptions "adnpsf:" arguments fun options names => do
    let s ← get
    let off := Builtin.hasOption options 'n'
    if names.isEmpty then
      for name in builtinNames s.dialect do
        if Builtin.hasOption options 'a' then
          Eval.print (if s.disabled.contains name then s!"enable -n {name}\n" else s!"enable {name}\n")
        else if s.disabled.contains name == off then
          Eval.print (if off then s!"enable -n {name}\n" else s!"enable {name}\n")
      return 0
    names.foldlM (fun status name => do
      if !isBuiltin s.dialect name then
        report s!"{name}: not a shell builtin"
        return 1
      modify fun s =>
        let others := s.disabled.filter (· != name)
        { s with disabled := if off then name :: others else others }
      return status) 0

/-- Whether some signal has a command. -/
def hasTraps : Eval Bool := do
  return (← get).traps.any fun x => x.2 != ""

/-- Commands of the extended dialect that a mistake in a word leaves together with what surrounds
them. -/
def passingCommands : List String :=
  [".", "builtin", "command", "declare", "eval", "export", "local", "readonly", "source", "typeset"]

/-- Runs a command of the shell under its name. Its faults end no more than the command, unless it is
a special one. -/
def asBuiltin (name : String) (special : Bool) (body : Eval Nat) : Eval Unit := do
  let before := (← get).speaker
  modify fun s => { s with speaker := some name, writeError := none }
  let left ← attempt (do
    let status ← body
    setStatus status)
  match (← get).writeError with
  | some e => do
    if ← isExtended then report s!"write error: {e.reason}"
    else complain s!"{name}: I/O error"
    modify fun s => { s with writeError := none, status := if s.status = 0 then 1 else s.status }
  | none => pure ()
  modify fun s => { s with speaker := before }
  match left with
  | none => return
  | some .mistake =>
    if (← isExtended) || special then
      jump .mistake
  | some .discarded =>
    if passingCommands.contains name then jump .discarded else setStatus 1
  | some j => jump j

/-- Takes a process up among the jobs. A number is free if no job has it that still runs or whose end
nobody has waited for. -/
def addJob (id stages : Nat) (text : String) : Eval Unit :=
  modify fun s =>
    let isTaken (n : Nat) : Bool :=
      s.jobs.any fun job => job.number == n && !(job.ended.isSome && job.isAwaited)
    let number := ((List.range (s.jobs.length + 1)).map (· + 1)).find? (!isTaken ·)
      |>.getD (s.jobs.length + 1)
    { s with
      jobs := ⟨number, id, stages, none, false, text⟩ :: s.jobs.filter (·.number != number)
      lastJob := some id
      status := 0 }

/-- Waits for a child and takes its status. -/
def awaitChild (child : Nat) : Eval Unit := do
  let t ← ofProc (Proc.waitFor child)
  Builtin.tellSignal t
  setStatus (statusOf t)

/-- Waits for the stages of a pipeline; their status is that of the last one. -/
def awaitStages (children : List Nat) : Eval Unit := do
  let ends ← children.mapM fun child => do
    let t ← ofProc (Proc.waitFor child)
    Builtin.tellSignal t
    return statusOf t
  modify fun s => { s with stageStatuses := ends }
  let last := ends.getLast?.getD 0
  let failed := (ends.filter (· != 0)).getLast?.getD 0
  setStatus (if (← get).longOptions.contains "pipefail" then failed else last)

end Eval

end LinkBench.Host.Shell
