import LinkBench.Host.Shell.Interpreter
/-!
The shell as a program: what its arguments mean, and where its script comes from.
-/

namespace LinkBench.Host.Shell

open Eval

/-- Where a script comes from. -/
inductive ScriptSource
  | argument (text : String)
  | file (name : String)
  | standardInput

/-- What the arguments of a shell ask for. -/
structure Invocation where
  source : ScriptSource
  name : String
  arguments : List String

/-- The state of a shell at its start; variables come from the environment. -/
def State.initial (d : Dialect) (name : String) (id : Nat) (environment : Environment) : State where
  dialect := d
  name := name
  arguments := []
  bindings := (environment.filter fun x => isName x.1).map fun (name, value) =>
    { name, value := some value, elements := none, isExported := true, isReadOnly := false }
  functions := []
  found := []
  aliases := []
  documents := []
  nextDocument := 0
  status := 0
  substitutionStatus := none
  id := id
  lastJob := none
  jobs := []
  options := if d == .extended then ['h', 'B'] else []
  longOptions := if d == .extended then firstSettings else []
  traps := []
  outerTraps := []
  caught := []
  isGuarded := false
  loopDepth := 0
  functionDepth := 0
  sourceDepth := 0
  shadowed := []
  line := 0
  lineShift := 0
  lastLine := 1
  speaker := none
  calls := []
  stageStatuses := []
  subshellDepth := 0
  lastArgument := name
  current := ""
  isHandling := false
  traceDepth := 0
  connections := []
  disabled := []
  directories := []
  seed := 1
  forgotten := []
  place := .start
  readsArgument := false
  writeError := none

/-- Sets the variables that a shell has from its start. -/
def setUp : Eval Unit := do
  setVariable "IFS" " \t\n"
  modify fun s => { s with bindings := s.bindings.map fun v =>
    if v.name = "IFS" then { v with isExported := false } else v }
  setVariable "OPTIND" "1"
  let parent : Nat ← ask .parentId
  setVariable "PPID" (toString parent)
  Builtin.exportValue "PWD" (← Builtin.currentDirectory)
  setVariable "PS4" "+ "
  if !(← isExtended) then
    setVariable "PS1" "# "
    setVariable "PS2" "> "
  if (← value? "PATH").isNone then
    setVariable "PATH" "/usr/local/sbin:/usr/local/bin:/usr/sbin:/usr/bin:/sbin:/bin"
  if ← isExtended then
    let level := ((← value? "SHLVL").bind String.toNat?).getD 0
    Builtin.exportValue "SHLVL" (toString (level + 1))
    let called := (← get).name
    setVariable "BASH" (if called.contains '/' then called else "/usr/bin/bash")
    setVariable "BASH_VERSION" "5.2.15(1)-release"
    setList "BASH_VERSINFO" ["5", "2", "15", "1", "release", "x86_64-pc-linux-gnu"]
    setVariable "HOSTTYPE" "x86_64"
    setVariable "MACHTYPE" "x86_64-pc-linux-gnu"
    setVariable "OSTYPE" "linux-gnu"
    setVariable "HOSTNAME" "localhost"
    setVariable "OPTERR" "1"
    for name in ["UID", "EUID"] do
      setVariable name "0"
    modify fun s => { s with bindings := s.bindings.map fun v =>
      { v with
        isReadOnly := v.isReadOnly || v.name ∈ ["UID", "EUID", "PPID", "BASH_VERSINFO"]
        isInteger := v.isInteger || v.name ∈ ["UID", "EUID", "PPID", "OPTIND"] } }
    for (name, text) in [("TERM", "dumb"), ("SHELL", "/bin/bash")] do
      if (← value? name).isNone then
        setVariable name text
    if (← value? "OLDPWD").isNone then
      exportVariable "OLDPWD"

/-- Leaves the shell because of its arguments. -/
def refuseArgument {α : Type} (text : String) : Eval α := do
  let s ← get
  match s.dialect with
  | .plain => printError s!"{s.name}: 0: {text}\n"
  | .extended => printError s!"{s.name}: {text}\n"
  setStatus 2
  jump .exit

/-- Reads the options in front of the arguments. Yields whether a script is among the arguments, and
the arguments left. The fuel bounds their number. -/
def readStartOptions : Nat → Bool → List String → Eval (Bool × List String)
  | 0, hasScript, arguments => return (hasScript, arguments)
  | fuel + 1, hasScript, arguments => do
    match arguments with
    | [] => return (hasScript, [])
    | "--" :: rest => return (hasScript, rest)
    | "-" :: rest => return (hasScript, rest)
    | a :: rest =>
      if (← isExtended) ∧ a ∈ ["--norc", "--noprofile", "--posix", "--login", "--noediting"] then
        return ← readStartOptions fuel hasScript rest
      match a.toList with
      | sign :: letters =>
        if (sign ≠ '-' ∧ sign ≠ '+') ∨ letters = [] then
          return (hasScript, a :: rest)
        else
          let (hasScript, rest) ← letterLoop (sign == '-') a hasScript rest letters
          readStartOptions fuel hasScript rest
      | [] => return (hasScript, a :: rest)
where
  letterLoop (on : Bool) (argument : String) (hasScript : Bool) (rest : List String) :
      List Char → Eval (Bool × List String)
    | [] => return (hasScript, rest)
    | 'c' :: letters => letterLoop on argument true rest letters
    | 'l' :: letters => letterLoop on argument hasScript rest letters
    | 'o' :: letters => do
      match rest with
      | name :: others =>
        if !(← Builtin.setLongName name on) then
          if ← isExtended then refuseArgument s!"{name}: invalid option name"
          else refuseArgument s!"Illegal option -o {name}"
        letterLoop on argument hasScript others letters
      | [] => do
        Builtin.showOptions (!on)
        letterLoop on argument hasScript rest letters
    | letter :: letters => do
      if !(← Builtin.setLetter letter on) then
        let shown := String.singleton letter
        if ← isExtended then refuseArgument s!"{argument}: invalid option"
        else refuseArgument s!"Illegal option -{shown}"
      letterLoop on argument hasScript rest letters

/-- What the arguments ask for, behind the name of the shell. -/
def readArguments (arguments : List String) : Eval Invocation := do
  let name := (← get).name
  let (hasScript, rest) ← readStartOptions (arguments.length + 1) false arguments
  if hasScript then
    match rest with
    | [] =>
      if ← isExtended then refuseArgument "-c: option requires an argument"
      else refuseArgument "-c requires an argument"
    | text :: rest =>
      return ⟨.argument text, rest.headD name, rest.tail⟩
  else if (← get).options.contains 's' then
    return ⟨.standardInput, name, rest⟩
  else
    match rest with
    | [] => do
      Builtin.switch 's' true
      return ⟨.standardInput, name, []⟩
    | file :: rest => return ⟨.file file, file, rest⟩

/-- More than the number of commands that any script comes to. -/
def commandLimit : Nat := 1000000000000

/-- Runs a script by what the arguments say. -/
def runScript (arguments : List String) : Eval Unit := do
  setUp
  let asked ← readArguments arguments
  let start : Eval Unit := modify fun s => { s with name := asked.name, arguments := asked.arguments }
  match asked.source with
  | .argument text => do
    start
    if ← isExtended then
      setVariable "BASH_EXECUTION_STRING" text
    modify fun s => { s with readsArgument := true }
    commandText commandLimit (!(← get).options.contains 's') .main 1 text
  | .standardInput => do
    start
    let bytes ← ofProc (Proc.readAll Proc.standardInput)
    commandText commandLimit false .main 1 (scriptText (bytes.toOption.getD []))
  | .file name => do
    match ← readScript name with
    | .ok bytes => do
      start
      modify fun s => { s with calls := [⟨"main", name, 0⟩] }
      commandText commandLimit false .main 1 (scriptText bytes)
    | .error .isADirectory => do
      if ← isExtended then
        printError s!"{name}: {name}: {IoError.isADirectory.reason}\n"
        setStatus 126
    | .error e => do
      let s ← get
      match s.dialect with
      | .plain => printError (s!"{s.name}: 0: " ++ openFault s .read name e ++ "\n")
      | .extended => printError s!"{s.name}: {name}: {e.reason}\n"
      setStatus (if s.dialect == .extended then (if e == .notFound then 127 else 126) else 2)
      jump .exit

/-- The shell of a dialect as a program. -/
def interpreter (d : Dialect) (arguments : List String) (environment : Environment) : Proc Nat := do
  let id : Nat ← Proc.request .ownId
  let state := State.initial d (arguments.headD "sh") id environment
  let (_, s) ← (asProcess commandLimit (runScript arguments.tail) : Eval Unit) state
  return s.status

end LinkBench.Host.Shell
