import LinkBench.CommandLine.Parser
import LinkBench.Launch.Executable
import LinkBench.Session
/-!
The invoker that starts programs: it looks the program up, lets the system run it in the directory of
the invocation, and reports how that has ended. The system is a parameter: nothing is said of what its
programs do, but for what the type of an answer says, that a tool is stopped only under a limit.
-/

namespace LinkBench.Launch

structure Settings where
  /-- How long a tool may run; absent if it may run for ever. -/
  timeout : Option Duration
  /-- Whether the standard output of the tools is thrown away. -/
  quiet : Bool
  deriving DecidableEq

/-- A timeout of zero seconds sets no limit. -/
def Settings.ofArguments (a : CommandLine.Arguments) : Settings where
  timeout := if a.timeout = 0 then none else some (.ofSeconds a.timeout)
  quiet := a.quiet

/-! ### The system -/

/-- A program to start, with its arguments. -/
structure Start where
  image : Executable.Image
  /-- The directory that it runs in. -/
  dir : Place
  /-- Whether its standard output is thrown away. -/
  isQuiet : Bool

/-- What comes of waiting for a tool that may run as long as the limit says. -/
inductive Waited : Option Duration → Type
  | ended {limit : Option Duration} (t : Termination) : Waited limit
  /-- The system cannot say how the tool ends. -/
  | failed {limit : Option Duration} (e : IoError) : Waited limit
  /-- The time was up, and the tool has been stopped. -/
  | stopped (timeout : Duration) : Waited (some timeout)

namespace Waited

variable {limit : Option Duration}

def result (name : String) : Waited limit → Except ToolError Completion
  | .ended t => .ok t.completion
  | .failed e => .error (.wait name e)
  | .stopped timeout => .error (.timedOut name timeout)

/-- Only an end without success is reported. -/
def events (name : String) : Waited limit → List Event
  | .ended t => if t.isSuccess then [] else [.unsuccessful name t]
  | .failed _ | .stopped _ => []

end Waited

/-- What a tool leaves behind. -/
structure Remains (σ : Type) (limit : Option Duration) where
  waited : Waited limit
  workspace : Workspace
  tools : σ

/-- What tools are started on. -/
structure System (σ : Type) where
  /-- The directories that a program of a single name is looked for in. -/
  searchList : List Path
  /-- Runs a program until it ends or the time is up, unless it cannot be started. -/
  run (limit : Option Duration) (start : Start) (w : Workspace) (tools : σ) :
    Except IoError (Remains σ limit)

/-- What tools have written to the descriptors that they inherit. -/
structure Streams where
  output : Bytes
  errors : Bytes
  deriving DecidableEq

def Streams.empty : Streams := ⟨[], []⟩

/-! ### Looking up -/

/-- The path that is executed for an invocation: a relative one of more than one component is taken
to be seen from the directory that the tool runs in. -/
def programPath (inv : Invocation) : Path :=
  if inv.program.isCompound then inv.currentDir.join inv.program else inv.program

/-- Whether the texts that start a program can be handed over: none of them may hold a NUL. -/
def isTransferable (inv : Invocation) : Bool :=
  !(inv.program.holdsNul || inv.currentDir.holdsNul || inv.args.any (·.toList.contains '\x00'))

/-- The directory that a tool runs in, and what runs there under which arguments. -/
def locate (searchList : List Path) (w : Workspace) (inv : Invocation) :
    Except IoError (Place × Executable.Image) := do
  if !isTransferable inv then
    throw (.other "nul byte found in provided data")
  let dir ← w.files.resolve w.cwd inv.currentDir
  match w.files.entryAt? dir with
  | some .directory =>
    let program := programPath inv
    let arguments := (program.text :: inv.args).map ByteText.encode
    return (dir, ← Executable.find w.files dir searchList program arguments)
  | some _ => throw .notADirectory
  | none => throw .notFound

/-! ### Running -/

/-- Starts the program of an invocation and waits for its end. -/
def System.invoker {σ : Type} (system : System σ) (settings : Settings) : Invoker σ :=
  fun inv w tools =>
    let name := inv.toolName
    let remains := do
      let (dir, image) ← locate system.searchList w inv
      system.run settings.timeout ⟨image, dir, settings.quiet⟩ w tools
    match remains with
    | .error e =>
      { result := .error (.spawn name e), workspace := w, tools, events := [.launching inv] }
    | .ok remains =>
      { result := remains.waited.result name
        workspace := remains.workspace
        tools := remains.tools
        events := .launching inv :: remains.waited.events name }

end LinkBench.Launch
