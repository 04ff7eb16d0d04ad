import LinkBench.Host.Installation
import LinkBench.Launch.Invoker
/-!
A system to start tools on: the programs and the tree of the installation, and a machine that runs them.
It is one system among others. What is proved of launches is proved of every system, so nothing rests on
what the programs of this one do.
-/

namespace LinkBench.Host

open Launch

/-- The process that starts tools. It waits all the time, in the working directory of the run. -/
def launcherId : Nat := 1

/-- The process of a tool. -/
def toolId : Nat := 4096

def launcher (cwd : Place) : Process where
  id := launcherId
  parent := 0
  stage := .running (.exit 0)
  isStopped := true
  descriptors := []
  cwd := cwd
  mask := Mode.usualMask
  actions := []
  pending := []

/-- The three descriptors that a tool is started with lead to streams of the same numbers. -/
def standardDescriptors : List Descriptor :=
  [0, 1, 2].map fun n => ⟨n, n, false⟩

def toolProcess (dir : Place) (b : Behaviour) : Process where
  id := toolId
  parent := launcherId
  stage := .running b
  isStopped := false
  descriptors := standardDescriptors
  cwd := dir
  mask := Mode.usualMask
  actions := []
  pending := []

/-- The state of the machine when a tool starts. -/
def machine (limit : Option Duration) (start : Start) (w : Workspace) (b : Behaviour) : Machine where
  files := w.files
  attributes := []
  clock := 0
  deadline := limit.map (·.nanoseconds)
  processes := [launcher w.cwd, toolProcess start.dir b]
  streams := [(0, .device .null), (1, if start.isQuiet then .device .null else .output), (2, .errors)]
  pipes := []
  output := []
  errors := []
  nextNumber := toolId + 1

/-- Lets what an ended tool has started go on for a while. -/
def settled (m : Machine) : Machine :=
  m.settle Installation.programs Machine.settleLimit

instance : Nonempty Termination := ⟨.exited 0⟩

/-- Runs a tool to its end, however long that takes. -/
partial def runToEnd (m : Machine) : Machine × Termination :=
  match m.runUntil Installation.programs toolId Machine.roundLimit with
  | (m, .ended t) => (m, t)
  | (m, .stopped) => runToEnd m

/-- Waits for a tool as long as the limit says. -/
def wait (m : Machine) : (limit : Option Duration) → Machine × Waited limit
  | none =>
    let (m, t) := runToEnd m
    (settled m, .ended t)
  | some timeout =>
    match m.runUntil Installation.programs toolId Machine.roundLimit with
    | (m, .ended t) => (settled m, .ended t)
    | (m, .stopped) => (m, .stopped timeout)

def run (limit : Option Duration) (start : Start) (w : Workspace) (streams : Streams) :
    Except IoError (Remains Streams limit) := do
  let some program := Installation.programs start.image.program | throw .execFormat
  let b := (program start.image.arguments Installation.environment).toBehaviour
  let (m, waited) := wait (machine limit start w b) limit
  return {
    waited
    workspace := ⟨m.files, ((m.processes.find? (·.id == launcherId)).map (·.cwd)).getD w.cwd⟩
    tools := ⟨streams.output ++ Machine.written m.output, streams.errors ++ Machine.written m.errors⟩ }

def system : System Streams where
  searchList := Installation.searchList
  run := run

end LinkBench.Host
