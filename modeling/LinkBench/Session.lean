import LinkBench.Log
/-!
The state that a run works on, and actions on it. An action that fails keeps what it has changed up
to then. External tools are given as a function of an invocation, the file system and a state of
their own, so the same run can use real tools or prepared ones.
-/

namespace LinkBench

structure Session (σ : Type) extends Workspace where
  /-- The state of the external tools. -/
  tools : σ
  /-- The invocations issued so far, in order. -/
  calls : List Invocation
  /-- The events reported so far, in order. -/
  events : List Event

/-- What a tool leaves behind. -/
structure Reply (σ : Type) where
  result : Except ToolError Completion
  workspace : Workspace
  tools : σ
  events : List Event

/-- What launches external tools, given what the run sees. -/
abbrev Invoker (σ : Type) := Invocation → Workspace → σ → Reply σ

/-- A part of a run that yields an `α` or fails with an `ε`. -/
abbrev Action (σ ε : Type) := ExceptT ε (StateM (Session σ))

namespace Session

variable {σ : Type}

def start (w : Workspace) (tools : σ) : Session σ where
  toWorkspace := w
  tools := tools
  calls := []
  events := []

def isFile (s : Session σ) (p : Path) : Bool :=
  s.files.isFile s.cwd p

def isDirectory (s : Session σ) (p : Path) : Bool :=
  s.files.isDirectory s.cwd p

/-- Changes the file system; the working directory stays the same directory. -/
def change (s : Session σ) (changes : List Change) : Session σ :=
  { s with toWorkspace := s.toWorkspace.applyAll changes }

def report (s : Session σ) (e : Event) : Session σ :=
  { s with events := s.events ++ [e] }

end Session

namespace Action

variable {σ ε α : Type}

def ofState (f : Session σ → Except ε α × Session σ) : Action σ ε α :=
  fun s => f s

def fail (e : ε) : Action σ ε α :=
  fun s => (.error e, s)

def report (e : Event) : Action σ ε Unit :=
  fun s => (.ok (), s.report e)

/-- Asks the file system and changes nothing. -/
def ask (f : FileSystem → Place → α) : Action σ ε α :=
  fun s => (.ok (f s.files s.cwd), s)

/-- An operation that reads the file system. -/
def reading (f : FileSystem → Place → Except IoError α) : Action σ IoError α :=
  fun s => (f s.files s.cwd, s)

/-- An operation that changes the file system only if it succeeds. -/
def changing (f : FileSystem → Place → Except IoError (List Change)) : Action σ IoError Unit :=
  fun s =>
    match f s.files s.cwd with
    | .ok changes => (.ok (), s.change changes)
    | .error e => (.error e, s)

/-- An operation that may have changed the file system when it fails. -/
def altering (f : FileSystem → Place → Except IoError Unit × List Change) :
    Action σ IoError Unit :=
  fun s =>
    let (result, changes) := f s.files s.cwd
    (result, s.change changes)

/-- The same action with its failures under another description. -/
def mapError {ε' : Type} (f : ε → ε') (action : Action σ ε α) : Action σ ε' α :=
  fun s =>
    match action s with
    | (.ok a, s) => (.ok a, s)
    | (.error e, s) => (.error (f e), s)

/-- Runs `cleanUp` if and only if the action fails; the failure stays. -/
def onFailure (action : Action σ ε α) (cleanUp : Session σ → Session σ) : Action σ ε α :=
  fun s =>
    match action s with
    | (.ok a, s) => (.ok a, s)
    | (.error e, s) => (.error e, cleanUp s)

end Action

end LinkBench
