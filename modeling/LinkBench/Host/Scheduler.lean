import LinkBench.Launch.Executable
import LinkBench.Host.Machine
import LinkBench.Host.Signal
/-!
Running processes. A process runs until it has to wait for another one, for a time, or has had its
turn; then it is the next one's turn. Where all wait for a time, the clock moves on to the first. A
launch is over when its first process has ended or its time is up.
-/

namespace LinkBench.Host

/-- The programs of the system by the bytes of their files. -/
abbrev Programs := Bytes → Option (List String → Environment → Proc Nat)

/-- What comes of a request. -/
inductive Outcome (α : Type)
  | answered (a : α) (m : Machine) (p : Process)
  /-- The answer comes when the clock has reached a time. -/
  | later (wakes : Nat) (a : α)
  /-- Other processes have to go on first. -/
  | blocked
  | killed (signal : Nat)

namespace Machine

/-- The nanoseconds that a moment lasts. -/
def moment : Nat := 1000

def pipeCapacity : Nat := 65536

/-! ### Descriptors -/

def streamAt? (m : Machine) (p : Process) (descriptor : Nat) : Option (Nat × Stream) := do
  let n ← p.streamOf? descriptor
  return (n, ← m.streams.lookup n)

def closeDescriptor (m : Machine) (p : Process) (descriptor : Nat) : Machine × Process :=
  match p.streamOf? descriptor with
  | none => (m, p)
  | some n =>
    let p := p.withoutDescriptor descriptor
    (m.dropStream p n, p)

/-- Lets a descriptor lead to a stream. -/
def install (m : Machine) (p : Process) (descriptor stream : Nat) : Machine × Process :=
  let (m, p) := if p.streamOf? descriptor = some stream then (m, p)
    else m.closeDescriptor p descriptor
  (m, p.withDescriptor ⟨descriptor, stream, false⟩)

/-- The stream of an opened file, and the machine with a new or emptied file. -/
def openStream (m : Machine) (p : Process) (path : Path) (mode : OpenMode) :
    Except IoError (Machine × Nat) := do
  let opened (m : Machine) (e : Entry) (l : Location) : Except IoError (Machine × Nat) :=
    match e with
    | .file .. => .ok (m.addStream (.file (.linked l) 0 mode))
    | .device (.descriptor n) =>
      match p.streamOf? n with
      | some stream => .ok (m, stream)
      | none => .error .notFound
    | .device d => .ok (m.addStream (.device d))
    | .directory => .ok (m.addStream .directory)
  match mode with
  | .read =>
    let place ← m.files.resolve p.cwd path
    match m.files.entryAt? place with
    | some e => opened m e place.base
    | none => .error .notFound
  | _ =>
    let l ← m.files.writable p.cwd path
    match m.files.get? l with
    | some (.file bytes executable) =>
      if mode = .write then
        opened { m with
            files := m.files.put l (.file [] executable)
            attributes := m.attributes.setModified l m.present }
          (.file [] executable) l
      else opened m (.file bytes executable) l
    | some e => opened m e l
    | none => opened (m.alterFor p (.tree (.put l (.file [] false)))) (.file [] false) l

/-! ### Reading and writing -/

def readStream (m : Machine) (p : Process) (n : Nat) (s : Stream) (limit : Nat) :
    Outcome (Except IoError Bytes) :=
  match s with
  | .file source offset mode =>
    if mode = .write ∨ mode = .append then .answered (.error .badDescriptor) m p
    else
      let bytes := ((m.bytesOf source).drop offset).take limit
      .answered (.ok bytes) (m.setStream n (.file source (offset + bytes.length) mode)) p
  | .device .null => .answered (.ok []) m p
  | .device _ => .answered (.ok (List.replicate limit 0)) m p
  | .directory => .answered (.error .isADirectory) m p
  | .pipeEnd pipe false =>
    let held := (m.pipes.lookup pipe).getD []
    if held = [] then
      if m.holdsEnd p pipe true then .blocked else .answered (.ok []) m p
    else
      .answered (.ok (held.take limit)) (m.setPipe pipe (held.drop limit)) p
  | _ => .answered (.error .badDescriptor) m p

/-- The bytes up to and including `last`. -/
def through (last : UInt8) (bytes : Bytes) : Bytes :=
  let before := bytes.takeWhile (· != last)
  bytes.take (before.length + 1)

def readStreamTo (m : Machine) (p : Process) (n : Nat) (s : Stream) (last : UInt8) :
    Outcome (Except IoError Bytes) :=
  match s with
  | .file source offset mode =>
    if mode = .write ∨ mode = .append then .answered (.error .badDescriptor) m p
    else
      let bytes := through last ((m.bytesOf source).drop offset)
      .answered (.ok bytes) (m.setStream n (.file source (offset + bytes.length) mode)) p
  | .device .null => .answered (.ok []) m p
  | .device _ => .blocked
  | .directory => .answered (.error .isADirectory) m p
  | .pipeEnd pipe false =>
    let held := (m.pipes.lookup pipe).getD []
    if held.contains last || held.length ≥ pipeCapacity || !m.holdsEnd p pipe true then
      let bytes := through last held
      .answered (.ok bytes) (m.setPipe pipe (held.drop bytes.length)) p
    else
      .blocked
  | _ => .answered (.error .badDescriptor) m p

/-- The bytes of a file when some are written at an offset. -/
def overwrite (old : Bytes) (offset : Nat) (bytes : Bytes) : Bytes :=
  if offset = old.length then old ++ bytes
  else
    let start := old.take offset
    start ++ List.replicate (offset - start.length) 0 ++ bytes ++ old.drop (offset + bytes.length)

def writeStream (m : Machine) (p : Process) (n : Nat) (s : Stream) (bytes : Bytes) :
    Outcome (Except IoError Unit) :=
  match s with
  | .file source offset mode =>
    if mode = .read then .answered (.error .badDescriptor) m p
    else
      let old := m.bytesOf source
      let offset := if mode = .append then old.length else offset
      let (m, source) := m.setBytes (overwrite old offset bytes) source
      .answered (.ok ()) (m.setStream n (.file source (offset + bytes.length) mode)) p
  | .device .full => .answered (.error .noSpace) m p
  | .device _ => .answered (.ok ()) m p
  | .output => .answered (.ok ()) { m with output := bytes :: m.output } p
  | .errors => .answered (.ok ()) { m with errors := bytes :: m.errors } p
  | .pipeEnd pipe true =>
    if !m.holdsEnd p pipe false then
      match p.actionFor Signal.brokenPipe with
      | .byDefault => .killed Signal.brokenPipe
      | _ => .answered (.error .brokenPipe) m p
    else
      let held := (m.pipes.lookup pipe).getD []
      if held.length ≥ pipeCapacity then .blocked
      else .answered (.ok ()) (m.setPipe pipe (held ++ bytes)) p
  | _ => .answered (.error .badDescriptor) m p

/-! ### Other processes -/

def waitResult (m : Machine) (p : Process) (child : Option Nat) (interruptible : Bool) :
    Outcome WaitResult :=
  let isChild (q : Process) : Bool := q.parent == p.id && (child.isNone || child == some q.id)
  let children := m.processes.filter isChild
  let ended := children.findSome? fun q =>
    match q.stage with
    | .ended t => some (q.id, t)
    | _ => none
  match ended with
  | some (id, t) =>
    .answered (.ended id t) { m with processes := m.processes.filter (·.id != id) } p
  | none =>
    if children.isEmpty then .answered .noChild m p
    else if interruptible && !p.pending.isEmpty then .answered .interrupted m p
    else .blocked

/-- A process that nobody waits for goes when it ends. -/
def orphan (m : Machine) (parent : Nat) : Machine :=
  { m with processes := m.processes.filterMap fun q =>
      if q.parent = parent then
        if q.isEnded then none else some { q with parent := 0 }
      else some q }

/-- Sends a signal. One that ends another process lets go of what that had open. -/
def signal (m : Machine) (p : Process) (target signal : Nat) : Outcome (Except IoError Unit) :=
  if target = p.id then
    .answered (.ok ()) m (p.receive signal)
  else if m.processes.any (·.id == target) then
    .answered (.ok ()) { m with processes := m.processes.map fun q =>
        if q.id = target then q.receive signal else q } p
  else
    .answered (.error (.other "No such process")) m p

/-! ### Requests -/

/-- Treats a request of the process that has its turn. -/
def perform (m : Machine) (p : Process) : (r : Request) → Outcome r.Answer
  | .tick =>
    .answered p.pending { m with clock := m.clock + moment } { p with pending := [] }
  | .sleep d => .later (m.clock + d.nanoseconds) ()
  | .read descriptor limit =>
    match m.streamAt? p descriptor with
    | some (n, s) => m.readStream p n s limit
    | none => .answered (.error .badDescriptor) m p
  | .readTo descriptor last =>
    match m.streamAt? p descriptor with
    | some (n, s) => m.readStreamTo p n s last
    | none => .answered (.error .badDescriptor) m p
  | .write descriptor bytes =>
    match m.streamAt? p descriptor with
    | some (n, s) =>
      if bytes = [] then .answered (.ok ()) m p else m.writeStream p n s bytes
    | none => .answered (if bytes = [] then .ok () else .error .badDescriptor) m p
  | .rewind descriptor count =>
    match m.streamAt? p descriptor with
    | some (n, .file source offset mode) =>
      .answered () (m.setStream n (.file source (offset - count) mode)) p
    | _ => .answered () m p
  | .sizeOf descriptor =>
    match m.streamAt? p descriptor with
    | some (_, .file source _ _) => .answered (some (m.bytesOf source).length) m p
    | _ => .answered none m p
  | .openAt descriptor path mode =>
    match m.openStream p path mode with
    | .ok (m, n) =>
      let (m, p) := m.install p descriptor n
      .answered (.ok ()) m p
    | .error e => .answered (.error e) m p
  | .duplicate source target =>
    match p.streamOf? source with
    | some n =>
      let (m, p) := m.install p target n
      .answered (.ok ()) m p
    | none => .answered (.error .badDescriptor) m p
  | .save descriptor =>
    match p.streamOf? descriptor with
    | some n =>
      let number := p.freeFrom 10
      .answered (some number) m (p.withDescriptor ⟨number, n, true⟩)
    | none => .answered none m p
  | .close descriptor =>
    let (m, p) := m.closeDescriptor p descriptor
    .answered () m p
  | .isOpen descriptor => .answered (p.streamOf? descriptor).isSome m p
  | .isDiscarding descriptor =>
    match m.streamAt? p descriptor with
    | some (_, .device .null) => .answered true m p
    | _ => .answered false m p
  | .pipe =>
    let pipe := m.nextNumber
    let m := { m with pipes := (pipe, []) :: m.pipes, nextNumber := pipe + 1 }
    let (m, reader) := m.addStream (.pipeEnd pipe false)
    let (m, writer) := m.addStream (.pipeEnd pipe true)
    let first := p.freeFrom 10
    let p := p.withDescriptor ⟨first, reader, true⟩
    let second := p.freeFrom 10
    .answered (first, second) m (p.withDescriptor ⟨second, writer, true⟩)
  | .view => .answered ⟨⟨m.files, p.cwd⟩, m.attributes⟩ m p
  | .alter f =>
    let (result, alterations) := f m.files p.cwd
    let (m, p) := m.alterAll p alterations
    .answered result m p
  | .mask => .answered p.mask m p
  | .setMask mask => .answered () m { p with mask }
  | .changeDir path =>
    match m.files.resolve p.cwd path with
    | .ok place =>
      match m.files.entryAt? place with
      | some .directory => .answered (.ok ()) m { p with cwd := place }
      | some _ => .answered (.error .notADirectory) m p
      | none => .answered (.error .notFound) m p
    | .error e => .answered (.error e) m p
  | .wait child interruptible => m.waitResult p child interruptible
  | .poll child =>
    match m.waitResult p (some child) false with
    | .answered (.ended _ t) m p => .answered (some t) m p
    | _ => .answered none m p
  | .kill target signal => m.signal p target signal
  | .setAction signal action =>
    .answered () m { p with actions := (signal, action) :: p.actions.filter (·.1 != signal) }
  | .getAction signal => .answered (p.actionFor signal) m p
  | .ownId => .answered p.id m p
  | .parentId => .answered p.parent m p
  | .now => .answered ⟨m.clock⟩ m p

/-! ### Turns -/

/-- Starts a process that shares what its parent has open. -/
def forkProcess (m : Machine) (p : Process) (child : Behaviour) : Machine × Nat :=
  let id := m.nextNumber
  let process : Process :=
    { p with id, parent := p.id, stage := .running child, isStopped := false, pending := [] }
  ({ m with processes := m.processes ++ [process], nextNumber := id + 1 }, id)

/-- Lets a process become another program. -/
def execProgram (programs : Programs) (m : Machine) (p : Process) (file : Path)
    (arguments : List String) (environment : Environment) :
    Except IoError (Machine × Process) := do
  let image ← Launch.Executable.load m.files p.cwd file arguments
  match programs image.program with
  | none => .error .execFormat
  | some program =>
    let closing := p.descriptors.filter (·.closesOnExec)
    let kept := { p with
      stage := .running (program image.arguments environment).toBehaviour
      descriptors := p.descriptors.filter (!·.closesOnExec)
      actions := p.actions.filter (·.2 == .ignore)
      pending := [] }
    .ok (closing.foldl (fun m d => m.dropStream kept d.stream) m, kept)

/-- Lets a process run until it has to wait or its turn is over, and says whether it did anything. -/
def advance (programs : Programs) : Nat → Bool → Machine → Process → Machine × Process × Bool
  | 0, acted, m, p => (m, p, acted)
  | fuel + 1, acted, m, p =>
    if p.isStopped || m.isExpired then (m, p, acted)
    else
      match p.stage with
      | .ended _ => (m, p, acted)
      | .sleeping wakes b =>
        if wakes ≤ m.clock then advance programs fuel true m { p with stage := .running b }
        else (m, p, acted)
      | .running (.exit status) => (m.orphan p.id, p.finish (.exited (status % 256)), true)
      | .running (.fork child next) =>
        let (m, id) := m.forkProcess p child
        advance programs fuel true m { p with stage := .running (next id) }
      | .running (.exec file arguments environment failed) =>
        match m.execProgram programs p file arguments environment with
        | .ok (m, p) => advance programs fuel true m p
        | .error e => advance programs fuel true m { p with stage := .running (failed e) }
      | .running (.ask r next) =>
        match m.perform p r with
        | .answered a m p =>
          if p.isEnded then (m.orphan p.id, p, true)
          else advance programs fuel true m { p with stage := .running (next a) }
        | .later wakes a => (m, { p with stage := .sleeping wakes (next a) }, true)
        | .blocked => (m, p, acted)
        | .killed signal => (m.orphan p.id, p.finish (.signalled signal), true)

/-- The number of requests in a turn. -/
def turnLength : Nat := 512

/-- Puts a process back to its place among the others, which are in the order of their start. -/
def insertProcess (p : Process) : List Process → List Process
  | [] => [p]
  | q :: rest => if p.id < q.id then p :: q :: rest else q :: insertProcess p rest

/-- Gives each process its turn. -/
def round (programs : Programs) : List Nat → Bool → Machine → Machine × Bool
  | [], acted, m => (m, acted)
  | id :: rest, acted, m =>
    match m.processes.find? (·.id == id) with
    | none => round programs rest acted m
    | some p =>
      let alone := { m with processes := m.processes.filter (·.id != id) }
      let (m, p, didAct) := advance programs turnLength false alone p
      let processes := if p.parent = 0 && p.isEnded then m.processes
        else insertProcess p m.processes
      round programs rest (acted || didAct) { m with processes }

/-- The first time at which a sleeping process wakes. -/
def nextWake? (m : Machine) : Option Nat :=
  let times := m.processes.filterMap fun p =>
    match p.stage with
    | .sleeping wakes _ => if p.isStopped then none else some wakes
    | _ => none
  times.min?

/-- The end of a process, if it has ended. -/
def terminationOf? (m : Machine) (id : Nat) : Option Termination :=
  m.processes.findSome? fun p =>
    match p.stage with
    | .ended t => if p.id = id then some t else none
    | _ => none

/-- How a launch comes to its end. -/
inductive Ending
  | ended (t : Termination)
  /-- The process did not end in time, or would not have ended at all. -/
  | stopped
  deriving DecidableEq, Repr

/-- Runs until a process has ended. The fuel bounds the number of rounds. -/
def runUntil (programs : Programs) (id : Nat) : Nat → Machine → Machine × Ending
  | 0, m => (m, .stopped)
  | fuel + 1, m =>
    match m.terminationOf? id with
    | some t => (m, .ended t)
    | none =>
      if m.isExpired then (m, .stopped)
      else
        match m.round programs (m.processes.map (·.id)) false with
        | (m, true) => runUntil programs id fuel m
        | (m, false) =>
          match m.nextWake? with
          | some wakes =>
            runUntil programs id fuel { m with clock := max m.clock wakes }
          | none => (m, .stopped)

/-- Lets the processes that are left go on as far as they get without waiting for a time. -/
def settle (programs : Programs) : Nat → Machine → Machine
  | 0, m => m
  | fuel + 1, m =>
    if m.isExpired then m
    else
      match m.round programs (m.processes.map (·.id)) false with
      | (m, true) => settle programs fuel m
      | (m, false) => m

/-- Bounds of the number of rounds while the first process runs, and after its end. -/
def roundLimit : Nat := 100000000

def settleLimit : Nat := 1000

end Machine

end LinkBench.Host
