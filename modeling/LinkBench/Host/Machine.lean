import LinkBench.Host.Behaviour
import LinkBench.Host.Signal
/-!
The state of a system that runs processes: the files, the processes, what their descriptors lead to,
and what they have written to the descriptors that the first of them was started with.
-/

namespace LinkBench.Host

/-- Where the bytes of an open file are. A file that was removed lives on while it is open. -/
inductive FileSource
  | linked (l : Location)
  | unlinked (bytes : Bytes)

/-- What a descriptor leads to. Descriptors that were made from each other share one stream, and with
it the offset. -/
inductive Stream
  | file (source : FileSource) (offset : Nat) (mode : OpenMode)
  | device (d : Device)
  | directory
  | pipeEnd (pipe : Nat) (isWriter : Bool)
  /-- The standard output of the whole launch. -/
  | output
  /-- The standard error of the whole launch. -/
  | errors

structure Descriptor where
  number : Nat
  stream : Nat
  /-- Whether the descriptor is closed when the process becomes another program. -/
  closesOnExec : Bool

inductive Stage
  | running (b : Behaviour)
  /-- Goes on when the clock has reached a time. -/
  | sleeping (wakes : Nat) (b : Behaviour)
  | ended (t : Termination)

structure Process where
  id : Nat
  parent : Nat
  stage : Stage
  /-- Whether a signal has stopped the process. -/
  isStopped : Bool
  descriptors : List Descriptor
  cwd : Place
  /-- The bits that the modes of new entries do not have. -/
  mask : Nat
  /-- The signals that are not treated by default. -/
  actions : List (Nat × SignalAction)
  /-- The signals that were collected, in order. -/
  pending : List Nat

namespace Process

def isEnded (p : Process) : Bool :=
  match p.stage with
  | .ended _ => true
  | _ => false

def streamOf? (p : Process) (descriptor : Nat) : Option Nat :=
  (p.descriptors.find? (·.number == descriptor)).map (·.stream)

def withoutDescriptor (p : Process) (descriptor : Nat) : Process :=
  { p with descriptors := p.descriptors.filter (·.number != descriptor) }

def withDescriptor (p : Process) (d : Descriptor) : Process :=
  { p with descriptors := d :: (p.withoutDescriptor d.number).descriptors }

/-- The first descriptor from a number on that is free. -/
def freeFrom (p : Process) (least : Nat) : Nat :=
  let used := p.descriptors.map (·.number)
  ((List.range (used.length + 1)).map (· + least)).find? (fun n => !used.contains n)
    |>.getD (least + used.length)

/-- The process at its end, with nothing open. -/
def finish (p : Process) (t : Termination) : Process :=
  { p with stage := .ended t, descriptors := [], isStopped := false }

def actionFor (p : Process) (signal : Nat) : SignalAction :=
  (p.actions.lookup signal).getD .byDefault

/-- Signals that a process does not notice if it has not asked for them. -/
def unnoticed : List Nat := [17, 18, 23, 28]

/-- Signals that stop a process until it is continued. -/
def stopping : List Nat := [19, 20, 21, 22]

/-- What becomes of a process by a signal. Two signals cannot be kept away. -/
def receive (p : Process) (signal : Nat) : Process :=
  let action := if signal = Signal.kill ∨ signal = Signal.stop then .byDefault else p.actionFor signal
  let p := if signal = Signal.resume then { p with isStopped := false } else p
  if signal = 0 ∨ p.isEnded then p
  else
    match action with
    | .ignore => p
    | .collect => { p with pending := p.pending ++ [signal] }
    | .byDefault =>
      if signal ∈ unnoticed then p
      else if signal ∈ stopping then { p with isStopped := true }
      else p.finish (.signalled signal)

end Process

structure Machine where
  files : FileSystem
  /-- What else is known of the files. -/
  attributes : AttributeTable
  /-- The nanoseconds that have passed since the launch. -/
  clock : Nat
  /-- When the launch is ended from outside. -/
  deadline : Option Nat
  /-- The processes in the order of their start; one that is being run is left out. -/
  processes : List Process
  streams : List (Nat × Stream)
  /-- What is in the pipes. -/
  pipes : List (Nat × Bytes)
  /-- What was written to the standard output of the launch, the last piece first. -/
  output : List Bytes
  errors : List Bytes
  /-- A number that no stream, pipe or process has yet. -/
  nextNumber : Nat

namespace Machine

def written (pieces : List Bytes) : Bytes := pieces.reverse.flatten

def isExpired (m : Machine) : Bool :=
  match m.deadline with
  | some deadline => decide (deadline ≤ m.clock)
  | none => false

def setEntry {α : Type} (n : Nat) (a : α) : List (Nat × α) → List (Nat × α)
  | [] => [(n, a)]
  | x :: rest => if x.1 = n then (n, a) :: rest else x :: setEntry n a rest

def setStream (m : Machine) (n : Nat) (s : Stream) : Machine :=
  { m with streams := setEntry n s m.streams }

def setPipe (m : Machine) (n : Nat) (bytes : Bytes) : Machine :=
  { m with pipes := setEntry n bytes m.pipes }

/-- Adds a stream and yields its number. -/
def addStream (m : Machine) (s : Stream) : Machine × Nat :=
  ({ m with streams := (m.nextNumber, s) :: m.streams, nextNumber := m.nextNumber + 1 },
    m.nextNumber)

/-- Forgets the streams that no process leads to any more. -/
def dropStream (m : Machine) (p : Process) (n : Nat) : Machine :=
  let isUsed (q : Process) : Bool := q.descriptors.any (·.stream == n)
  if isUsed p || m.processes.any isUsed then m
  else { m with streams := m.streams.filter (·.1 != n) }

/-- Whether some process holds an end of a pipe. -/
def holdsEnd (m : Machine) (p : Process) (pipe : Nat) (isWriter : Bool) : Bool :=
  let ends := m.streams.filterMap fun (n, s) =>
    match s with
    | .pipeEnd id writer => if id == pipe && writer == isWriter then some n else none
    | _ => none
  (p :: m.processes).any fun q => q.descriptors.any fun d => ends.contains d.stream

/-- An open file behind a change of the tree. -/
def FileSource.after (files : FileSystem) (source : FileSource) (c : Change) : FileSource :=
  match source with
  | .unlinked _ => source
  | .linked l =>
    let unlink : FileSource :=
      match files.get? l with
      | some (.file bytes _) => .unlinked bytes
      | _ => .unlinked []
    match c with
    | .put .. => source
    | .erase removed => if removed <+: l then unlink else source
    | .clear emptied => if emptied <+: l ∧ emptied ≠ l then unlink else source
    | .move moved target =>
      if target <+: l then unlink
      else if moved <+: l then .linked (FileSystem.rebase moved target l)
      else source

/-- The present moment for what is changed, in nanoseconds from 1970 on. -/
def present (m : Machine) : Int :=
  Attributes.stepAt (Attributes.beginning + Int.ofNat m.clock)

/-- Makes a change to the files; open files and working directories stay what they are. -/
def change (m : Machine) (c : Change) : Machine :=
  { m with
    files := m.files.apply c
    attributes := m.attributes.after m.files m.present c
    processes := m.processes.map fun p => { p with cwd := p.cwd.after c }
    streams := match c with
      | .put .. => m.streams
      | _ => m.streams.map fun (n, s) =>
        match s with
        | .file source offset mode => (n, .file (FileSource.after m.files source c) offset mode)
        | _ => (n, s) }

/-- Sets the mode of an entry, which says whether a file can be executed. -/
def setMode (m : Machine) (l : Location) (mode : Nat) : Machine :=
  { m with
    files := match m.files.get? l with
      | some (.file bytes _) => m.files.put l (.file bytes (Mode.isExecutable mode))
      | _ => m.files
    attributes := m.attributes.setMode l (some mode) }

/-- Makes an alteration for a process, whose mask new entries have. -/
def alterFor (m : Machine) (p : Process) : Alteration → Machine
  | .tree (.put l e) =>
    let isNew := (m.files.get? l).isNone
    let m := m.change (.put l e)
    if isNew ∧ p.mask ≠ Mode.usualMask then m.setMode l (Mode.masked p.mask (Mode.full e))
    else m
  | .tree c => m.change c
  | .setMode l mode => m.setMode l mode
  | .stamp l time => { m with attributes := m.attributes.setModified l time }

def alterAll (m : Machine) (p : Process) (alterations : List Alteration) : Machine × Process :=
  (alterations.foldl (alterFor · p) m,
    { p with cwd := p.cwd.afterAll (alterations.filterMap Alteration.change?) })

/-- The bytes of an open file. -/
def bytesOf (m : Machine) : FileSource → Bytes
  | .unlinked bytes => bytes
  | .linked l =>
    match m.files.get? l with
    | some (.file bytes _) => bytes
    | _ => []

/-- Sets the bytes of an open file and yields where they are now. -/
def setBytes (m : Machine) (bytes : Bytes) : FileSource → Machine × FileSource
  | .unlinked _ => (m, .unlinked bytes)
  | .linked l =>
    match m.files.get? l with
    | some (.file _ executable) =>
      ({ m with
          files := m.files.put l (.file bytes executable)
          attributes := m.attributes.setModified l m.present },
        .linked l)
    | _ => (m, .linked l)

end Machine

end LinkBench.Host
