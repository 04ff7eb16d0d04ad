import LinkBench.Duration
import LinkBench.Host.Attributes
import LinkBench.Host.Signal
/-!
What a process does, seen from the system that it runs on. A process asks one thing after the other
and goes on with the answer, starts other processes, becomes another program, and ends. What it does
between two requests is its own affair; a program is written as a `Proc`, which is given what is done
with its value.
-/

namespace LinkBench.Host

/-- What a process has asked to happen when a signal comes in. -/
inductive SignalAction
  | byDefault
  | ignore
  /-- The signal is kept until the process asks for it. -/
  | collect
  deriving DecidableEq, Repr

/-- What a file is opened for. -/
inductive OpenMode
  | read
  /-- Makes the file if there is none, and empties it. -/
  | write
  | append
  | readWrite
  deriving DecidableEq, Repr

/-- What comes of waiting for a child. -/
inductive WaitResult
  | ended (id : Nat) (t : Termination)
  | noChild
  /-- A signal came in first. -/
  | interrupted
  deriving DecidableEq, Repr

/-- What a process can ask of the system. Descriptors are given by their numbers. -/
inductive Request
  /-- Lets a moment pass and yields the signals collected since the last time. -/
  | tick
  | sleep (d : Duration)
  /-- Reads at least one byte and at most `limit`; nothing at the end. -/
  | read (descriptor limit : Nat)
  /-- Reads up to and including a byte, or to the end. -/
  | readTo (descriptor : Nat) (last : UInt8)
  | write (descriptor : Nat) (bytes : Bytes)
  /-- Sets a file back by a number of bytes; where that is not possible, nothing happens. -/
  | rewind (descriptor count : Nat)
  /-- The number of bytes behind a descriptor that leads to a file. -/
  | sizeOf (descriptor : Nat)
  /-- Opens a file under the given descriptor. -/
  | openAt (descriptor : Nat) (path : Path) (mode : OpenMode)
  /-- Lets the target lead to where the source leads. -/
  | duplicate (source target : Nat)
  /-- Keeps where a descriptor leads under a new one that programs started later do not get. -/
  | save (descriptor : Nat)
  | close (descriptor : Nat)
  | isOpen (descriptor : Nat)
  /-- Whether what is written to a descriptor is thrown away. -/
  | isDiscarding (descriptor : Nat)
  /-- Makes a pipe and yields the descriptors of its two ends, the one to read from first. -/
  | pipe
  /-- The files, what is known of them, and the working directory. -/
  | view
  /-- Alters the files. -/
  | alter (f : FileSystem → Place → Except IoError Unit × List Alteration)
  /-- The bits that the modes of new entries do not have. -/
  | mask
  | setMask (mask : Nat)
  | changeDir (path : Path)
  | wait (child : Option Nat) (interruptible : Bool)
  /-- Takes the end of a child, if it has ended. -/
  | poll (child : Nat)
  | kill (target signal : Nat)
  | setAction (signal : Nat) (action : SignalAction)
  | getAction (signal : Nat)
  | ownId
  | parentId
  | now

/-- The form of the answer. -/
def Request.Answer : Request → Type
  | .tick => List Nat
  | .sleep _ => Unit
  | .read .. | .readTo .. => Except IoError Bytes
  | .write .. => Except IoError Unit
  | .rewind .. => Unit
  | .sizeOf _ => Option Nat
  | .openAt .. => Except IoError Unit
  | .duplicate .. => Except IoError Unit
  | .save _ => Option Nat
  | .close _ => Unit
  | .isOpen _ | .isDiscarding _ => Bool
  | .pipe => Nat × Nat
  | .view => View
  | .alter _ => Except IoError Unit
  | .mask => Nat
  | .setMask _ => Unit
  | .changeDir _ => Except IoError Unit
  | .wait .. => WaitResult
  | .poll _ => Option Termination
  | .kill .. => Except IoError Unit
  | .setAction .. => Unit
  | .getAction _ => SignalAction
  | .ownId | .parentId => Nat
  | .now => Duration

/-- The names and values that are handed over to a program. -/
abbrev Environment := List (String × String)

/-- What a process does from some moment on. -/
inductive Behaviour
  | exit (status : Nat)
  | ask (r : Request) (next : r.Answer → Behaviour)
  /-- Starts a process that does `child`, and goes on with its identifier. -/
  | fork (child : Behaviour) (next : Nat → Behaviour)
  /-- Becomes another program, and goes on only if that is not possible. -/
  | exec (file : Path) (arguments : List String) (environment : Environment)
      (failed : IoError → Behaviour)

/-- A part of a program that yields an `α`. -/
def Proc (α : Type) := (α → Behaviour) → Behaviour

namespace Proc

variable {α : Type}

instance : Monad Proc where
  pure a := fun next => next a
  bind p f := fun next => p fun a => f a next

def request (r : Request) : Proc r.Answer := fun next => .ask r next

/-- Ends the process. -/
def exit (status : Nat) : Proc α := fun _ => .exit status

/-- The behaviour of a program whose value is its exit status. -/
def toBehaviour (p : Proc Nat) : Behaviour := p .exit

def fork (child : Proc Nat) : Proc Nat := fun next => .fork child.toBehaviour next

/-- Becomes another program; yields why that is not possible. -/
def exec (file : Path) (arguments : List String) (environment : Environment) : Proc IoError :=
  fun next => .exec file arguments environment next

def tick : Proc (List Nat) := request .tick

def view : Proc View := request .view

/-- Makes the alterations of an operation, if it succeeds. -/
def modify (f : FileSystem → Place → Except IoError (List Alteration)) : Proc (Except IoError Unit) :=
  request <| .alter fun files cwd =>
    match f files cwd with
    | .ok alterations => (.ok (), alterations)
    | .error e => (.error e, [])

/-- Makes the changes of an operation, if it succeeds. -/
def change (f : FileSystem → Place → Except IoError (List Change)) : Proc (Except IoError Unit) :=
  modify fun files cwd => return (← f files cwd).map .tree

/-- An operation that may have changed files when it fails. -/
def alter (f : FileSystem → Place → Except IoError Unit × List Change) :
    Proc (Except IoError Unit) :=
  request <| .alter fun files cwd =>
    let (result, changes) := f files cwd
    (result, changes.map .tree)

/-- Waits for one child and says how it has ended. -/
def waitFor (child : Nat) : Proc Termination := do
  match ← (request (.wait (some child) false) : Proc WaitResult) with
  | .ended _ t => return t
  | _ => return .exited 127

end Proc

end LinkBench.Host
