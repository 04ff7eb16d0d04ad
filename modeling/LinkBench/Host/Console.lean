import LinkBench.ByteText
import LinkBench.Host.Attributes
import LinkBench.Host.Behaviour
/-!
Reading and writing by descriptor, in texts of bytes, for programs that do little else.
-/

namespace LinkBench.Host

namespace Proc

variable {α : Type}

def standardInput : Nat := 0

def standardOutput : Nat := 1

def standardError : Nat := 2

def write (descriptor : Nat) (text : String) : Proc (Except IoError Unit) :=
  request (.write descriptor (ByteText.toBytes text))

/-- Writes to the standard output; what cannot be written is lost. -/
def print (text : String) : Proc Unit := do
  let _ ← write standardOutput text

def printBytes (bytes : Bytes) : Proc Unit := do
  let _ ← (request (.write standardOutput bytes) : Proc (Except IoError Unit))

def printError (text : String) : Proc Unit := do
  let _ ← write standardError text

/-- The number of bytes that are read at once. -/
def blockSize : Nat := 65536

/-- More blocks than any input has that ends. -/
def blockLimit : Nat := 4096

/-- Waits for ever. -/
def hang : Proc α := fun _ => .ask (.wait (some 0) false) fun _ =>
  .ask (.sleep (.ofSeconds 4000000000)) fun _ => .exit 1

/-- Reads a descriptor to its end; the pieces read so far are in backward order. -/
def readPieces (descriptor : Nat) : Nat → List Bytes → Proc (Except IoError Bytes)
  | 0, _ => hang
  | fuel + 1, pieces => do
    match ← (request (.read descriptor blockSize) : Proc (Except IoError Bytes)) with
    | .error e => return .error e
    | .ok [] => return .ok pieces.reverse.flatten
    | .ok piece => readPieces descriptor fuel (piece :: pieces)

def readAll (descriptor : Nat) : Proc (Except IoError Bytes) :=
  readPieces descriptor blockLimit []

/-- The present moment, in nanoseconds from 1970 on. -/
def presentTime : Proc Int := do
  let now : Duration ← request .now
  return Attributes.beginning + Int.ofNat now.nanoseconds

/-- The path of a text of bytes. -/
def pathOf (text : String) : Path := .ofString (ByteText.decode text)

/-- Why the contents of a file are not to be had. -/
inductive Refusal
  | opening (e : IoError)
  | reading (e : IoError)

def Refusal.reason : Refusal → String
  | .opening e | .reading e => e.reason

/-- The descriptor that programs open their files under. -/
def fileDescriptor : Nat := 3

/-- Opens a file to read from, or the standard input under the name `-`. -/
def openInput (name : String) : Proc (Except IoError Nat) := do
  if name = "-" then
    return .ok standardInput
  match ← (request (.openAt fileDescriptor (pathOf name) .read) : Proc (Except IoError Unit)) with
  | .ok () => return .ok fileDescriptor
  | .error e => return .error e

def closeInput (descriptor : Nat) : Proc Unit :=
  if descriptor = standardInput then pure () else request (.close descriptor)

/-- The bytes of a file, or of the standard input under the name `-`. -/
def contents (name : String) : Proc (Except Refusal Bytes) := do
  match ← openInput name with
  | .error e => return .error (.opening e)
  | .ok descriptor =>
    let result ← readAll descriptor
    closeInput descriptor
    return result.mapError .reading

end Proc

end LinkBench.Host
