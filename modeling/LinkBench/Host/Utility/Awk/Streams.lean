import LinkBench.Host.Utility.Awk.Store
import LinkBench.Host.Utility.Awk.Token
import LinkBench.Host.Utility.Wrapper
/-!
The files and commands that programs read from and write to. They are opened when they are used first, and
stay open until they are closed. What goes to the standard output waits until there is much of it, or until
a command is started.
-/

namespace LinkBench.Host.Utility.Awk

/-- What the whole run keeps to. -/
structure Settings where
  command : String
  program : Program
  environment : Environment

namespace Run

/-! ### Writing -/

/-- As much may wait to be written. -/
def waitingLimit : Nat := 4096

/-- Ends the run because something cannot be written. -/
def failWriting (c : Settings) (name : String) (e : IoError) : Run Unit := do
  ofProc <| Proc.printError <|
    s!"{c.command}: write failure ({e.reason})\n{c.command}: close failure on file {name}\n"
  ofProc (Proc.exit 2)

def flush (c : Settings) : Run Unit := do
  let text := String.join (← get).waiting.reverse
  modify fun s => { s with waiting := [], waitingSize := 0 }
  if text ≠ "" then
    match ← ofProc (Proc.write Proc.standardOutput text) with
    | .ok () => pure ()
    | .error e => failWriting c "/dev/stdout" e

/-- Puts a text on the standard output. -/
def put (c : Settings) (text : String) : Run Unit := do
  modify fun s => { s with waiting := text :: s.waiting, waitingSize := s.waitingSize + text.length }
  if waitingLimit < (← get).waitingSize then
    flush c

/-- Becomes a shell that does a command. -/
def becomeShell (c : Settings) (command : String) : Proc Nat := do
  let _ ← Proc.exec (.ofString shellPath) ["sh", "-c", command] c.environment
  return 127

def freshDescriptor : Run Nat := do
  let n := (← get).nextDescriptor
  modify fun s => { s with nextDescriptor := n + 1 }
  return n

/-- Closes what programs read and write in a process that has been started. -/
def closeAll (s : Store) : Proc Unit := do
  for o in s.outputs do
    if o.descriptor ≠ Proc.standardOutput ∧ o.descriptor ≠ Proc.standardError then
      (Proc.request (.close o.descriptor) : Proc Unit)
  for (_, i) in s.inputs do
    if i.descriptor ≠ Proc.standardInput then
      (Proc.request (.close i.descriptor) : Proc Unit)

/-- Starts a command whose standard input or output leads to the run. Yields the descriptor of the other
end, and the process. -/
def startCommand (c : Settings) (command : String) (isRead : Bool) : Run (Nat × Nat) := do
  flush c
  let (reader, writer) : Nat × Nat ← ask .pipe
  let s ← get
  let (own, other) := if isRead then (reader, writer) else (writer, reader)
  let standard := if isRead then Proc.standardOutput else Proc.standardInput
  let child ← ofProc <| Proc.fork do
    closeAll s
    (Proc.request (.close own) : Proc Unit)
    let _ ← (Proc.request (.duplicate other standard) : Proc (Except IoError Unit))
    (Proc.request (.close other) : Proc Unit)
    becomeShell c command
  ask (.close other)
  return (own, child)

/-- The status that a command has ended with. -/
def endStatus : Termination → Nat
  | .exited status => status
  | .signalled signal => 256 + signal

/-- Closes an output, and waits for its command; yields the status. -/
def closeOutput (o : Output) : Run Nat := do
  if o.descriptor ≠ Proc.standardOutput ∧ o.descriptor ≠ Proc.standardError then
    ask (.close o.descriptor)
  match o.child with
  | some child => return endStatus (← ofProc (Proc.waitFor child))
  | none => return 0

/-- Closes all outputs at the end of the run. -/
def finish (c : Settings) : Run Unit := do
  let outputs := (← get).outputs
  modify fun s => { s with outputs := [] }
  for o in outputs do
    let _ ← closeOutput o
  flush c

/-- Complains, closes all outputs and ends the run. -/
def abandon (c : Settings) (message : String) : Run Unit := do
  ofProc (Proc.printError s!"{c.command}: {message}\n")
  finish c
  ofProc (Proc.exit 2)

/-- Where output of a kind goes under a name, opened if it is not. -/
def outputFor (c : Settings) (kind : OutputKind) (name : String) : Run Output := do
  let isSame (o : Output) : Bool :=
    o.name == name && (o.kind == .command) == (kind == .command)
  match (← get).outputs.find? isSame with
  | some o => return o
  | none =>
    let opened ← match kind with
      | .command =>
        let (descriptor, child) ← startCommand c name false
        pure (⟨.command, name, descriptor, some child⟩ : Output)
      | kind =>
        if name = "/dev/stdout" ∨ name = "-" then pure ⟨kind, name, Proc.standardOutput, none⟩
        else if name = "/dev/stderr" then pure ⟨kind, name, Proc.standardError, none⟩
        else
          let descriptor ← freshDescriptor
          let result : Except IoError Unit ← ask <|
            .openAt descriptor (Proc.pathOf name) (if kind = .append then .append else .write)
          match result with
          | .ok () => pure ⟨kind, name, descriptor, none⟩
          | .error e =>
            abandon c s!"cannot open \"{name}\" for output ({e.reason})"
            pure ⟨kind, name, descriptor, none⟩
    modify fun s => { s with outputs := s.outputs ++ [opened] }
    return opened

def putTo (c : Settings) (kind : OutputKind) (name text : String) : Run Unit := do
  let o ← outputFor c kind name
  if o.descriptor = Proc.standardOutput then put c text
  else
    match ← ofProc (Proc.write o.descriptor text) with
    | .ok () => pure ()
    | .error e => if kind ≠ .command then failWriting c name e

def closeInput (i : Input) : Run Nat := do
  if i.descriptor ≠ Proc.standardInput then
    ask (.close i.descriptor)
  match i.child with
  | some child => return endStatus (← ofProc (Proc.waitFor child))
  | none => return 0

/-- Closes all that is open under a name; yields the last status, or nothing if nothing is. -/
def closeNamed (c : Settings) (name : String) : Run (Option Nat) := do
  let s ← get
  let outputs := s.outputs.filter (·.name == name)
  let inputs := s.inputs.filter (·.1.2 == name)
  set { s with
    outputs := s.outputs.filter (·.name != name)
    inputs := s.inputs.filter (·.1.2 != name) }
  if outputs.any (·.descriptor == Proc.standardOutput) then
    flush c
  let mut status : Option Nat := none
  for o in outputs do
    status := some (← closeOutput o)
  for (_, i) in inputs do
    status := some (← closeInput i)
  return status

/-! ### Reading -/

/-- Reads the next line of a text. Yields what is left of the text, and the line or why there is none.
The fuel bounds the number of blocks. -/
def readLine (e : LineEnd) : Nat → Input → Proc (Input × Except IoError (Option String))
  | 0, i => return (i, .ok none)
  | fuel + 1, i => do
    match e.cut? i.isWhole i.buffer with
    | some (line, rest) => return ({ i with buffer := rest }, .ok (some (String.ofList line)))
    | none =>
      if i.isWhole then return (i, .ok none)
      let piece : Except IoError Bytes ← Proc.request (.read i.descriptor Proc.blockSize)
      match piece with
      | .error e => return ({ i with isWhole := true }, .error e)
      | .ok [] => readLine e fuel { i with isWhole := true }
      | .ok bytes => readLine e fuel { i with buffer := i.buffer ++ (bytes.map ByteText.ofByte) }

def lineEnd : Run LineEnd := do return LineEnd.ofText (← globalText "RS")

/-- The input of a file or command, opened if it is not; nothing if it cannot be. -/
def inputFor (c : Settings) (isCommand : Bool) (name : String) : Run (Option Input) := do
  match (← get).inputs.lookup (isCommand, name) with
  | some i => return some i
  | none =>
    let opened? : Option Input ← if isCommand then do
        let (descriptor, child) ← startCommand c name true
        pure (some ⟨descriptor, [], false, some child⟩)
      else if name = "-" ∨ name = "/dev/stdin" then
        pure (some ⟨Proc.standardInput, [], false, none⟩)
      else do
        let descriptor ← freshDescriptor
        let result : Except IoError Unit ← ask (.openAt descriptor (Proc.pathOf name) .read)
        match result with
        | .ok () => pure (some ⟨descriptor, [], false, none⟩)
        | .error _ => pure none
    if let some i := opened? then
      modify fun s => { s with inputs := ((isCommand, name), i) :: s.inputs }
    return opened?

/-- What comes of reading a line. -/
inductive Reading
  | line (text : String)
  | finished
  | failed

/-- The next line of a file or command. -/
def lineFrom (c : Settings) (isCommand : Bool) (name : String) : Run Reading := do
  match ← inputFor c isCommand name with
  | none => return .failed
  | some i =>
    let (i, result) ← ofProc (readLine (← lineEnd) Proc.blockLimit i)
    modify fun s => { s with
      inputs := s.inputs.map fun x => if x.1 = (isCommand, name) then (x.1, i) else x }
    match result with
    | .ok (some line) => return .line line
    | .ok none => return .finished
    | .error e =>
      abandon c s!"read error ({e.reason})"
      return .failed

/-! ### The lines that the rules are for -/

/-- The text of an argument that sets a variable: its name and its value. -/
def assignment? (argument : String) : Option (String × String) :=
  let cs := argument.toList
  let name := cs.takeWhile Token.isNameChar
  match cs.drop name.length with
  | '=' :: value =>
    if name.head?.any Token.isNameStart then
      some (String.ofList name, String.ofList (Token.unescaped value))
    else none
  | _ => none

/-- The text of an argument of the run. -/
def argumentText (i : Nat) : Run String := do
  let t ← tableOf (← arrayOf "ARGV")
  textOfValue ((t.get? (.number i)).getD .unset)

/-- Opens the next file of the arguments, or the standard input if there is none. Yields whether there is
one. The fuel bounds the number of arguments. -/
def openNext (c : Settings) : Nat → Run Bool
  | 0 => return false
  | fuel + 1 => do
    let s ← get
    let count := ((Floating.ofDouble (← global "ARGC").toNumber).integerPart?).getD 0
    let opened (i : Input) (name : String) : Run Bool := do
      setGlobal "FILENAME" (.text name)
      setGlobal "FNR" (.ofNat 0)
      modify fun s => { s with main := some i, hasOpened := true }
      return true
    if Int.ofNat s.argument < count then
      let text ← argumentText s.argument
      set { s with argument := s.argument + 1 }
      match assignment? text with
      | some (name, value) =>
        setGlobal name (.input value)
        openNext c fuel
      | none =>
        if text = "" then openNext c fuel
        else if text = "-" ∨ text = "/dev/stdin" then
          opened ⟨Proc.standardInput, [], false, none⟩ text
        else
          let descriptor ← freshDescriptor
          let result : Except IoError Unit ← ask (.openAt descriptor (Proc.pathOf text) .read)
          match result with
          | .ok () => opened ⟨descriptor, [], false, none⟩ text
          | .error e =>
            abandon c s!"cannot open {text} ({e.reason})"
            return false
    else if s.hasOpened then return false
    else opened ⟨Proc.standardInput, [], false, none⟩ "-"

/-- The next line of all files. The fuel bounds their number. -/
def nextLine (c : Settings) : Nat → Run (Option String)
  | 0 => return none
  | fuel + 1 => do
    match (← get).main with
    | none => if ← openNext c 1000000 then nextLine c fuel else return none
    | some i =>
      let (i, result) ← ofProc (readLine (← lineEnd) Proc.blockLimit i)
      match result with
      | .ok (some line) =>
        modify fun s => { s with main := some i }
        setGlobal "NR" (.number ((← global "NR").toNumber + 1))
        setGlobal "FNR" (.number ((← global "FNR").toNumber + 1))
        return some line
      | .ok none =>
        let _ ← closeInput i
        modify fun s => { s with main := none }
        nextLine c fuel
      | .error e =>
        abandon c s!"read error ({e.reason})"
        return none

end Run

end LinkBench.Host.Utility.Awk
