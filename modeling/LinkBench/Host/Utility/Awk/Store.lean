import LinkBench.Host.Utility.Awk.Fields
import LinkBench.Host.Utility.Awk.Program
import LinkBench.Host.Utility.Options
/-!
What a program that is under way keeps: its variables and arrays, the line and its fields, and the files
and commands that it reads from and writes to. A variable that has not been used yet may become an array;
functions get arrays as they are, and everything else by its value.
-/

namespace LinkBench.Host.Utility.Awk

/-- What a name stands for. -/
inductive Cell
  | value (v : Value)
  | array (id : Nat)
  /-- Nothing yet; as an array it would be the one with the number. -/
  | unused (id : Nat)

/-- A text that is read line by line. -/
structure Input where
  descriptor : Nat
  buffer : List Char
  isWhole : Bool
  child : Option Nat

structure Output where
  kind : OutputKind
  name : String
  descriptor : Nat
  child : Option Nat

structure Store where
  globals : Std.HashMap String Cell
  /-- The names of the function that is being run. -/
  locals : List (String × Cell)
  arrays : Std.HashMap Nat (Table Value)
  nextArray : Nat
  record : String
  /-- The fields of the line, once they are asked for. -/
  fields : Option (Array Value)
  /-- The text whose lines the rules are for. -/
  main : Option Input
  hasOpened : Bool
  /-- The number of the next argument. -/
  argument : Nat
  inputs : List ((Bool × String) × Input)
  outputs : List Output
  /-- The descriptor for the next file. -/
  nextDescriptor : Nat
  /-- What has been put out and not yet written, the last piece first. -/
  waiting : List String
  waitingSize : Nat
  /-- The rules for ranges of lines that have begun. -/
  begun : List Nat
  seed : Nat
  oldSeed : Value
  status : Nat
  expressions : Std.HashMap String Regex

/-- Why the usual order of steps is left. -/
inductive Departure
  | next
  | nextFile
  | exit
  | leave
  | again
  | give (v : Value)
  /-- The program cannot go on; what is said about it. -/
  | fault (message : String)

abbrev Run := ExceptT Departure (StateT Store Proc)

namespace Run

def ofProc {α : Type} (p : Proc α) : Run α := fun s => do
  let a ← p
  return (.ok a, s)

def ask (r : Request) : Run r.Answer := ofProc (Proc.request r)

/-! ### Names -/

/-- What a name stands for; one that is new stands for nothing yet. -/
def cellOf (name : String) : Run Cell := do
  let s ← get
  match s.locals.lookup name with
  | some c => return c
  | none =>
    match s.globals[name]? with
    | some c => return c
    | none =>
      let c := Cell.unused s.nextArray
      set { s with globals := s.globals.insert name c, nextArray := s.nextArray + 1 }
      return c

def setCell (name : String) (c : Cell) : Run Unit :=
  modify fun s =>
    if (s.locals.lookup name).isSome then
      { s with locals := s.locals.map fun x => if x.1 = name then (name, c) else x }
    else { s with globals := s.globals.insert name c }

/-- The number of the array that a name stands for. -/
def arrayOf (name : String) : Run Nat := do
  match ← cellOf name with
  | .array id => return id
  | .unused id =>
    setCell name (.array id)
    return id
  | .value _ => throw (.fault s!"reference to array {name}, which is a variable")

def tableOf (id : Nat) : Run (Table Value) := do
  return ((← get).arrays[id]?).getD .empty

def setTable (id : Nat) (t : Table Value) : Run Unit :=
  modify fun s => { s with arrays := s.arrays.insert id t }

/-! ### Forms and dividers -/

def global (name : String) : Run Value := do
  match (← get).globals[name]? with
  | some (.value v) => return v
  | _ => return .unset

def setGlobal (name : String) (v : Value) : Run Unit :=
  modify fun s => { s with globals := s.globals.insert name (.value v) }

/-- The form of numbers in texts. -/
def form : Run String := do
  match ← global "CONVFMT" with
  | .unset => return Value.usualForm
  | v => return v.toText Value.usualForm

def textOfValue (v : Value) : Run String := do
  match v with
  | .number x => return Value.numberText (← form) x
  | .unset => return ""
  | .text s | .input s => return s

def globalText (name : String) : Run String := do textOfValue (← global name)

/-! ### The line -/

/-- What divides fields. Where empty lines divide lines, line ends divide fields. -/
def splitRecord (text : String) : Run (List String) := do
  let d := Divider.ofText (← globalText "FS")
  if (← globalText "RS") = "" then
    match d with
    | .blanks => return d.split text
    | d => return (splitAtEach '\n' text.toList).flatMap fun line => d.split (String.ofList line)
  return d.split text

/-- The fields of the line. -/
def fields : Run (Array Value) := do
  match (← get).fields with
  | some found => return found
  | none =>
    let found := ((← splitRecord (← get).record).map Value.input).toArray
    modify fun s => { s with fields := some found }
    return found

def setRecord (text : String) : Run Unit :=
  modify fun s => { s with record := text, fields := none }

/-- Puts the line together from its fields. -/
def setFields (found : Array Value) : Run Unit := do
  let divider ← globalText "OFS"
  let texts ← found.toList.mapM textOfValue
  modify fun s => { s with record := divider.intercalate texts, fields := some found }

def field (i : Nat) : Run Value := do
  if i = 0 then
    return .input (← get).record
  return ((← fields)[i - 1]?).getD .unset

end Run

end LinkBench.Host.Utility.Awk
