import LinkBench.Host.Shell.Expansion
/-!
Redirections: where descriptors lead while a command runs. What a descriptor led to before is kept
under a higher number and put back behind the command.
-/

namespace LinkBench.Host.Shell

/-- What is done to a descriptor. -/
inductive Rerouting
  | file (descriptor : Nat) (kind : RedirectKind) (name : String)
  | copy (descriptor source : Nat)
  /-- Leads to where a descriptor leads, which is closed. -/
  | move (descriptor source : Nat)
  | close (descriptor : Nat)
  /-- Leads from a text. -/
  | text (descriptor : Nat) (content : String)

def Rerouting.descriptor : Rerouting → Nat
  | file descriptor .. | copy descriptor _ | move descriptor _ | close descriptor
  | text descriptor _ => descriptor

/-- Descriptors with where they led before; those without were closed. -/
abbrev Saved := List (Nat × Option Nat)

namespace Eval

variable (run : Command → Eval Unit)

/-- The target of a redirection as one text, or what is said if it is none. -/
def targetText (w : Written) : Eval (Except String String) := do
  if ← isExtended then
    match ← fieldsOf run w.2 with
    | [text] => return .ok text
    | _ => return .error s!"{w.1}: ambiguous redirect"
  else
    return .ok (← singleText run w.2)

/-- The first number from one on that is no open descriptor. -/
def freeDescriptor : Nat → Nat → Eval Nat
  | 0, n => return n
  | fuel + 1, n => do
    let isUsed : Bool ← ask (.isOpen n)
    if isUsed then freeDescriptor fuel (n + 1) else return n

/-- The lowest descriptor that is given to a variable. -/
def firstFreeDescriptor : Nat := 10

/-- The number of a descriptor. A variable gets a new one, unless its own one is to be closed. -/
def numberOf (closes : Bool) : Descriptor → Eval Nat
  | .number n => return n
  | .variable name => do
    if closes then
      return ((← value? name).bind String.toNat?).getD 0
    else
      let n ← freeDescriptor 1000 firstFreeDescriptor
      setVariable name (toString n)
      return n

/-- What a redirection asks for, or what is said if it makes no sense. -/
def reroutings (r : Redirect) : Eval (Except String (List Rerouting)) := do
  match r with
  | .document descriptor number _ _ => do
    let w := ((← get).documents.lookup number).getD ("", [])
    let text ← documentText run w.2
    return .ok [.text (← numberOf false descriptor) text]
  | .word descriptor w => do
    let text ← singleText run w.2
    return .ok [.text (← numberOf false descriptor) (text ++ "\n")]
  | .file descriptor (.duplicate isWriter) w => do
    match ← targetText run w with
    | .error reason => return .error reason
    | .ok text => do
      let extended ← isExtended
      let isNumber (text : String) : Bool :=
        text ≠ "" && text.toList.all (·.isDigit) && (extended || text.length == 1)
      let source := (text.dropEnd 1).toString
      let n ← numberOf (text == "-") descriptor
      if text = "-" then return .ok [.close n]
      else if isNumber text then return .ok [.copy n (text.toNat?.getD 0)]
      else if extended ∧ text.endsWith "-" ∧ isNumber source then
        return .ok [.move n (source.toNat?.getD 0)]
      else if !extended then do
        setLine (← get).lastLine
        fatal "Syntax error: Bad fd number"
      else if isWriter ∧ descriptor = .number 1 then return .ok [.file 1 .write text, .copy 2 1]
      else return .error s!"{w.1}: ambiguous redirect"
  | .file descriptor kind w => do
    match ← targetText run w with
    | .error reason => return .error reason
    | .ok name => do
      match kind with
      | .writeBoth => return .ok [.file 1 .write name, .copy 2 1]
      | .appendBoth => return .ok [.file 1 .append name, .copy 2 1]
      | kind => return .ok [.file (← numberOf false descriptor) kind name]

/-- Whether what a descriptor led to before is kept for the end of the command. -/
def isForNow : Redirect → Bool
  | .document (.variable _) .. | .word (.variable _) _ | .file (.variable _) .. => false
  | _ => true

/-- Why a file could not be opened, in the words of the dialect. -/
def openFault (s : State) (kind : RedirectKind) (name : String) (e : IoError) : String :=
  match s.dialect with
  | .extended => s!"{name}: {e.reason}"
  | .plain =>
    let isMissing := e == .notFound || e == .notADirectory
    let reason (missing : String) : String := if isMissing then missing else e.reason
    match kind with
    | .read => s!"cannot open {name}: " ++ reason "No such file"
    | _ => s!"cannot create {name}: " ++ reason "Directory nonexistent"

def modeOf : RedirectKind → OpenMode
  | .read => .read
  | .append | .appendBoth => .append
  | .readWrite => .readWrite
  | _ => .write

/-- Whether a file must not be emptied. -/
def isProtected (kind : RedirectKind) (name : String) : Eval Bool := do
  if kind != .write || !(← get).options.contains 'C' then
    return false
  let w ← ofProc Proc.view
  return w.files.isFile w.cwd (Proc.pathOf name)

/-- Does what is asked for a descriptor; yields a complaint if it cannot be done. -/
def reroute (r : Rerouting) : Eval (Option String) := do
  match r with
  | .close descriptor => do
    ask (.close descriptor)
    return none
  | .copy descriptor source => do
    if descriptor = source then
      return none
    let result : Except IoError Unit ← ask (.duplicate source descriptor)
    match result with
    | .ok () => return none
    | .error e => return some s!"{source}: {e.reason}"
  | .move descriptor source => do
    let result : Except IoError Unit ← ask (.duplicate source descriptor)
    match result with
    | .ok () => do
      ask (.close source)
      return none
    | .error e => return some s!"{source}: {e.reason}"
  | .text descriptor content => do
    let (reader, writer) : Nat × Nat ← ask .pipe
    let _ ← ofProc (Proc.write writer content)
    ask (.close writer)
    let _ ← ask (.duplicate reader descriptor)
    ask (.close reader)
    return none
  | .file descriptor kind name => do
    let s ← get
    if ← isProtected kind name then
      return some (openFault s kind name
        (if s.dialect == .extended then .other "cannot overwrite existing file"
          else .alreadyExists))
    let result : Except IoError Unit ← ask (.openAt descriptor (Proc.pathOf name) (modeOf kind))
    match result with
    | .ok () => return none
    | .error e => return some (openFault s kind name e)

/-- Keeps where a descriptor leads, unless that is kept already. -/
def keep (saved : Saved) (descriptor : Nat) : Eval Saved := do
  if saved.any (·.1 == descriptor) then
    return saved
  else
    let copy : Option Nat ← ask (.save descriptor)
    return (descriptor, copy) :: saved

/-- Lets the descriptors lead to where they led before. -/
def restore : Saved → Eval Unit
  | [] => return
  | (descriptor, some copy) :: rest => do
    let _ ← ask (.duplicate copy descriptor)
    ask (.close copy)
    restore rest
  | (descriptor, none) :: rest => do
    ask (.close descriptor)
    restore rest

/-- Forgets where descriptors led before. -/
def forget : Saved → Eval Unit
  | [] => return
  | (_, some copy) :: rest => do
    ask (.close copy)
    forget rest
  | (_, none) :: rest => forget rest

/-- Reroutes descriptors one after the other; yields what was led elsewhere before, and a complaint at
the first fault. -/
def rerouteAll (isForNow : Bool) : Saved → List Rerouting → Eval (Saved × Option String)
  | saved, [] => return (saved, none)
  | saved, r :: rest => do
    let saved ← if isForNow then keep saved r.descriptor else pure saved
    match ← reroute r with
    | none => rerouteAll isForNow saved rest
    | some complaint => return (saved, some complaint)

/-- Applies redirections one after the other; at a fault nothing is left of them. -/
def redirectEach : Saved → List Redirect → Eval (Option Saved)
  | saved, [] => return some saved
  | saved, r :: rest => do
    let wanted ← tryCatch (reroutings run r) fun j => do
      restore saved
      throw j
    match wanted with
    | .error complaint => do
      restore saved
      complain complaint
      return none
    | .ok wanted => do
      match ← rerouteAll (isForNow r) saved wanted with
      | (saved, none) => redirectEach saved rest
      | (saved, some complaint) => do
        restore saved
        complain complaint
        return none

/-- Applies redirections. At a fault nothing is left of them, and a status says so. -/
def redirect (redirects : List Redirect) : Eval (Option Saved) := do
  match ← redirectEach run [] redirects with
  | some saved => return some saved
  | none => do
    setStatus (if ← isExtended then 1 else 2)
    return none

/-- Runs a part and then another one, however the first one ends. -/
def ensuring {α : Type} (body : Eval α) (after : Eval Unit) : Eval α := fun s => do
  let (result, t) ← body s
  let (_, u) ← after t
  return (result, u)

/-- Runs a part with redirections; it is left out if they fail. -/
def withRedirects (redirects : List Redirect) (body : Eval Unit) : Eval Unit := do
  match ← redirect run redirects with
  | none => return
  | some saved => ensuring body (restore saved)

end Eval

end LinkBench.Host.Shell
