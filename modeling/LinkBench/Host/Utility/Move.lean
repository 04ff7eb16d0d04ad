import LinkBench.Host.Utility.Targets
/-!
Moving and linking files. There are no links in a tree, so a link to a file is another file with the same
bytes.
-/

namespace LinkBench.Host.Utility

open Options

/-! ### Moving -/

/-- Why a target that exists cannot be taken, unless a backup of it is made. -/
def moveObstacle? (t : Transfer) (source target : Entry) : Option String :=
  match source.isDirectory, target.isDirectory with
  | false, true => some s!"cannot overwrite directory {Quoting.always t.target} with non-directory"
  | true, false =>
    some s!"cannot overwrite non-directory {Quoting.always t.target} with directory {Quoting.always t.source}"
  | _, _ => none

/-- Gives the source its new name. -/
def renameTo (command : String) (announces : Bool) (note : String) (t : Transfer) : Proc Nat := do
  let result ← Proc.change fun files cwd =>
    files.rename cwd (Proc.pathOf t.source) (Proc.pathOf t.target)
  match result with
  | .ok () =>
    if announces then
      Proc.print s!"renamed {t.shown}{note}\n"
    return 0
  | .error .invalidArgument =>
    failWith command
      s!"cannot move {Quoting.always t.source} to a subdirectory of itself, {Quoting.always t.target}" 1
  | .error e =>
    failWith command
      s!"cannot move {Quoting.always t.source} to {Quoting.always t.target}: {e.reason}" 1

def moveOne (command : String) (given : Given) (backup : Backup) (r : Record) (t : Transfer) :
    Proc Nat := do
  let choice := given.lastOf? ["i", "n", "f"]
  match ← factsOf t.source, ← factsOf t.target with
  | .error e, _ => failWith command s!"cannot stat {Quoting.always t.source}: {e.reason}" 1
  | .ok _, .error e => do
    if e = .notADirectory then
      return ← failWith command
        s!"cannot stat {Quoting.always t.target}: {IoError.notADirectory.reason}" 1
    renameTo command (given.has "v") "" t
  | .ok source, .ok target => do
    if ← areSame t.source t.target then
      return ← failWith command
        s!"{Quoting.always t.source} and {Quoting.always t.target} are the same file" 1
    if choice = some "n" || (given.has "u" &&
        source.attributes.modified ≤ target.attributes.modified) then
      return 0
    if choice = some "i" then
      Proc.printError s!"{command}: overwrite {Quoting.always t.target}? "
      unless ← isAnswerYes do
        return 0
    if backup.kind = .off then
      if let some text := moveObstacle? t source.entry target.entry then
        return ← failWith command text 1
    if ← r.hasMade t.target then
      return ← failWith command
        s!"will not overwrite just-created {Quoting.always t.target} with {Quoting.always t.source}" 1
    match ← backup.make t.target with
    | .error e => failWith command s!"cannot backup {Quoting.always t.target}: {e.reason}" 1
    | .ok none => renameTo command (given.has "v") "" t
    | .ok (some name) =>
      renameTo command (given.has "v") s!" (backup: {Quoting.always name})" t

/-- Moves one operand after the other. -/
def moveAll (command : String) (given : Given) (backup : Backup) (bare : Bool) :
    Record → List Transfer → Proc Nat
  | _, [] => return 0
  | r, t :: rest => do
    let status ← moveOne command given backup r t
    let r ← if bare || status ≠ 0 then pure r else r.addMade t.target
    return max status (← moveAll command given backup bare r rest)

def mv : List String → Proc Nat :=
  let flags := Backup.flags ++
    [flag "f" "force", flag "i" "interactive", flag "n" "no-clobber",
      flag "T" "no-target-directory", flag "strip" "strip-trailing-slashes",
      valued "t" "target-directory", flag "u" "update", flag "v" "verbose"]
  fun arguments => withOptions flags true 1 arguments fun command given operands => do
    match Backup.ofGiven given with
    | .error text => refuseUse command text 1
    | .ok backup =>
      let bare (name : String) : String :=
        if given.has "strip" then
          String.ofList (name.toList.reverse.dropWhile (· == '/')).reverse
        else name
      match ← transfers command given (operands.map bare) with
      | .error status => return status
      | .ok ts => moveAll command given backup (ts.length ≤ 1) .empty ts

/-! ### Linking -/

/-- What makes a file of the same bytes, mode and moment. -/
def secondName (files : FileSystem) (cwd : Place) (source : Facts) (target : Path) :
    Except IoError (List Alteration) := do
  let bytes := match source.entry with
    | .file bytes _ => bytes
    | _ => []
  let put ← files.writeFile cwd target bytes
  let files := files.applyAll put
  return put.map .tree ++ (← Alteration.toMode files cwd target source.mode) ++
    (← Alteration.toMoment files cwd target source.attributes.modified)

def linkOne (command : String) (given : Given) (backup : Backup) (t : Transfer) : Proc Nat := do
  let noun := if given.has "s" then "symbolic link" else "hard link"
  let arrow := if given.has "s" then "->" else "=>"
  match ← factsOf t.source with
  | .error e =>
    if given.has "s" then
      failWith command
        s!"failed to create symbolic link {Quoting.always t.target}: {e.reason}" 1
    else failWith command s!"failed to access {Quoting.always t.source}: {e.reason}" 1
  | .ok ⟨.directory, _, _⟩ =>
    failWith command s!"{Quoting.named t.source}: hard link not allowed for directory" 1
  | .ok source =>
    let existing ← entryOf t.target
    let isTaken := existing.toOption.isSome
    let choice := given.lastOf? ["f", "i"]
    if isTaken && choice.isNone && backup.kind = .off then
      return ← failWith command
        s!"failed to create {noun} {Quoting.always t.target}: {IoError.alreadyExists.reason}" 1
    if (existing.toOption.any (·.isDirectory)) then
      return ← failWith command s!"{Quoting.named t.target}: cannot overwrite directory" 1
    if ← areSame t.source t.target then
      return ← failWith command
        s!"{Quoting.always t.source} and {Quoting.always t.target} are the same file" 1
    if isTaken && choice = some "i" then
      Proc.printError s!"{command}: replace {Quoting.always t.target}? "
      unless ← isAnswerYes do
        return 0
    let backed ← if isTaken then backup.make t.target else pure (.ok none)
    let target := Proc.pathOf t.target
    let result ← Proc.modify fun files cwd => do
      let removed ← if (files.stat cwd target).toBool then files.removeFile cwd target else .ok []
      return removed.map .tree ++ (← secondName (files.applyAll removed) cwd source target)
    match result with
    | .ok () =>
      if given.has "v" then
        let note := match backed with
          | .ok (some name) => s!"{Quoting.always name} ~ "
          | _ => ""
        Proc.print s!"{note}{Quoting.always t.target} {arrow} {Quoting.always t.source}\n"
      return 0
    | .error e =>
      let e := if e = .isADirectory then .notFound else e
      failWith command
        s!"failed to create {noun} {Quoting.always t.target} {arrow} {Quoting.always t.source}: {e.reason}" 1

def ln : List String → Proc Nat :=
  let flags := Backup.flags ++
    [flag "d" "directory", flag "F" "", flag "f" "force", flag "i" "interactive",
      flag "L" "logical", flag "n" "no-dereference", flag "P" "physical", flag "r" "relative",
      flag "s" "symbolic", valued "t" "target-directory", flag "T" "no-target-directory",
      flag "v" "verbose"]
  fun arguments => withOptions flags true 1 arguments fun command given operands => do
    match Backup.ofGiven given with
    | .error text => refuseUse command text 1
    | .ok backup =>
      let ts ← match given.has "t" || given.has "T", operands with
        | false, [only] => pure (.ok [Transfer.into "." only])
        | _, operands => transfers command given operands
      match ts with
      | .error status => return status
      | .ok ts => forEach ts (linkOne command given backup)

/-- Gives a file a second name. -/
def link : List String → Proc Nat := fun arguments =>
  withOptions [] true 1 arguments fun command _ operands => do
    match operands with
    | [] => missingOperand command
    | [one] => missingAfter command one
    | _ :: _ :: extra :: _ => extraOperand command extra
    | [source, target] =>
      let facts ← factsOf source
      let result ← Proc.modify fun files cwd => do
        let f ← facts
        if (files.stat cwd (Proc.pathOf target)).toBool then throw .alreadyExists
        if f.entry.isDirectory then throw (.other "Operation not permitted")
        secondName files cwd f (Proc.pathOf target)
      report command
        s!"cannot create link {Quoting.always target} to {Quoting.always source}" result

end LinkBench.Host.Utility
