import LinkBench.Host.Utility.Targets
/-!
Installing: copying files with a mode of their own, and making the directories that they go to.
-/

namespace LinkBench.Host.Utility

open Options

/-- How a directory that was made is called. -/
def installNote (command stage : String) : String :=
  s!"{command}: creating directory {Quoting.always stage}\n"

/-- Installs one file. -/
def installOne (command : String) (given : Given) (backup : Backup) (mode : Nat) (t : Transfer) :
    Proc Nat := do
  match ← factsOf t.source, ← factsOf t.target with
  | .error e, _ => failWith command s!"cannot stat {Quoting.always t.source}: {e.reason}" 1
  | .ok ⟨.directory, _, _⟩, _ => failWith command s!"omitting directory {Quoting.always t.source}" 1
  | .ok _, .ok ⟨.directory, _, _⟩ =>
    failWith command s!"cannot overwrite directory {Quoting.always t.target} with non-directory" 1
  | .ok _, .error .notADirectory =>
    failWith command s!"cannot stat {Quoting.always t.target}: {IoError.notADirectory.reason}" 1
  | .ok source, old => do
    if ← areSame t.source t.target then
      return ← failWith command
        s!"{Quoting.always t.source} and {Quoting.always t.target} are the same file" 1
    let isReplaced := old.toOption.isSome
    let bytes := match source.entry with
      | .file bytes _ => bytes
      | _ => []
    let isAlike := match old with
      | .ok f => f.mode == mode && match f.entry with
        | .file before _ => before == bytes
        | _ => false
      | _ => false
    if given.has "C" && isAlike then
      return 0
    let backed ← if isReplaced then backup.make t.target else pure (.ok none)
    let target := Proc.pathOf t.target
    let result ← Proc.modify fun files cwd => do
      let put ← files.writeFile cwd target bytes
      let files := files.applyAll put
      let stamps ← if given.has "p" then Alteration.toMoment files cwd target source.attributes.modified else .ok []
      return put.map .tree ++ (← Alteration.toMode files cwd target mode) ++ stamps
    match result, backed with
    | .ok (), backed =>
      if given.has "v" then
        let note := match backed with
          | .ok (some name) => s!" (backup: {Quoting.always name})"
          | _ => ""
        if isReplaced && note = "" then
          Proc.print s!"removed {Quoting.always t.target}\n"
        Proc.print s!"{t.shown}{note}\n"
      return 0
    | .error e, _ =>
      let e := if e = .isADirectory then .notADirectory else e
      failWith command s!"cannot create regular file {Quoting.always t.target}: {e.reason}" 1

/-- Makes the directories that a file goes to, and installs it there. -/
def installDeep (command : String) (given : Given) (backup : Backup) (mode : Nat) (t : Transfer) :
    Proc Nat := do
  let status ← if given.has "D" then
      makeStages command ⟨Quoting.always, if given.has "v" then some installNote else none, false⟩
        (stages t.target).dropLast
    else pure 0
  if status ≠ 0 then return status else installOne command given backup mode t

/-- Makes a directory that files go to. -/
def installDirectory (command : String) (given : Given) (mode : Nat) (name : String) : Proc Nat := do
  let status ←
    makeStages command ⟨Quoting.quoted, if given.has "v" then some installNote else none, true⟩
      (if name = "" then [""] else stages name)
  if status = 0 then
    let _ ← Proc.modify fun files cwd => Alteration.toMode files cwd (Proc.pathOf name) mode
  return status

def install : List String → Proc Nat :=
  let flags := Backup.flags ++
    [flag "c" "", flag "C" "compare", flag "d" "directory", valued "g" "group", valued "m" "mode",
      flag "T" "no-target-directory", valued "o" "owner", flag "p" "preserve-timestamps",
      flag "s" "strip", flag "D" "", valued "t" "target-directory", flag "v" "verbose"]
  fun arguments => withOptions flags true 1 arguments fun command given operands => do
    let mode := (given.last? "m").getD "755"
    match Backup.ofGiven given, Mode.Recipe.read? mode with
    | .error text, _ => refuseUse command text 1
    | _, none => failWith command s!"invalid mode {Quoting.quoted mode}" 1
    | .ok backup, some recipe =>
      let (mode, directoryMode) := (recipe.apply false 0 0, recipe.apply true 0 0)
      if given.has "d" then
        if given.has "t" then
          failWith command "target directory not allowed when installing a directory" 1
        else if operands.isEmpty then
          refuseUse command "missing file operand" 1
        else
          forEach operands (installDirectory command given directoryMode)
      else
        if let some dir := given.last? "t" then
          if given.has "D" then
            let status ← installDirectory command given 0o755 dir
            if status ≠ 0 then
              return status
        match ← transfers command given operands with
        | .error status => return status
        | .ok ts =>
          forEach ts (installDeep command given backup mode)

end LinkBench.Host.Utility
