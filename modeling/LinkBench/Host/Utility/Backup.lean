import LinkBench.Host.Utility.Options
import LinkBench.Host.Utility.Tree
/-!
Backups: the names that files are kept under when others take their places. A name has an ending behind
it, or a number that no backup of the file has had yet.
-/

namespace LinkBench.Host.Utility

inductive BackupKind
  | off
  | simple
  /-- Numbered if there are numbered backups of the file already. -/
  | existing
  | numbered
  deriving DecidableEq, Repr

structure Backup where
  kind : BackupKind
  ending : String

namespace Backup

def kinds : Choices BackupKind :=
  [("none", .off), ("off", .off), ("simple", .simple), ("never", .simple), ("existing", .existing),
    ("nil", .existing), ("numbered", .numbered), ("t", .numbered)]

def flags : List Flag :=
  [Options.flag "b" "", Options.optional "backup" "backup", Options.valued "S" "suffix"]

/-- The backups that options ask for. -/
def ofGiven (given : Given) : Except String Backup := do
  let ending := match given.last? "S" with
    | some "" | none => "~"
    | some text => text
  if !(given.has "b" || given.has "backup" || given.has "S") then
    return ⟨.off, ending⟩
  match given.last? "backup" with
  | some "" | none => return ⟨.existing, ending⟩
  | some word =>
    match kinds.find word with
    | .ok kind => return ⟨kind, ending⟩
    | .error f => throw (kinds.complaint "backup type" word f)

/-- The number of a backup in its name behind the name of the file. -/
def number? (name backup : String) : Option Nat :=
  if backup.startsWith (name ++ ".~") ∧ backup.endsWith "~" then
    let digits := (backup.toList.drop (name.length + 2)).dropLast
    if digits ≠ [] ∧ digits.all (·.isDigit) then some (Nat.ofDigitChars 10 digits 0) else none
  else none

/-- The name of the next backup, if one is wanted, where the directory holds the given names. -/
def name? (b : Backup) (target : String) (names : List String) : Option String :=
  let own := String.ofList (target.toList.reverse.takeWhile (· != '/')).reverse
  let numbers := names.filterMap (number? own)
  let next := numbers.foldl max 0 + 1
  let numbered := s!"{target}.~{next}~"
  match b.kind with
  | .off => none
  | .simple => some (target ++ b.ending)
  | .numbered => some numbered
  | .existing => some (if numbers = [] then target ++ b.ending else numbered)

/-- Puts what stands at a name under the name of a backup; yields that name. -/
def make (b : Backup) (target : String) : Proc (Except IoError (Option String)) := do
  let w ← Proc.view
  let parent := (stages target).dropLast.getLast?.getD (if target.startsWith "/" then "/" else ".")
  let names := ((w.files.readDirectory w.cwd (Proc.pathOf parent)).toOption.getD []).map fun x =>
    ByteText.encode x.1.text
  match b.name? target names with
  | none => return .ok none
  | some name =>
    let result ← Proc.change fun files cwd =>
      files.rename cwd (Proc.pathOf target) (Proc.pathOf name)
    return result.map fun () => some name

end Backup

end LinkBench.Host.Utility
