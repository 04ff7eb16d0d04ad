import LinkBench.Session
/-!
Golden files: the accepted outputs of a case. Blessing makes the fresh outputs the accepted ones;
verifying compares the fresh outputs with them byte for byte.
-/

namespace LinkBench

inductive GoldenError
  | missingGoldenDir (dir : Path)
  | missing (actual : Path)
  | mismatch (expected actual : Path) (offset : Nat)
  | io (path : Path) (reason : IoError)
  deriving DecidableEq

namespace GoldenError

def message : GoldenError → String
  | .missingGoldenDir dir =>
    s!"golden directory {dir.text} does not exist (run with --bless to create it)"
  | .missing actual => s!"{actual.text} is missing"
  | .mismatch expected actual offset =>
    s!"{expected.text} and {actual.text} are different! (first difference at byte {Numeral.hex offset})"
  | .io path reason => s!"{path.text}: {reason.message}"

/-- The reason that lies behind the error, if it comes from the system. -/
def reason? : GoldenError → Option IoError
  | .io _ reason => some reason
  | _ => none

end GoldenError

namespace Golden

variable {σ : Type}

/-- Counts equal bytes from `offset` on up to the first difference. -/
def firstDifferenceFrom (offset : Nat) : Bytes → Bytes → Option Nat
  | [], [] => none
  | a :: as, b :: bs => if a = b then firstDifferenceFrom (offset + 1) as bs else some offset
  | _, _ => some offset

/-- The offset of the first byte that differs, or the shorter length if one text goes on where the
other ends. -/
def firstDifference (a b : Bytes) : Option Nat :=
  firstDifferenceFrom 0 a b

/-- Removes a directory; it is no error if there is none. -/
def removeIfPresent (files : FileSystem) (cwd : Place) (dir : Path) :
    Except IoError Unit × List Change :=
  match files.removeDirAll cwd dir with
  | (.error .notFound, changes) => (.ok (), changes)
  | other => other

/-- Replaces `expectedDir` by `outDir`: the former is removed, then the latter renamed. -/
def bless (outDir expectedDir : Path) : Action σ GoldenError Unit := do
  (Action.altering fun files cwd => removeIfPresent files cwd expectedDir).mapError
    (.io expectedDir)
  (Action.changing fun files cwd => files.rename cwd outDir expectedDir).mapError (.io outDir)
  Action.report (.blessed expectedDir)

/-- Compares one golden file with its counterpart in `outDir`. -/
def checkFile (expectedDir outDir : Path) (name : FileName) : Action σ GoldenError Unit := do
  let expected := expectedDir.join (.ofName name)
  let actual := outDir.join (.ofName name)
  if ← Action.ask fun files cwd => files.isFile cwd actual then
    let want ← (Action.reading fun files cwd => files.readFile cwd expected).mapError
      (.io expected)
    let got ← (Action.reading fun files cwd => files.readFile cwd actual).mapError (.io actual)
    match firstDifference want got with
    | some offset => Action.fail (.mismatch expected actual offset)
    | none => Action.report (.fileMatches expected)
  else
    Action.fail (.missing actual)

/-- The names of the regular files directly in a directory, in ascending order. -/
def goldenFiles (files : FileSystem) (cwd : Place) (dir : Path) :
    Except IoError (List FileName) := do
  let entries ← files.listDirectory cwd dir
  return (entries.filter (·.2.isRegular)).map (·.1)

/-- Checks all golden files in name order up to the first problem and yields their number. What
else `outDir` holds does not matter. -/
def verify (expectedDir outDir : Path) : Action σ GoldenError Nat := do
  if ← Action.ask fun files cwd => files.isDirectory cwd expectedDir then
    let names ← (Action.reading fun files cwd => goldenFiles files cwd expectedDir).mapError
      (.io expectedDir)
    names.forM (checkFile expectedDir outDir)
    return names.length
  else
    Action.fail (.missingGoldenDir expectedDir)

end Golden

end LinkBench
