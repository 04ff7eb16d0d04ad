import LinkBench.Host.Calendar.Reader
import LinkBench.Host.Utility.Options
import LinkBench.Host.Utility.Facts
/-!
Setting the moments of files. A file that is missing is made, unless that is not wanted.
-/

namespace LinkBench.Host.Utility

open Options Calendar

/-- Which moment of a file is meant. -/
inductive TimeKind
  | access
  | modification
  deriving DecidableEq

def TimeKind.words : Choices TimeKind :=
  [("atime", .access), ("access", .access), ("use", .access), ("mtime", .modification),
    ("modify", .modification)]

/-- Where the moment comes from that files get. -/
inductive TimeSource
  | present
  | given (time : Int)

/-- Why options give no moment. -/
inductive TimeFault
  | invalid (text : String)
  | severalSources
  | noReference (name : String) (e : IoError)

/-- The moment that options ask for. -/
def timeSource (given : Given) : Proc (Except TimeFault TimeSource) := do
  let now ← Proc.presentTime
  let year := (Moment.ofSeconds (now / 1000000000) 0).day.year
  let stamps := given.all "t"
  match stamps.find? fun text => (Reader.ofDigits? true year text).isNone with
  | some text => return .error (.invalid text)
  | none =>
    let stamp? := stamps.getLast?.bind (Reader.ofDigits? true year)
    match stamp?, given.last? "r", given.last? "d" with
    | some _, some _, _ | some _, _, some _ => return .error .severalSources
    | some seconds, none, none => return .ok (.given (seconds * 1000000000))
    | none, reference?, text? =>
      let base ← match reference? with
        | none => pure (Except.ok none)
        | some name => do
          match ← factsOf name with
          | .ok f => pure (.ok (some f.attributes.modified))
          | .error e => pure (.error (TimeFault.noReference name e))
      match base, text? with
      | .error f, _ => return .error f
      | .ok none, none => return .ok .present
      | .ok (some time), none => return .ok (.given time)
      | .ok base, some text =>
        match Reader.read? (secondsOf (base.getD now)) text with
        | some m => return .ok (.given (nanosecondsOf m))
        | none => return .error (.invalid text)

/-- Sets the moment of a file, and makes the file if there is none. -/
def touchOne (command : String) (mayMake setsModification : Bool) (source : TimeSource)
    (name : String) : Proc Nat := do
  let path := Proc.pathOf name
  let now ← Proc.presentTime
  let setTime : Proc Nat := do
    if !setsModification then return 0
    let time := match source with
      | .present => Attributes.stepAt now
      | .given time => time
    let result ← Proc.modify fun files cwd => Alteration.toMoment files cwd path time
    report command s!"setting times of {Quoting.always name}" result
  let failed (noun : String) (e : IoError) : Proc Nat :=
    failWith command s!"{noun} {Quoting.always name}: {e.reason}" 1
  if name = "-" then return 0
  match ← entryOf name with
  | .ok _ => setTime
  | .error e =>
    if !mayMake then
      if e = .notFound then return 0 else failed "setting times of" e
    else
      match ← Proc.change fun files cwd => files.writeFile cwd path [] with
      | .ok () =>
        match source with
        | .present => return 0
        | .given _ => setTime
      | .error .isADirectory => failed "setting times of" e
      | .error failure =>
        if FileSystem.hasTrailingSlash path ∧ failure = .notADirectory then
          failed "setting times of" failure
        else failed "cannot touch" failure

def touchFlags : List Flag :=
  [flag "a" "", flag "c" "no-create", valued "d" "date", flag "f" "", flag "h" "no-dereference",
    flag "m" "", valued "r" "reference", valued "t" "", valued "time" "time"]

def touch : List String → Proc Nat := fun arguments =>
  withOptions touchFlags true 1 arguments fun command given operands => do
    let kinds := (given.all "time").map fun word => (word, TimeKind.words.find word)
    for (word, kind) in kinds do
      if let .error f := kind then
        return ← refuseUse command (TimeKind.words.complaint "--time" word f) 1
    match ← timeSource given with
    | .error (.invalid text) =>
      failWith command s!"invalid date format {Quoting.quoted text}" 1
    | .error .severalSources =>
      refuseUse command "cannot specify times from more than one source" 1
    | .error (.noReference name e) =>
      failWith command s!"failed to get attributes of {Quoting.always name}: {e.reason}" 1
    | .ok source =>
      if operands.isEmpty then
        return ← refuseUse command "missing file operand" 1
      let asksModification := given.has "m" || kinds.any fun (_, k) => k matches .ok .modification
      let asksAccess := given.has "a" || kinds.any fun (_, k) => k matches .ok .access
      forEach operands
        (touchOne command (!(given.has "c" || given.has "h")) (asksModification || !asksAccess) source)

end LinkBench.Host.Utility
