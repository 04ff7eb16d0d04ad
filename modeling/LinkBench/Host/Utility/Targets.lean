import LinkBench.Host.Utility.Backup
/-!
Where files are copied, moved and linked to. The last operand is where to, a directory if there are
several sources, unless an option says otherwise.
-/

namespace LinkBench.Host.Utility

open Options

/-- What goes where. -/
structure Transfer where
  source : String
  target : String

/-- A name in a directory. -/
def nameUnder (dir name : String) : String :=
  if dir.endsWith "/" then dir ++ name else s!"{dir}/{name}"

namespace Transfer

/-- Where a source goes in a directory. -/
def into (dir source : String) : Transfer := ⟨source, nameUnder dir (lastName source)⟩

/-- What is shown of a transfer. -/
def shown (t : Transfer) : String := s!"{Quoting.always t.source} -> {Quoting.always t.target}"

end Transfer

/-- The option that names the target directory, and the one that says that there is none. -/
def targetFlags : List Flag :=
  [valued "t" "target-directory", flag "T" "no-target-directory", flag "v" "verbose"]

/-- A directory at a name, or why there is none. -/
def directoryAt (name : String) : Proc (Except IoError Unit) := do
  match ← entryOf name with
  | .ok .directory => return .ok ()
  | .ok _ => return .error .notADirectory
  | .error e => return .error e

/-- The transfers that operands ask for. -/
def transfers (command : String) (given : Given) (operands : List String) :
    Proc (Except Nat (List Transfer)) := do
  let refused (text : String) : Proc (Except Nat (List Transfer)) := do
    return .error (← refuseUse command text 1)
  let failed (text : String) : Proc (Except Nat (List Transfer)) := do
    return .error (← failWith command text 1)
  if 1 < (given.all "t").length then
    return ← failed "multiple target directories specified"
  match given.last? "t", operands with
  | _, [] => refused "missing file operand"
  | none, [only] => refused s!"missing destination file operand after {Quoting.always only}"
  | some dir, sources =>
    if given.has "T" then
      failed "cannot combine --target-directory (-t) and --no-target-directory (-T)"
    else
      match ← directoryAt dir with
      | .ok () => return .ok (sources.map (Transfer.into dir))
      | .error e => failed s!"target directory {Quoting.always dir}: {e.reason}"
  | none, source :: target :: rest =>
    match given.has "T", rest with
    | true, extra :: _ => refused s!"extra operand {Quoting.always extra}"
    | true, [] => return .ok [⟨source, target⟩]
    | false, [] =>
      match ← directoryAt target with
      | .ok () => return .ok [Transfer.into target source]
      | .error _ => return .ok [⟨source, target⟩]
    | false, _ =>
      let target := operands.getLast?.getD ""
      match ← directoryAt target with
      | .ok () => return .ok (operands.dropLast.map (Transfer.into target))
      | .error e => failed s!"target {Quoting.always target}: {e.reason}"

/-! ### Places -/

/-- Where a name leads, if something stands there. -/
def placeOf (name : String) : Proc (Option Place) := do
  let w ← Proc.view
  return (w.files.resolve w.cwd (Proc.pathOf name)).toOption

/-- Whether two names lead to the same place. -/
def areSame (a b : String) : Proc Bool := do
  match ← placeOf a, ← placeOf b with
  | some p, some q => return p == q
  | _, _ => return false

/-! ### What several transfers must not do -/

/-- What was copied or moved before: the sources, and the files that were made. -/
structure Record where
  sources : List Place
  made : List Place

def Record.empty : Record := ⟨[], []⟩

/-- Whether a file stands at a place that was made before. -/
def Record.hasMade (r : Record) (name : String) : Proc Bool := do
  match ← placeOf name with
  | some p => return r.made.contains p
  | none => return false

def Record.addMade (r : Record) (name : String) : Proc Record := do
  match ← placeOf name with
  | some p => return { r with made := p :: r.made }
  | none => return r

/-- Whether a file was a source before, and the record with it. -/
def Record.addSource (r : Record) (name : String) : Proc (Bool × Record) := do
  match ← placeOf name with
  | some p =>
    if r.sources.contains p then return (true, r)
    else return (false, { r with sources := p :: r.sources })
  | none => return (false, r)

end LinkBench.Host.Utility
