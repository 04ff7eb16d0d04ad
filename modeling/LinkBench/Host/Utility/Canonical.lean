import LinkBench.Host.Utility.Facts
import LinkBench.Host.Utility.Simple
/-!
Absolute names without steps that lead nowhere, and names seen from a directory. Where not all of a path has
to be there, its missing part is followed by its names alone.
-/

namespace LinkBench.Host.Utility

open Options

/-- How much of a path has to be there. -/
inductive Presence
  | all
  | allButLast
  | nothing
  deriving DecidableEq

namespace Canonical

/-- Whether what follows a name asks for a directory there: a slash at the end, or a step up. -/
def asksDirectory (rest : List String) : Bool :=
  match rest with
  | [] => false
  | rest =>
    match rest.dropWhile fun s => s == "" || s == "." with
    | [] => true
    | s :: _ => s == ".."

/-- Why nothing is found at a location; the directories on the way decide. -/
def absence (files : FileSystem) (l : Location) : IoError :=
  let onTheWay := (List.range l.length).filterMap fun i => files.get? (l.take i)
  if onTheWay.any fun e => !e.isDirectory then .notADirectory else .notFound

/-- Why a path must not go on from a location that a name has led to. -/
def obstacle? (files : FileSystem) (presence : Presence) (byNames : Bool) (l : Location)
    (rest : List String) : Option IoError :=
  let isLast := rest.all (· == "")
  let missing (e : IoError) : Option IoError :=
    if presence = .allButLast ∧ e = .notFound ∧ isLast then none else some e
  if presence = .nothing then none
  else
    match files.get? l with
    | some .directory => none
    | some _ => if asksDirectory rest then some .notADirectory else none
    | none =>
      if byNames ∧ !asksDirectory rest ∧ rest ≠ [] then none else missing (absence files l)

/-- Follows the segments of a path. If `byNames`, the directories on the way need not be there. -/
def follow (files : FileSystem) (presence : Presence) (byNames : Bool) :
    Location → List String → Except IoError Location
  | l, [] => .ok l
  | l, segment :: rest =>
    match FileName.ofString? segment with
    | none => follow files presence byNames (if segment = ".." then l.dropLast else l) rest
    | some name =>
      let next := l ++ [name]
      if name.isTooLong ∧ presence ≠ .nothing then .error .nameTooLong
      else
        match obstacle? files presence byNames next rest with
        | some e => .error e
        | none => follow files presence byNames next rest

/-- The location that a path leads to. -/
def location (w : View) (presence : Presence) (byNames : Bool) (p : Path) :
    Except IoError Location :=
  if p.isEmpty then .error .notFound
  else if p.isAbsolute then follow w.files presence byNames [] p.segments
  else if !w.cwd.isLive then .error .notFound
  else follow w.files presence byNames w.cwd.base p.segments

def text (l : Location) : String := placeText (.ofLocation l)

/-- How a location is called from a directory: up to what both lie in, and down from there. -/
def seenFrom (dir l : Location) : String :=
  let common := ((dir.zip l).takeWhile fun (a, b) => a == b).length
  let up := List.replicate (dir.length - common) ".."
  let down := (l.drop common).map fun name => ByteText.encode name.text
  match up ++ down with
  | [] => "."
  | names => String.intercalate "/" names

end Canonical

/-- The presence that options ask for. -/
def presenceOf (given : Given) (keys : List String) : Option Presence :=
  (given.lastOf? keys).map fun
    | "e" => .all
    | "m" => .nothing
    | _ => .allButLast

/-- Prints where links lead; there are none, so only names that are to be made absolute lead somewhere. -/
def readlink : List String → Proc Nat := fun arguments =>
  let flags := [flag "f" "canonicalize", flag "e" "canonicalize-existing",
    flag "m" "canonicalize-missing", flag "n" "no-newline", flag "q" "quiet", flag "s" "silent",
    flag "v" "verbose", flag "z" "zero"]
  withOptions flags true 1 arguments fun command given operands => do
    if operands.isEmpty then
      return ← missingOperand command
    let isVerbose := given.lastOf? ["q", "s", "v"] == some "v"
    let isSingle := operands.length == 1
    if given.has "n" ∧ !isSingle then
      complain command "ignoring --no-newline with multiple arguments"
    let ending := if given.has "n" ∧ isSingle then "" else if given.has "z" then "\x00" else "\n"
    let failed (name : String) (e : IoError) : Proc Nat :=
      if isVerbose then failWith command s!"{Quoting.named name}: {e.reason}" 1 else return 1
    forEach operands fun name => do
      let w ← Proc.view
      match presenceOf given ["e", "f", "m"] with
      | some presence =>
        match Canonical.location w presence false (Proc.pathOf name) with
        | .ok l => emit command (Canonical.text l ++ ending) 0
        | .error e => failed name e
      | none =>
        match w.files.stat w.cwd (Proc.pathOf name) with
        | .ok _ => failed name .invalidArgument
        | .error e => failed name e

/-- What names are shown from. -/
structure Viewpoint where
  /-- The directory that names are seen from. -/
  seenFrom : Option Location
  /-- The directory that names must lie in to be seen so. -/
  within : Location

def Viewpoint.shown (v : Viewpoint) (l : Location) : String :=
  match v.seenFrom with
  | some dir => if v.within.isPrefixOf l then Canonical.seenFrom dir l else Canonical.text l
  | none => Canonical.text l

def realpath : List String → Proc Nat :=
  let flags := [flag "e" "canonicalize-existing", flag "m" "canonicalize-missing", flag "L" "logical",
    flag "P" "physical", flag "q" "quiet", flag "s" "no-symlinks", flag "s" "strip", flag "z" "zero",
    valued "relative-to" "relative-to", valued "relative-base" "relative-base"]
  fun arguments => withOptions flags true 1 arguments fun command given operands => do
    if operands.isEmpty then
      return ← missingOperand command
    let w ← Proc.view
    let presence := (presenceOf given ["e", "m"]).getD .allButLast
    let byNames := (given.lastOf? ["s", "L", "P"]).any (· != "P")
    let locate (name : String) : Except IoError Location := do
      let l ← Canonical.location w presence byNames (Proc.pathOf name)
      if given.lastOf? ["s", "L", "P"] = some "L" then
        Canonical.location w presence false (Proc.pathOf (Canonical.text l))
      else return l
    let directory (name : String) : Except IoError Location := do
      let l ← locate name
      if presence = .all ∧ !((w.files.get? l).any (·.isDirectory)) then throw .notADirectory
      return l
    let base? := (given.last? "relative-base").map fun name => (name, directory name)
    let to? := ((given.last? "relative-to").map fun name => (name, directory name)).or base?
    match to?, base? with
    | some (name, .error e), _ => failWith command s!"{Quoting.named name}: {e.reason}" 1
    | _, some (name, .error e) => failWith command s!"{Quoting.named name}: {e.reason}" 1
    | to?, base? =>
      let located (x? : Option (String × Except IoError Location)) : Option Location :=
        x?.bind fun x => x.2.toOption
      let v : Viewpoint := match located to?, located base? with
        | none, _ => ⟨none, []⟩
        | some place, none => ⟨some place, []⟩
        | some place, some base => if base.isPrefixOf place then ⟨some place, base⟩ else ⟨none, []⟩
      forEach operands fun name => do
        match locate name with
        | .ok l => emit command (v.shown l ++ if given.has "z" then "\x00" else "\n") 0
        | .error e =>
          if given.has "q" then return 1
          else failWith command s!"{Quoting.named name}: {e.reason}" 1

end LinkBench.Host.Utility
