import LinkBench.FileSystem.Basic
/-!
Changes of a tree, and the directories that processes hold on to while it changes. A process keeps its
working directory when that is moved, and also when it is removed: then it is empty for good, and
still leads up to the directory that it was in.
-/

namespace LinkBench

/-- A step in which a tree changes. -/
inductive Change
  | put (l : Location) (e : Entry)
  /-- Removes what stands at a location, with all that is below it. -/
  | erase (l : Location)
  /-- Removes all that is below a location. -/
  | clear (l : Location)
  /-- Moves what stands at a location to where `target` was. -/
  | move (source target : Location)
  deriving DecidableEq

namespace FileSystem

def apply (fs : FileSystem) : Change → FileSystem
  | .put l e => fs.put l e
  | .erase l => fs.erase l
  | .clear l => fs.clear l
  | .move source target => (fs.erase target).move source target

def applyAll (fs : FileSystem) (changes : List Change) : FileSystem :=
  changes.foldl apply fs

end FileSystem

/-- A directory that a process holds on to. -/
structure Place where
  /-- The deepest directory on the way that is still in the tree. -/
  base : Location
  /-- The names on the way from there that have been removed. -/
  lost : List FileName
  deriving DecidableEq

namespace Place

/-- A directory that is in the tree. -/
def ofLocation (l : Location) : Place := ⟨l, []⟩

def root : Place := ofLocation []

/-- Whether the directory is still in the tree. -/
def isLive (p : Place) : Bool := p.lost.isEmpty

/-- The directory that the directory is or was in. -/
def parent (p : Place) : Place :=
  if p.lost.isEmpty then ⟨p.base.dropLast, []⟩ else ⟨p.base, p.lost.dropLast⟩

/-- The place when `l` and all below it have gone. -/
def without (p : Place) (l : Location) : Place :=
  if l ≠ [] ∧ l <+: p.base then ⟨l.dropLast, p.base.drop (l.length - 1) ++ p.lost⟩ else p

/-- The same directory behind a change of the tree. -/
def after (p : Place) : Change → Place
  | .put .. => p
  | .erase l => p.without l
  | .clear l => if l <+: p.base then ⟨l, p.base.drop l.length ++ p.lost⟩ else p
  | .move source target =>
    let rest := p.without target
    if source <+: rest.base then ⟨FileSystem.rebase source target rest.base, rest.lost⟩ else rest

def afterAll (p : Place) (changes : List Change) : Place :=
  changes.foldl after p

end Place

/-- The files that a process sees, and where it follows relative paths from. -/
structure Workspace where
  files : FileSystem
  cwd : Place

namespace Workspace

def apply (w : Workspace) (c : Change) : Workspace :=
  ⟨w.files.apply c, w.cwd.after c⟩

def applyAll (w : Workspace) (changes : List Change) : Workspace :=
  changes.foldl apply w

theorem files_applyAll (w : Workspace) (changes : List Change) :
    (w.applyAll changes).files = w.files.applyAll changes := by
  unfold applyAll FileSystem.applyAll
  induction changes generalizing w with
  | nil => rfl
  | cons c cs ih => exact ih (w.apply c)

theorem cwd_applyAll (w : Workspace) (changes : List Change) :
    (w.applyAll changes).cwd = w.cwd.afterAll changes := by
  unfold applyAll Place.afterAll
  induction changes generalizing w with
  | nil => rfl
  | cons c cs ih => exact ih (w.apply c)

end Workspace

end LinkBench
