import LinkBench.FileSystem.Operations
import LinkBench.Host.Mode
/-!
What is known of the entries of a tree besides what they hold: when they were changed last, and who may do
what with them. Only what is not as usual is kept. Processes see this beside the tree, and can alter it.
-/

namespace LinkBench.Host

structure Attributes where
  /-- The moment of the last change, in nanoseconds from 1970 on. -/
  modified : Int
  /-- The bits of the mode, if they are not those that an entry of its kind usually has. -/
  mode : Option Nat
  deriving DecidableEq, Repr

/-- The moment at which every launch begins. -/
def Attributes.beginning : Int := 1700000000000000000

/-- The nanoseconds between two moments that files can be changed at. -/
def Attributes.timeStep : Int := 4000000

/-- The last such moment that is not behind a given one. -/
def Attributes.stepAt (time : Int) : Int := time - time % timeStep

def Attributes.usual : Attributes := ⟨beginning, none⟩

/-- The attributes of the locations whose attributes are not the usual ones. -/
abbrev AttributeTable := List (Location × Attributes)

namespace AttributeTable

def attributesOf (t : AttributeTable) (l : Location) : Attributes := (t.lookup l).getD .usual

def set (t : AttributeTable) (l : Location) (a : Attributes) : AttributeTable :=
  let others := t.filter fun x => x.1 != l
  if a = .usual then others else (l, a) :: others

/-- Forgets what was at a location and below it. -/
def without (t : AttributeTable) (l : Location) : AttributeTable :=
  t.filter fun x => !l.isPrefixOf x.1

/-- Forgets what was below a location. -/
def withoutBelow (t : AttributeTable) (l : Location) : AttributeTable :=
  t.filter fun x => x.1 == l || !l.isPrefixOf x.1

/-- What was at and below `source` is now at and below `target`. -/
def moved (t : AttributeTable) (source target : Location) : AttributeTable :=
  (t.without target).map fun x =>
    if source <+: x.1 then (FileSystem.rebase source target x.1, x.2) else x

def setModified (t : AttributeTable) (l : Location) (time : Int) : AttributeTable :=
  t.set l { t.attributesOf l with modified := time }

def setMode (t : AttributeTable) (l : Location) (mode : Option Nat) : AttributeTable :=
  t.set l { t.attributesOf l with mode }

/-- The attributes behind a change of the tree at the moment `now`. A directory changes with what lies in
it, and a file that only becomes executable does not. -/
def after (t : AttributeTable) (files : FileSystem) (now : Int) : Change → AttributeTable
  | .put l e =>
    match files.get? l, e with
    | some (.file bytes executable), .file bytes' executable' =>
      let changed := if bytes = bytes' ∧ executable ≠ executable' then t else t.setModified l now
      if executable = executable' then changed else changed.setMode l none
    | some _, _ => t.setModified l now
    | none, _ => (t.set l ⟨now, none⟩).setModified l.dropLast now
  | .erase l => (t.without l).setModified l.dropLast now
  | .clear l => (t.withoutBelow l).setModified l now
  | .move source target =>
    ((t.moved source target).setModified source.dropLast now).setModified target.dropLast now

end AttributeTable

/-- What a process sees: the files, where it follows relative paths from, and what else is known of the
files. -/
structure View extends Workspace where
  attributes : AttributeTable

/-- What a process can do to the files. -/
inductive Alteration
  | tree (c : Change)
  /-- Sets the bits of the mode of what stands at a location. -/
  | setMode (l : Location) (mode : Nat)
  /-- Sets the moment at which what stands at a location was changed last. -/
  | stamp (l : Location) (time : Int)

namespace Alteration

def change? : Alteration → Option Change
  | .tree c => some c
  | .setMode .. | .stamp .. => none

/-- What is done to an entry that is in the tree. -/
def ofPath (files : FileSystem) (cwd : Place) (p : Path) (f : Location → Alteration) :
    Except IoError (List Alteration) := do
  let place ← files.resolve cwd p
  match files.entryAt? place with
  | some _ => .ok (if place.isLive then [f place.base] else [])
  | none => .error .notFound

def toMode (files : FileSystem) (cwd : Place) (p : Path) (mode : Nat) :
    Except IoError (List Alteration) :=
  ofPath files cwd p (.setMode · mode)

def toMoment (files : FileSystem) (cwd : Place) (p : Path) (time : Int) :
    Except IoError (List Alteration) :=
  ofPath files cwd p (.stamp · time)

end Alteration

end LinkBench.Host
