import LinkBench.FileSystem.Change
import LinkBench.FileSystem.Error
/-!
What a program asks of a file system by path. A relative path is followed from a working directory;
every segment but the last must lead through a directory that exists. An operation that fails says
why; one that succeeds says which changes it makes. None is refused for want of access rights, and no
segment is the name of a link.
-/

namespace LinkBench

namespace FileSystem

/-! ### Following paths -/

/-- What stands at a place. Nothing is in a directory that has been removed. -/
def entryAt? (fs : FileSystem) (p : Place) : Option Entry :=
  if p.isLive then fs.get? p.base else some .directory

/-- Follows a segment from a place that has to be a directory. -/
def step (fs : FileSystem) (p : Place) (segment : String) : Except IoError Place :=
  match fs.entryAt? p with
  | some .directory =>
    match FileName.ofString? segment with
    | some name =>
      if !p.isLive then .error .notFound
      else if name.isTooLong then .error .nameTooLong
      else .ok ⟨p.base ++ [name], []⟩
    | none => .ok (if segment = ".." then p.parent else p)
  | some _ => .error .notADirectory
  | none => .error .notFound

/-- Follows segments one after the other. -/
def walk (fs : FileSystem) (p : Place) : List String → Except IoError Place
  | [] => .ok p
  | segment :: rest =>
    match fs.step p segment with
    | .ok next => fs.walk next rest
    | .error e => .error e

/-- Where the segments of a path are followed from. -/
def origin (cwd : Place) (p : Path) : Place :=
  if p.isAbsolute then .root else cwd

/-- What the system asks of a path before it follows it. -/
def requireFit (p : Path) : Except IoError Unit :=
  if p.holdsNul then .error .nulInName
  else if p.isTooLong then .error .nameTooLong
  else .ok ()

/-- The place of a path, whether or not anything stands there. -/
def resolve (fs : FileSystem) (cwd : Place) (p : Path) : Except IoError Place := do
  requireFit p
  if p.isEmpty then .error .notFound else fs.walk (origin cwd p) p.segments

/-- How a path ends, slashes at its end aside. -/
inductive Ending
  | name (name : FileName)
  | dot
  | dotDot
  | root
  deriving DecidableEq

def ending (p : Path) : Ending :=
  match p.segments.reverse.dropWhile (· == "") with
  | [] => .root
  | last :: _ =>
    match FileName.ofString? last with
    | some name => .name name
    | none => if last = ".." then .dotDot else .dot

def hasTrailingSlash (p : Path) : Bool :=
  p.segments.getLast? == some ""

/-- The directory that the last name of a path lies in, and how the path ends. -/
def resolveParent (fs : FileSystem) (cwd : Place) (p : Path) : Except IoError (Place × Ending) := do
  requireFit p
  if p.isEmpty then
    .error .notFound
  else
    let named := (p.segments.reverse.dropWhile (· == "")).reverse
    let parent ← fs.walk (origin cwd p) named.dropLast
    match fs.entryAt? parent with
    | some .directory => .ok (parent, ending p)
    | some _ => .error .notADirectory
    | none => .error .notFound

/-- Where a name in a directory is, whether or not anything stands there. -/
def nameIn (parent : Place) (name : FileName) : Except IoError Location :=
  if !parent.isLive then .error .notFound
  else if name.isTooLong then .error .nameTooLong
  else .ok (parent.base ++ [name])

/-! ### Reading -/

/-- What stands at a path. -/
def stat (fs : FileSystem) (cwd : Place) (p : Path) : Except IoError Entry := do
  match fs.entryAt? (← fs.resolve cwd p) with
  | some e => .ok e
  | none => .error .notFound

def isFile (fs : FileSystem) (cwd : Place) (p : Path) : Bool :=
  match fs.stat cwd p with
  | .ok e => e.isRegular
  | .error _ => false

def isDirectory (fs : FileSystem) (cwd : Place) (p : Path) : Bool :=
  match fs.stat cwd p with
  | .ok e => e.isDirectory
  | .error _ => false

/-- The names in a directory with what stands there, in ascending order. -/
def readDirectory (fs : FileSystem) (cwd : Place) (p : Path) :
    Except IoError (List (FileName × Entry)) := do
  let place ← fs.resolve cwd p
  match fs.entryAt? place with
  | some .directory => .ok (if place.isLive then fs.children place.base else [])
  | some _ => .error .notADirectory
  | none => .error .notFound

/-- What a directory holds, as far as it can be called by a path that begins with the path of the
directory; a path that becomes too long calls nothing. -/
def listDirectory (fs : FileSystem) (cwd : Place) (p : Path) :
    Except IoError (List (FileName × Entry)) := do
  let entries ← fs.readDirectory cwd p
  return entries.filter fun x => !(p.join (.ofName x.1)).isTooLong

/-- The bytes of a file. Of a device that never ends, nothing is read. -/
def readFile (fs : FileSystem) (cwd : Place) (p : Path) : Except IoError Bytes := do
  match ← fs.stat cwd p with
  | .file bytes _ => .ok bytes
  | .directory => .error .isADirectory
  | .device _ => .ok []

/-! ### Changing -/

/-- Where a file is written to, which exists already or lies in a directory. -/
def writable (fs : FileSystem) (cwd : Place) (p : Path) : Except IoError Location := do
  let (parent, last) ← fs.resolveParent cwd p
  match last with
  | .name name =>
    let l ← nameIn parent name
    match fs.get? l with
    | some .directory => .error .isADirectory
    | some _ => if hasTrailingSlash p then .error .notADirectory else .ok l
    | none => if hasTrailingSlash p then .error .isADirectory else .ok l
  | _ => .error .isADirectory

/-- Replaces the bytes of a file, or makes a new file that is not executable. -/
def writeFile (fs : FileSystem) (cwd : Place) (p : Path) (bytes : Bytes) :
    Except IoError (List Change) := do
  let l ← fs.writable cwd p
  match fs.get? l with
  | some (.file _ executable) => .ok [.put l (.file bytes executable)]
  | some .directory => .error .isADirectory
  | some (.device .full) => if bytes = [] then .ok [] else .error .noSpace
  | some (.device _) => .ok []
  | none => .ok [.put l (.file bytes false)]

/-- Follows segments and makes the directories that are missing on the way. -/
def makeDirectories (fs : FileSystem) (p : Place) : List String → Except IoError Unit × List Change
  | [] => (.ok (), [])
  | segment :: rest =>
    match fs.step p segment with
    | .error e => (.error e, [])
    | .ok next =>
      match fs.entryAt? next with
      | some .directory => fs.makeDirectories next rest
      | some _ =>
        (.error (if rest.all (· == "") then .alreadyExists else .notADirectory), [])
      | none =>
        let made := Change.put next.base .directory
        let (result, changes) := (fs.apply made).makeDirectories next rest
        (result, made :: changes)

/-- Makes a directory and its parents; it is no error if they exist. -/
def createDirAll (fs : FileSystem) (cwd : Place) (p : Path) : Except IoError Unit × List Change :=
  if p.isEmpty then (.ok (), [])
  else
    match requireFit p with
    | .error e => (.error e, [])
    | .ok () => fs.makeDirectories (origin cwd p) p.segments

/-- Makes one directory. -/
def createDir (fs : FileSystem) (cwd : Place) (p : Path) : Except IoError (List Change) := do
  match ← fs.resolveParent cwd p with
  | (parent, .name name) =>
    let l ← nameIn parent name
    if (fs.get? l).isSome then .error .alreadyExists else .ok [.put l .directory]
  | _ => .error .alreadyExists

/-- Removes a file. -/
def removeFile (fs : FileSystem) (cwd : Place) (p : Path) : Except IoError (List Change) := do
  match ← fs.resolveParent cwd p with
  | (parent, .name name) =>
    let l ← nameIn parent name
    match fs.get? l with
    | none => .error .notFound
    | some .directory => .error .isADirectory
    | some _ => if hasTrailingSlash p then .error .notADirectory else .ok [.erase l]
  | _ => .error .isADirectory

/-- Removes an empty directory, which the path has to call by its name. -/
def removeDir (fs : FileSystem) (cwd : Place) (p : Path) : Except IoError (List Change) := do
  match ← fs.resolveParent cwd p with
  | (parent, .name name) =>
    let l ← nameIn parent name
    match fs.get? l with
    | none => .error .notFound
    | some .directory => if fs.children l = [] then .ok [.erase l] else .error .directoryNotEmpty
    | some _ => .error .notADirectory
  | (_, .dot) => .error .invalidArgument
  | (_, .dotDot) => .error .directoryNotEmpty
  | (_, .root) => .error .busy

/-- Removes a directory with all that is below it: first what is below, then, by its path, the
directory itself. If the path led through what was below it, it leads nowhere then, and the empty
directory stays. -/
def removeDirAll (fs : FileSystem) (cwd : Place) (p : Path) : Except IoError Unit × List Change :=
  match fs.resolve cwd p with
  | .error e => (.error e, [])
  | .ok place =>
    match fs.entryAt? place with
    | none => (.error .notFound, [])
    | some .directory =>
      let cleared : List Change := if place.isLive then [.clear place.base] else []
      match (fs.applyAll cleared).removeDir (cwd.afterAll cleared) p with
      | .ok removed => (.ok (), cleared ++ removed)
      | .error .notFound => (.ok (), cleared)
      | .error e => (.error e, cleared)
    | some _ => (.error .notADirectory, [])

/-- Moves a file or a directory to another name. A file may take the place of a file, and a
directory that of an empty directory. -/
def rename (fs : FileSystem) (cwd : Place) (source target : Path) :
    Except IoError (List Change) := do
  if source.holdsNul ∨ target.holdsNul then
    throw .nulInName
  let (sourceParent, sourceEnding) ← fs.resolveParent cwd source
  let (targetParent, targetEnding) ← fs.resolveParent cwd target
  match sourceEnding, targetEnding with
  | .name sourceName, .name targetName =>
    let l ← nameIn sourceParent sourceName
    match fs.get? l with
    | none => .error .notFound
    | some e =>
      let m ← nameIn targetParent targetName
      if !e.isDirectory ∧ (hasTrailingSlash source ∨ hasTrailingSlash target) then
        .error .notADirectory
      else if l <+: targetParent.base then
        .error .invalidArgument
      else if m <+: sourceParent.base then
        .error .directoryNotEmpty
      else if l = m then
        .ok []
      else
        match e.isDirectory, fs.get? m with
        | _, none => .ok [.move l m]
        | true, some .directory =>
          if fs.children m = [] then .ok [.move l m] else .error .directoryNotEmpty
        | true, some _ => .error .notADirectory
        | false, some .directory => .error .isADirectory
        | false, some _ => .ok [.move l m]
  | _, _ => .error .busy

/-- Makes a file executable or not. -/
def setExecutable (fs : FileSystem) (cwd : Place) (p : Path) (executable : Bool) :
    Except IoError (List Change) := do
  let place ← fs.resolve cwd p
  match fs.entryAt? place with
  | some (.file bytes _) => .ok [.put place.base (.file bytes executable)]
  | some _ => .ok []
  | none => .error .notFound

end FileSystem

/-! ### Prepared changes -/

/-- A change that is written down beforehand; one that cannot be made is left out. -/
inductive Edit
  /-- Writes a file, its parents included, and sets whether it is executable. -/
  | write (path : Path) (bytes : Bytes) (executable : Bool)
  | makeDirectory (path : Path)
  /-- Removes a file or a whole directory, if there is one. -/
  | remove (path : Path)

namespace Workspace

/-- Makes the changes of an operation, if it succeeds. -/
def trying (w : Workspace) (f : FileSystem → Place → Except IoError (List Change)) : Workspace :=
  match f w.files w.cwd with
  | .ok changes => w.applyAll changes
  | .error _ => w

def edit (w : Workspace) : Edit → Workspace
  | .write path bytes executable =>
    let parents := path.segments.dropLast
    let (_, made) := w.files.makeDirectories (FileSystem.origin w.cwd path) parents
    let written := (w.applyAll made).trying fun files cwd => files.writeFile cwd path bytes
    written.trying fun files cwd => files.setExecutable cwd path executable
  | .makeDirectory path => w.applyAll (w.files.createDirAll w.cwd path).2
  | .remove path =>
    if w.files.isDirectory w.cwd path then
      w.applyAll (w.files.removeDirAll w.cwd path).2
    else
      w.trying fun files cwd => files.removeFile cwd path

def editAll (w : Workspace) (edits : List Edit) : Workspace :=
  edits.foldl edit w

end Workspace

end LinkBench
