import LinkBench.Host.Utility.Targets
/-!
Copying files and directories. There are no links in a tree, so a link to a file is another file with
the same bytes. A directory may be copied into itself; what is made on the way is not copied again.
-/

namespace LinkBench.Host.Utility

open Options

structure CopyStyle where
  isDeep : Bool
  keepsMode : Bool
  keepsTime : Bool
  /-- Whether files that exist stay as they are. -/
  keepsExisting : Bool
  /-- Whether files that are not older than the source stay as they are. -/
  keepsNewer : Bool
  asks : Bool
  announces : Bool
  /-- Whether a file that exists is removed before its place is taken. -/
  removesFirst : Bool
  copiesBytes : Bool
  backup : Backup

/-- A copy under way: its operands, and the first directory that was made for it. -/
structure Journey where
  whole : Transfer
  made : Option Place

/-- How a step of a copy has gone. -/
structure CopyStep where
  journey : Journey
  status : Nat
  /-- Whether the copy has met itself, so that the directories on the way are left. -/
  metItself : Bool

/-- Gives a copy the mode and the moment of its source, as far as they are to be kept; what is new gets
the mode that the mask lets through. -/
def keepFacts (s : CopyStyle) (source : Facts) (target : String) (isNew : Bool) : Proc Unit := do
  let mask ← Proc.request .mask
  let path := Proc.pathOf target
  if isNew ∨ s.keepsMode then
    let mode := if s.keepsMode then source.mode else Mode.masked mask source.mode
    let _ ← Proc.modify fun files cwd => Alteration.toMode files cwd path mode
  if s.keepsTime then
    let _ ← Proc.modify fun files cwd => Alteration.toMoment files cwd path source.attributes.modified

/-- Copies the bytes of a file; a new file gets the mode as well. -/
def copyBytes (command : String) (s : CopyStyle) (t : Transfer) (source : Facts) (isNew : Bool) :
    Proc Nat := do
  let bytes := match source.entry with
    | .file bytes _ => bytes
    | _ => []
  let target := Proc.pathOf t.target
  let bytes := if s.copiesBytes then bytes else []
  let result ← Proc.change fun files cwd => files.writeFile cwd target bytes
  match result with
  | .ok () =>
    keepFacts s source t.target isNew
    return 0
  | .error e =>
    let e := if e = .isADirectory then .notADirectory else e
    failWith command s!"cannot create regular file {Quoting.always t.target}: {e.reason}" 1

/-- Makes room for a file at a place that is taken; yields whether the copy goes on, and what is said
about a backup. -/
def clearWay (command : String) (s : CopyStyle) (t : Transfer) : Proc (Except Nat String) := do
  if s.backup.kind ≠ .off then
    match ← s.backup.make t.target with
    | .ok (some name) => return .ok s!" (backup: {Quoting.always name})"
    | .ok none => return .ok ""
    | .error e =>
      return .error (← failWith command s!"cannot backup {Quoting.always t.target}: {e.reason}" 1)
  else if s.removesFirst then
    match ← Proc.change fun files cwd => files.removeFile cwd (Proc.pathOf t.target) with
    | .ok () =>
      if s.announces then Proc.print s!"removed {Quoting.always t.target}\n"
      return .ok ""
    | .error e =>
      return .error (← failWith command s!"cannot remove {Quoting.always t.target}: {e.reason}" 1)
  else
    return .ok ""

/-- Copies a file. -/
def copyFile (command : String) (s : CopyStyle) (r : Record) (t : Transfer) (source : Facts)
    (target : Option Facts) : Proc Nat := do
  if let some f := target then
    if ← areSame t.source t.target then
      return ← failWith command
        s!"{Quoting.always t.source} and {Quoting.always t.target} are the same file" 1
    if s.keepsExisting || (s.keepsNewer && !f.entry.isDirectory &&
        source.attributes.modified ≤ f.attributes.modified) then
      return 0
    if s.asks then
      Proc.printError s!"{command}: overwrite {Quoting.always t.target}? "
      unless ← isAnswerYes do
        return 0
    if f.entry.isDirectory then
      return ← failWith command
        s!"cannot overwrite directory {Quoting.always t.target} with non-directory" 1
    if ← r.hasMade t.target then
      return ← failWith command
        s!"will not overwrite just-created {Quoting.always t.target} with {Quoting.always t.source}" 1
  let isNew := target.isNone
  match ← (if isNew then pure (.ok "") else clearWay command s t) with
  | .error status => return status
  | .ok note =>
    if s.announces then Proc.print (t.shown ++ note ++ "\n")
    copyBytes command s t source (isNew || s.removesFirst || s.backup.kind ≠ .off)

/-- Copies what stands at the source, directories with what they hold. The fuel bounds the depth. -/
def copyEntry (command : String) (s : CopyStyle) (r : Record) :
    Nat → Journey → Transfer → Proc CopyStep
  | 0, j, _ => return ⟨j, 1, false⟩
  | fuel + 1, j, t => do
    let failed (text : String) : Proc CopyStep := do
      return ⟨j, ← failWith command text 1, false⟩
    match ← factsOf t.source, ← factsOf t.target with
    | .error e, _ => failed s!"cannot stat {Quoting.always t.source}: {e.reason}"
    | .ok _, .error .notADirectory =>
      failed s!"cannot stat {Quoting.always t.target}: {IoError.notADirectory.reason}"
    | .ok source, target => do
      if !source.entry.isDirectory then
        return ⟨j, ← copyFile command s r t source target.toOption, false⟩
      let here ← placeOf t.source
      if !s.isDeep then
        return ← failed s!"-r not specified; omitting directory {Quoting.always t.source}"
      if j.made.isSome && j.made == here then
        let (status : Nat) ← failWith command
          s!"cannot copy a directory, {Quoting.always j.whole.source}, into itself, {Quoting.always j.whole.target}" 1
        return ⟨j, status, true⟩
      if let .ok f := target then
        if !f.entry.isDirectory then
          return ← failed
            s!"cannot overwrite non-directory {Quoting.always t.target} with directory {Quoting.always t.source}"
        if ← areSame t.source t.target then
          return ← failed
            s!"{Quoting.always t.source} and {Quoting.always t.target} are the same file"
      let mut j := j
      if target.toOption.isNone then
        let made ← Proc.change fun files cwd => files.createDir cwd (Proc.pathOf t.target)
        if let .error e := made then
          return ← failed s!"cannot create directory {Quoting.always t.target}: {e.reason}"
        if s.announces then Proc.print (t.shown ++ "\n")
        if j.made.isNone then
          j := { j with made := ← placeOf t.target }
      let w ← Proc.view
      let names := (w.files.readDirectory w.cwd (Proc.pathOf t.source)).toOption.getD []
      let goal ← placeOf j.whole.target
      let leadsBack (name : FileName) : Bool := match here, j.made <|> goal with
        | some p, some q => (p.base ++ [name]).isPrefixOf q.base
        | _, _ => false
      -- the way to the copy itself comes last, so that everything else is copied
      let ordered := (names.filter fun x => !leadsBack x.1) ++ names.filter fun x => leadsBack x.1
      let isNew := target.toOption.isNone
      let step ← ordered.foldlM (fun (step : CopyStep) (name, _) => do
        if step.metItself then
          return step
        let text := ByteText.encode name.text
        let next ← copyEntry command s r fuel step.journey
          ⟨nameUnder t.source text, nameUnder t.target text⟩
        return { next with status := max step.status next.status }) ⟨j, 0, false⟩
      keepFacts s source t.target isNew
      return step

def copyDepth : Nat := 200

/-- Copies one operand after the other. -/
def copyAll (command : String) (s : CopyStyle) (bare : Bool) : Record → List Transfer → Proc Nat
  | _, [] => return 0
  | r, t :: rest => do
    let (isRepeated, r) ← if bare then pure (false, r) else r.addSource t.source
    if isRepeated && s.backup.kind = .off then
      let noun := match ← entryOf t.source with
        | .ok .directory => "directory"
        | _ => "file"
      complain command s!"warning: source {noun} {Quoting.always t.source} specified more than once"
      copyAll command s bare r rest
    else
      let step ← copyEntry command s r copyDepth ⟨t, none⟩ t
      let r ← if bare then pure r else r.addMade t.target
      return max step.status (← copyAll command s bare r rest)

/-- What may be kept of a file. -/
def keptFacts : Choices String :=
  ["mode", "timestamps", "ownership", "links", "context", "xattr", "all"].map fun word => (word, word)

def copyFlags : List Flag :=
  [flag "a" "archive", flag "attributes-only" "attributes-only"] ++ Backup.flags ++
    [flag "copy-contents" "copy-contents", flag "d" "", flag "L" "dereference", flag "f" "force",
      flag "H" "", flag "i" "interactive", flag "l" "link", flag "n" "no-clobber",
      flag "P" "no-dereference", valued "no-preserve" "no-preserve",
      flag "T" "no-target-directory", flag "x" "one-file-system", flag "parents" "parents",
      flag "p" "", optional "preserve" "preserve", flag "r" "recursive", flag "R" "",
      flag "remove-destination" "remove-destination", valued "sparse" "sparse",
      optional "reflink" "reflink", flag "strip" "strip-trailing-slashes",
      flag "s" "symbolic-link", valued "t" "target-directory", flag "u" "update",
      flag "v" "verbose"]

/-- What is wrong with the words of options. -/
def copyFault? (given : Given) : Option String :=
  given.findSome? fun (key, value) =>
    if (key = "preserve" ∨ key = "no-preserve") ∧ value ≠ "" then
      (splitAtEach ',' value.toList).findSome? fun word =>
        match keptFacts.find (String.ofList word) with
        | .ok _ => none
        | .error f => some (keptFacts.complaint s!"--{key}" (String.ofList word) f)
    else none

/-- Whether something of a file is to be kept; the last option that is concerned with it decides. -/
def keeps (given : Given) (fact : String) : Bool :=
  let isNamed (value : String) : Bool :=
    (splitAtEach ',' value.toList).any fun word =>
      match keptFacts.find (String.ofList word) with
      | .ok word => word == fact || word == "all"
      | .error _ => false
  given.foldl (fun kept (key, value) =>
    match key with
    | "a" | "p" => true
    | "preserve" => kept || value == "" || isNamed value
    | "no-preserve" => kept && !isNamed value
    | _ => kept) false

def cp : List String → Proc Nat := fun arguments =>
  withOptions copyFlags true 1 arguments fun command given operands => do
    if let some text := copyFault? given then
      return ← refuseUse command text 1
    match Backup.ofGiven given with
    | .error text => refuseUse command text 1
    | .ok backup =>
      match ← transfers command given operands with
      | .error status => return status
      | .ok ts =>
        let target := (given.last? "t").getD (operands.getLast?.getD "")
        let hasParents := given.has "parents"
        if hasParents && (← directoryAt target).toBool.not then
          return ← refuseUse command "with --parents, the destination must be a directory" 1
        let choice := given.lastOf? ["i", "n"]
        let style : CopyStyle := {
          isDeep := given.has "r" || given.has "R" || given.has "a"
          keepsMode := keeps given "mode"
          keepsTime := keeps given "timestamps"
          keepsExisting := choice == some "n"
          keepsNewer := given.has "u"
          asks := choice == some "i"
          announces := given.has "v"
          removesFirst := given.has "remove-destination"
          copiesBytes := !given.has "attributes-only"
          backup }
        let ts := if hasParents then
            ts.map fun t => (⟨t.source, nameUnder target t.source⟩ : Transfer)
          else ts
        if hasParents then
          for t in ts do
            let parents := (stages t.target).dropLast
            let _ ← Proc.alter fun files cwd =>
              files.createDirAll cwd (Proc.pathOf (parents.getLast?.getD "."))
        copyAll command style (ts.length ≤ 1) .empty ts

end LinkBench.Host.Utility
