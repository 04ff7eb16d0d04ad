import LinkBench.Host.Utility.Amount
import LinkBench.Host.Utility.Facts
/-!
Programs that make and remove files and directories, or change what may be done with them.
-/

namespace LinkBench.Host.Utility

open Options

/-! ### Making -/

/-- The beginnings of a path that end with one of its names, by growing length, slashes at the end
aside. -/
def stages (name : String) : List String :=
  let cs := name.toList
  let isEnd (i : Nat) : Bool :=
    cs.getD i '/' != '/' && cs.getD (i + 1) '/' == '/'
  (List.range cs.length).filterMap fun i =>
    if isEnd i then some (String.ofList (cs.take (i + 1))) else none

/-- How the making of directories is talked about. -/
structure Announcement where
  /-- How names are quoted in complaints. -/
  quote : String → String
  /-- What is said about a directory that was made. -/
  note : Option (String → String → String)
  /-- Whether the last directory is what is wanted, and not only a place for something. -/
  endsThere : Bool

/-- Makes the directories of a path that are missing. -/
def makeStages (command : String) (a : Announcement) : List String → Proc Nat
  | [] => return 0
  | stage :: rest => do
    match ← Proc.change fun files cwd => files.createDir cwd (Proc.pathOf stage) with
    | .ok () =>
      if let some note := a.note then
        Proc.print (note command stage)
      makeStages command a rest
    | .error e =>
      match ← entryOf stage with
      | .ok .directory => makeStages command a rest
      | .ok _ =>
        let e := if rest.isEmpty && a.endsThere then e else .notADirectory
        failWith command s!"cannot create directory {a.quote stage}: {e.reason}" 1
      | .error _ =>
        failWith command s!"cannot create directory {a.quote stage}: {e.reason}" 1

/-- What is said about a directory that was made. -/
def madeNote (command stage : String) : String :=
  s!"{command}: created directory {Quoting.always stage}\n"

/-! ### Removing -/

/-- Removes an empty directory and, one after the other, those that it lies in. -/
def removeStages (command : String) (given : Given) : Bool → List String → Proc Nat
  | _, [] => return 0
  | isFirst, name :: rest => do
    if given.has "v" then
      Proc.print s!"{command}: removing directory, {Quoting.always name}\n"
    match ← Proc.change fun files cwd => files.removeDir cwd (Proc.pathOf name) with
    | .ok () => removeStages command given false rest
    | .error e =>
      if e = .directoryNotEmpty ∧ given.has "ignore" then return 0
      else
        let noun := if isFirst then "" else "directory "
        failWith command s!"failed to remove {noun}{Quoting.always name}: {e.reason}" 1

def rmdir : List String → Proc Nat :=
  let flags := [flag "p" "parents", flag "v" "verbose",
    flag "ignore" "ignore-fail-on-non-empty"]
  fun arguments => withOptions flags true 1 arguments fun command given operands => do
    if operands.isEmpty then
      return ← missingOperand command
    forEach operands fun name =>
      removeStages command given true
        (if given.has "p" ∧ name ≠ "" then (stages name).reverse else [name])

/-- Reads an answer from the standard input: yes if it begins with such a letter. -/
def isAnswerYes : Proc Bool := do
  let line : Except IoError Bytes ← Proc.request (.readTo Proc.standardInput 0x0a)
  match line with
  | .ok (b :: _) => return b == 0x79 || b == 0x59
  | _ => return false

/-- The entries of a directory and of the directories in it, behind those that they hold. -/
def deepEntries (files : FileSystem) (l : Location) : List (Location × Entry) :=
  let below := files.entries.filter fun x => l.isPrefixOf x.1 && x.1 != l
  sortDeep (below.length + 1) l below
where
  /-- The entries below a location, each directory last. The fuel bounds the depth. -/
  sortDeep : Nat → Location → List (Location × Entry) → List (Location × Entry)
    | 0, _, _ => []
    | fuel + 1, l, below =>
      let direct := below.filter fun x => x.1.length == l.length + 1
      direct.flatMap fun x =>
        sortDeep fuel x.1 (below.filter fun y => x.1.isPrefixOf y.1 && y.1 != x.1) ++ [x]

/-- Removes what stands at a name with all that is below it. -/
def removeDeep (command : String) (announces : Bool) (name : String) : Proc Nat := do
  let w ← Proc.view
  let path := Proc.pathOf name
  match w.files.resolve w.cwd path with
  | .error e => failWith command s!"cannot remove {Quoting.always name}: {e.reason}" 1
  | .ok place =>
    if announces then
      let shown (l : Location) : String :=
        String.intercalate "/" (name :: (l.drop place.base.length).map fun n =>
          ByteText.encode n.text)
      let entries := if place.isLive then deepEntries w.files place.base else []
      let lines := entries.map fun (l, e) =>
        (if e.isDirectory then "removed directory " else "removed ") ++ Quoting.always (shown l)
      Proc.print (joinLines (lines ++ [s!"removed directory {Quoting.always name}"]))
    let result ← Proc.alter fun files cwd => files.removeDirAll cwd path
    report command s!"cannot remove {Quoting.always name}" result

/-- Whether the last name of a path is one of those that every directory holds. -/
def endsInDots (name : String) : Bool :=
  match FileSystem.ending (Proc.pathOf name) with
  | .dot => name != ""
  | .dotDot => true
  | _ => false

def removeOne (command : String) (given : Given) (name : String) : Proc Nat := do
  let isForced := given.lastOf? ["f", "i"] == some "f"
  let asks := given.lastOf? ["f", "i"] == some "i"
  let isDeep := given.has "r" || given.has "R"
  let failed (e : IoError) : Proc Nat :=
    failWith command s!"cannot remove {Quoting.always name}: {e.reason}" 1
  if isDeep ∧ endsInDots name then
    return ← failWith command
      s!"refusing to remove '.' or '..' directory: skipping {Quoting.always name}" 1
  if isDeep ∧ name ≠ "" ∧ name.toList.all (· == '/') then
    complain command s!"it is dangerous to operate recursively on {Quoting.always name}"
    return ← failWith command "use --no-preserve-root to override this failsafe" 1
  match ← entryOf name with
  | .error .notFound => if isForced then return 0 else failed .notFound
  | .error .notADirectory => if isForced then return 0 else failed .notADirectory
  | .error e => failed e
  | .ok entry =>
    let isDirectory := entry.isDirectory
    if isDirectory && !isDeep && !given.has "d" then
      failed .isADirectory
    else
      if asks then
        Proc.printError s!"{command}: remove {kindOf entry} {Quoting.always name}? "
        unless ← isAnswerYes do
          return 0
      if isDirectory && isDeep then
        removeDeep command (given.has "v") name
      else
        let result ← Proc.change fun files cwd =>
          if isDirectory then files.removeDir cwd (Proc.pathOf name)
          else files.removeFile cwd (Proc.pathOf name)
        if result.toBool ∧ given.has "v" then
          let noun := if isDirectory then "directory " else ""
          Proc.print s!"removed {noun}{Quoting.always name}\n"
        report command s!"cannot remove {Quoting.always name}" result

def rm : List String → Proc Nat :=
  let flags := [flag "f" "force", flag "r" "recursive", flag "R" "", flag "v" "verbose",
    flag "d" "dir", flag "i" "", flag "I" "", optional "interactive" "interactive",
    flag "no-preserve-root" "no-preserve-root", optional "preserve-root" "preserve-root",
    flag "one-file-system" "one-file-system"]
  fun arguments => withOptions flags true 1 arguments fun command given operands => do
    if operands.isEmpty then
      if given.has "f" then return 0 else missingOperand command
    else
      forEach operands (removeOne command given)

def unlink : List String → Proc Nat :=
  fun arguments => withOptions [] true 1 arguments fun command _ operands => do
    match operands with
    | [] => missingOperand command
    | _ :: extra :: _ => extraOperand command extra
    | [name] =>
      let result ← Proc.change fun files cwd => files.removeFile cwd (Proc.pathOf name)
      report command s!"cannot unlink {Quoting.always name}" result

/-! ### Directories -/

def mkdir : List String → Proc Nat :=
  let flags := [valued "m" "mode", flag "p" "parents", flag "v" "verbose", flag "Z" ""]
  fun arguments => withOptions flags true 1 arguments fun command given operands => do
    if operands.isEmpty then
      return ← missingOperand command
    let recipe? := (given.last? "m").map fun text => (text, Mode.Recipe.read? text)
    if let some (text, none) := recipe? then
      return ← failWith command s!"invalid mode {Quoting.quoted text}" 1
    let mask ← Proc.request .mask
    let mode? := (recipe?.bind (·.2)).map fun r => r.apply true mask Mode.fullDirectory
    let a : Announcement := ⟨Quoting.quoted, if given.has "v" then some madeNote else none, true⟩
    forEach operands fun name => do
      let isThere := (← entryOf name).toOption.isSome
      let withMode (status : Nat) : Proc Nat := do
        if let some mode := mode? then
          if status = 0 ∧ !isThere then
            let _ ← Proc.modify fun files cwd => Alteration.toMode files cwd (Proc.pathOf name) mode
        return status
      if given.has "p" then
        withMode (← makeStages command a (if name = "" then [""] else stages name))
      else
        let result ← Proc.change fun files cwd => files.createDir cwd (Proc.pathOf name)
        if result.toBool then
          if let some note := a.note then
            Proc.print (note command name)
        withMode (← report command s!"cannot create directory {Quoting.quoted name}" result)

/-! ### Sizes -/

/-- The size that a text makes of another. -/
def newSize (text : String) (old : Nat) : Except Amount.Misread Nat :=
  let read := Amount.read "EGkKmMPTYZ"
  let cs := text.toList.dropWhile (· == ' ')
  match cs with
  | '+' :: rest => (read (String.ofList rest)).map (old + ·)
  | '-' :: rest => (read (String.ofList rest)).map (old - ·)
  | '<' :: rest => (read (String.ofList rest)).map (min old)
  | '>' :: rest => (read (String.ofList rest)).map (max old)
  | '/' :: rest => (read (String.ofList rest)).map fun n => old / n * n
  | '%' :: rest => (read (String.ofList rest)).map fun n => (old + n - 1) / n * n
  | _ => read (String.ofList cs)

/-- Whether a size is to be rounded to nothing. -/
def dividesByZero (text : String) : Bool :=
  (text.startsWith "/" || text.startsWith "%") &&
    ((Amount.read? "EGkKmMPTYZ" (text.drop 1).toString) == some 0)

/-- The first bytes, or the bytes with zeros behind them. -/
def resized (size : Nat) (bytes : Bytes) : Bytes :=
  bytes.take size ++ List.replicate (size - bytes.length) 0

def truncate : List String → Proc Nat :=
  let flags := [valued "s" "size", flag "c" "no-create", valued "r" "reference",
    flag "o" "io-blocks"]
  fun arguments => withOptions flags true 1 arguments fun command given operands => do
    let reference ← match given.last? "r" with
      | none => pure none
      | some name => do pure (some (name, ← entryOf name))
    match given.last? "s", reference with
    | none, none =>
      let (size, other) := (Quoting.quoted "--size", Quoting.quoted "--reference")
      refuseUse command s!"you must specify either {size} or {other}" 1
    | _, some (name, .error e) =>
      failWith command s!"cannot stat {Quoting.always name}: {e.reason}" 1
    | size, reference =>
      let base := match reference with
        | some (_, .ok (.file bytes _)) => some bytes.length
        | _ => none
      let text := size.getD "+0"
      let shown := if text.startsWith "+" ∨ text.startsWith "-" then text
        else String.ofList (text.toList.dropWhile fun c => "</%> ".toList.contains c)
      if dividesByZero text then failWith command "division by zero" 1
      else if let .error reason := newSize text 0 then
        failWith command (s!"Invalid number: {Quoting.quoted shown}" ++ reason.ending) 1
      else if operands.isEmpty then
        refuseUse command "missing file operand" 1
      else
        forEach operands fun name => do
          let path := Proc.pathOf name
          let old ← entryOf name
          let bytes := match old with
            | .ok (.file bytes _) => bytes
            | _ => []
          if given.has "c" ∧ old.toOption.isNone then return 0
          else
            let size := ((newSize text (base.getD bytes.length)).toOption).getD 0
            let result ← Proc.change fun files cwd => files.writeFile cwd path (resized size bytes)
            report command s!"cannot open {Quoting.always name} for writing" result

/-! ### New names -/

/-- A letter for a number. -/
def nameLetter (n : Nat) : Char :=
  ("abcdefghijklmnopqrstuvwxyzABCDEFGHIJKLMNOPQRSTUVWXYZ0123456789".toList).getD (n % 62) 'a'

/-- Puts letters in the place of the row of `X` at the end of a template. -/
def fillTemplate (seed : Nat) (template : List Char) : List Char :=
  let row := template.reverse.takeWhile (· == 'X')
  template.take (template.length - row.length) ++
    (List.range row.length).map fun i => nameLetter (seed * 7919 / Nat.pow 31 i + i * i + seed)

/-- Tries names until one is free. The fuel bounds the number of trials. -/
def makeUnique (isDirectory isDry : Bool) (template : List Char) :
    Nat → Nat → Proc (Except IoError String)
  | 0, _ => return .error .alreadyExists
  | fuel + 1, seed => do
    let name := String.ofList (fillTemplate seed template)
    let path := Proc.pathOf name
    let result ← Proc.modify fun files cwd =>
      if isDry then .ok []
      else if (files.stat cwd path).toBool then .error .alreadyExists
      else do
        let made ← if isDirectory then files.createDir cwd path else files.writeFile cwd path []
        let mode := if isDirectory then 0o700 else 0o600
        return made.map .tree ++ (← Alteration.toMode (files.applyAll made) cwd path mode)
    match result with
    | .ok () => return .ok name
    | .error .alreadyExists => makeUnique isDirectory isDry template fuel (seed + 1)
    | .error e => return .error e

def mktemp : List String → Proc Nat :=
  let flags := [flag "d" "directory", flag "u" "dry-run", flag "q" "quiet", flag "t" "",
    optional "p" "tmpdir", valued "suffix" "suffix"]
  fun arguments => withOptions flags true 1 arguments fun command given operands => do
    match operands with
    | _ :: _ :: _ => refuseUse command "too many templates" 1
    | operands =>
      let template := operands.headD "tmp.XXXXXXXXXX"
      let suffix := (given.last? "suffix").getD ""
      let row := template.toList.reverse.takeWhile (· == 'X')
      if row.length < 3 then
        failWith command s!"too few X's in template {Quoting.quoted template}" 1
      else
        let isElsewhere := operands.isEmpty || given.has "t" || given.has "p"
        let dir := match given.last? "p" with
          | some "" | none => "/tmp"
          | some dir => dir
        let whole := if isElsewhere then s!"{dir}/{template}" else template
        let noun := if given.has "d" then "directory" else "file"
        let seed : Nat ← Proc.request .ownId
        match ← makeUnique (given.has "d") (given.has "u") whole.toList 10000 seed with
        | .ok name => emit command (name ++ suffix ++ "\n") 0
        | .error e =>
          if given.has "q" then return 1
          else
            failWith command
              s!"failed to create {noun} via template {Quoting.quoted whole}: {e.reason}" 1

end LinkBench.Host.Utility
