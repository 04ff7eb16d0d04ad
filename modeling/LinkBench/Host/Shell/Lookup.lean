import LinkBench.Host.Shell.Builtin.Arguments
import LinkBench.Host.Shell.Builtin.Declaration
import LinkBench.Host.Shell.Builtin.Input
import LinkBench.Host.Shell.Builtin.Mask
import LinkBench.Host.Shell.Builtin.Processes
import LinkBench.Host.Shell.Builtin.Settings
import LinkBench.Host.Shell.Builtin.Text
import LinkBench.Host.Shell.Layout
/-!
What names of commands stand for: keywords, functions, commands of the shell, and programs, whose paths
are kept once they have been looked for.
-/

namespace LinkBench.Host.Shell

open LinkBench.Host.Utility

/-! ### Commands by name -/

/-- Commands of the shell that need nothing of the interpreter. -/
def commonCommands : List (String × (List String → Eval Nat)) :=
  [(":", fun _ => return 0), ("true", fun _ => return 0), ("false", fun _ => return 1),
    ("[", Builtin.test true), ("alias", Builtin.alias), ("bg", Builtin.resume),
    ("cd", Builtin.cd), ("echo", Builtin.echo), ("export", Builtin.export),
    ("fg", Builtin.resume), ("getopts", Builtin.getopts), ("jobs", Builtin.jobs),
    ("kill", Builtin.kill), ("local", Builtin.local), ("printf", Builtin.printf),
    ("pwd", Builtin.pwd), ("read", Builtin.read), ("readonly", Builtin.readonly),
    ("set", Builtin.set), ("shift", Builtin.shift), ("test", Builtin.test false),
    ("times", Builtin.times), ("trap", Builtin.trap), ("ulimit", Builtin.ulimit),
    ("umask", Builtin.umask), ("unalias", Builtin.unalias), ("unset", Builtin.unset),
    ("wait", Builtin.wait)]

def plainCommands : List (String × (List String → Eval Nat)) :=
  [("chdir", Builtin.cd)]

def extendedCommands : List (String × (List String → Eval Nat)) :=
  [("caller", Builtin.caller), ("declare", Builtin.declare "declare"),
    ("dirs", Builtin.dirs), ("disown", Builtin.disown),
    ("let", Builtin.let), ("mapfile", Builtin.mapfile), ("popd", Builtin.popd),
    ("pushd", Builtin.pushd), ("readarray", Builtin.mapfile), ("shopt", Builtin.shopt),
    ("typeset", Builtin.declare "typeset")]

/-- Commands of the shell that the interpreter does itself. -/
def innerCommands (d : Dialect) : List String :=
  [".", "break", "command", "continue", "eval", "exec", "exit", "hash", "return", "type"] ++
    match d with
    | .plain => []
    | .extended => ["source", "builtin", "enable"]

def ordinary? (d : Dialect) (name : String) : Option (List String → Eval Nat) :=
  commonCommands.lookup name <|>
    match d with
    | .plain => plainCommands.lookup name
    | .extended => extendedCommands.lookup name

/-- The names of all commands of the extended dialect's shell. -/
def builtinNames (d : Dialect) : List String :=
  let others := match d with
    | .plain => plainCommands.map (·.1)
    | .extended => extendedCommands.map (·.1)
  (commonCommands.map (·.1) ++ others ++ innerCommands d).mergeSort fun a b => decide (a ≤ b)

def isBuiltin (d : Dialect) (name : String) : Bool :=
  (ordinary? d name).isSome || (innerCommands d).contains name

/-- Commands of the plain dialect whose faults end the shell. -/
def isSpecial (d : Dialect) (name : String) : Bool :=
  d == .plain && Read.specialNames.contains name

namespace Eval

/-! ### Programs -/

/-- The paths under which a program of the given name is looked for. -/
def programPaths (name : String) : Eval (List String) := do
  if name.contains '/' then
    return [name]
  let directories := splitAtEach ':' ((← value? "PATH").getD "").toList
  return directories.map fun dir =>
    if dir = [] then name else String.ofList dir ++ "/" ++ name

/-- The first file of the given name, or why there is none. -/
def search (name : String) : Eval (Except IoError String) := do
  let w ← ofProc Proc.view
  let rec first (e : IoError) : List String → Except IoError String
    | [] => .error e
    | path :: rest =>
      match w.files.stat w.cwd (Proc.pathOf path) with
      | .ok entry => if entry.isRegular then .ok path else first .permissionDenied rest
      | .error .notFound | .error .notADirectory => first e rest
      | .error other => first other rest
  return first .notFound (← programPaths name)

/-! ### Paths that are kept -/

/-- The class by which a dialect keeps the paths of programs. -/
def foundClass (d : Dialect) (name : String) : Nat :=
  match d with
  | .plain =>
    let codes := name.toList.map Char.toNat
    (16 * codes.headD 0 + codes.foldl (· + ·) 0) % 0x8000 % 31
  | .extended => keyClass name % 256

/-- The paths that are kept, in the order in which they are shown. -/
def keptPaths (s : State) : List Found :=
  let byAge := match s.dialect with
    | .plain => s.found.reverse
    | .extended => s.found
  byAge.mergeSort fun a b => decide (foundClass s.dialect a.name ≤ foundClass s.dialect b.name)

/-- Keeps the path of a program, with the number of times that it was used. -/
def keepPath (name path : String) (uses : Nat) : Eval Unit :=
  modify fun s =>
    { s with found := ⟨name, path, uses⟩ :: s.found.filter (·.name != name) }

/-- The path of a program, which is kept from now on. A path that is kept is taken as it is. -/
def locate (name : String) : Eval (Except IoError String) := do
  let s ← get
  if name.contains '/' then
    search name
  else
    match s.found.find? (·.name == name) with
    | some found => do
      modify fun s => { s with found := s.found.map fun f =>
        if f.name = name then { f with uses := f.uses + 1 } else f }
      return .ok found.path
    | none => do
      let result ← search name
      match result with
      | .ok path => keepPath name path 1
      | .error _ => pure ()
      return result

/-! ### Descriptions -/

/-- How much is said about a name. -/
inductive Depiction
  /-- One word for the kind. -/
  | kind
  /-- A sentence. -/
  | sentence
  /-- What could be written in its place. -/
  | reusable
  /-- Only a path. -/
  | path
  deriving DecidableEq

/-- What a name can stand for. -/
inductive Meaning
  | «alias» (text : String)
  | keyword
  | function (f : Function)
  | builtin
  | kept (path : String)
  | file (path : String)

def Meaning.kind : Meaning → String
  | .alias _ => "alias"
  | .keyword => "keyword"
  | .function _ => "function"
  | .builtin => "builtin"
  | .kept _ | .file _ => "file"

/-- How a meaning is told; nothing if it has no path and only that is wanted. -/
def Meaning.told (s : State) (d : Depiction) (name : String) (m : Meaning) : Option String :=
  let extended := s.dialect == .extended
  match d, m with
  | .kind, m => some m.kind
  | .sentence, .alias text =>
    some (if extended then s!"{name} is aliased to \x60{text}'" else s!"{name} is an alias for {text}")
  | .sentence, .keyword => some s!"{name} is a shell keyword"
  | .sentence, .function f =>
    some (if extended then
        s!"{name} is a function\n" ++ Layout.shownFunction s.documents name f.body
      else s!"{name} is a shell function")
  | .sentence, .builtin =>
    some (if isSpecial s.dialect name then s!"{name} is a special shell builtin"
      else s!"{name} is a shell builtin")
  | .sentence, .kept path =>
    some (if extended then s!"{name} is hashed ({path})" else s!"{name} is a tracked alias for {path}")
  | .sentence, .file path => some s!"{name} is {path}"
  | .reusable, .alias text =>
    some (if extended then s!"alias {name}={Quoted.single text}"
      else s!"alias {name}={Quoted.alternating text}")
  | _, .kept path | _, .file path => some path
  | .reusable, _ => some name
  | .path, _ => none

/-- What a name stands for, the first meaning first. All of them are sought if that is asked for. -/
def meanings (wantsAll skipsFunctions onlyFiles : Bool) (name : String) : Eval (List Meaning) := do
  let s ← get
  let extended := s.dialect == .extended
  let known := if extended then keywords ++ extendedKeywords else keywords
  let aliases := if onlyFiles ∨ (extended ∧ !s.longOptions.contains "expand_aliases") then []
    else ((s.aliases.lookup name).map Meaning.alias).toList
  let words := if !onlyFiles && known.contains name then [Meaning.keyword] else []
  let functions := if onlyFiles || skipsFunctions then []
    else ((s.functions.lookup name).map Meaning.function).toList
  let builtins := if !onlyFiles && isBuiltin s.dialect name && !s.disabled.contains name
    then [Meaning.builtin] else []
  let named := (if extended then aliases ++ words else words ++ aliases) ++ functions ++ builtins
  if !named.isEmpty && !wantsAll then
    return named.take 1
  let files ← if wantsAll then do
      let w ← ofProc Proc.view
      pure ((← programPaths name).filterMap fun path =>
        match w.files.stat w.cwd (Proc.pathOf path) with
        | .ok (.file _ true) => some (Meaning.file path)
        | _ => none)
    else
      match s.found.find? (·.name == name) with
      | some found => pure [Meaning.kept found.path]
      | none => do
        match ← search name with
        | .ok path => do
          if !extended && !name.contains '/' then
            keepPath name path 0
          pure [Meaning.file path]
        | .error _ => pure []
  return named ++ files

/-- Says what a name stands for; the status tells whether it stands for anything. -/
def describe (isVerbose : Bool) (name : String) : Eval Nat := do
  let s ← get
  match ← meanings false false false name with
  | m :: _ => do
    match m.told s (if isVerbose then .sentence else .reusable) name with
    | some text => Eval.print (text ++ "\n")
    | none => pure ()
    return 0
  | [] => do
    let extended := s.dialect == .extended
    if isVerbose then
      if extended then report s!"{name}: not found" else Eval.print s!"{name}: not found\n"
    return if extended then 1 else 127

/-- Describes several names; the extended dialect can say more or less about them. -/
def describeAll (arguments : List String) : Eval Nat := do
  if !(← isExtended) then
    return ← arguments.foldlM (fun status name => do return max status (← describe true name)) 0
  Builtin.withOptions "aftpP" arguments fun options names => do
    let has := Builtin.hasOption options
    let depiction : Depiction := if has 't' then .kind
      else if has 'p' || has 'P' then .path else .sentence
    names.foldlM (fun status name => do
      let found ← meanings (has 'a') (has 'f') (has 'P') name
      let s ← get
      for m in found do
        match m.told s depiction name with
        | some text => Eval.print (text ++ "\n")
        | none => pure ()
      if found.isEmpty then
        if depiction == .sentence then
          report s!"{name}: not found"
        return 1
      return status) 0

/-- Shows the paths that are kept. -/
def showPaths (asCommands : Bool) : Eval Unit := do
  let s ← get
  match s.dialect with
  | .plain =>
    for f in keptPaths s do
      Eval.print (f.path ++ "\n")
  | .extended => do
    if s.found.isEmpty then
      Eval.print "hash: hash table empty\n"
    else if asCommands then
      for f in keptPaths s do
        Eval.print s!"builtin hash -p {f.path} {f.name}\n"
    else
      Eval.print "hits\tcommand\n"
      for f in keptPaths s do
        let uses := toString f.uses
        let blanks := String.ofList (List.replicate (4 - uses.length) ' ')
        Eval.print s!"{blanks}{uses}\t{f.path}\n"

/-- Keeps the paths of programs, forgets or shows them. -/
def hashCommands (arguments : List String) : Eval Nat := do
  let extended ← isExtended
  Builtin.withOptions (if extended then "lrp:dt" else "r") arguments fun options names => do
    let has := Builtin.hasOption options
    if has 'r' then
      modify fun s => { s with found := [] }
    if names.isEmpty then
      if has 't' then
        report "-t: option requires an argument"
        return 1
      if !has 'r' then
        showPaths (has 'l')
      return 0
    names.foldlM (fun status name => do
      let s ← get
      let missing : Eval Nat := do
        report s!"{name}: not found"
        return 1
      let kept := s.found.find? (·.name == name)
      if let some path := options.lookup 'p' then
        keepPath name path 0
        return status
      if has 't' then
        match kept with
        | some f => do
          Eval.print ((if 1 < names.length then name ++ "\t" else "") ++ f.path ++ "\n")
          return status
        | none => missing
      else if has 'd' then
        modify fun s => { s with found := s.found.filter (·.name != name) }
        if kept.isSome then return status else missing
      else if name.contains '/' ∨ isBuiltin s.dialect name ∨ s.functions.any (·.1 == name) then
        return status
      else
        match ← search name with
        | .ok path => do
          keepPath name path 0
          return status
        | .error _ => missing) 0

end Eval

end LinkBench.Host.Shell
