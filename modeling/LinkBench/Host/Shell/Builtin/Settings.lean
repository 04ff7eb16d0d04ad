import LinkBench.Host.Shell.Builtin.Text
/-!
Further settings of the extended dialect, the directories that it goes back to, and what has called a
function.
-/

namespace LinkBench.Host.Shell.Builtin

open Eval

/-! ### Settings -/

/-- Shows settings, as they stand or as commands. -/
def showSettings (states : List (String × Bool)) (asCommands isOption : Bool) : Eval Unit :=
  for (name, isOn) in states do
    if asCommands then
      let word := if isOption then (if isOn then "set -o" else "set +o")
        else if isOn then "shopt -s" else "shopt -u"
      print s!"{word} {name}\n"
    else
      print (shownState 15 "\t" name isOn)

def shopt (arguments : List String) : Eval Nat :=
  withOptions "pqsuo" arguments fun options names => do
    let s ← get
    let isOption := hasOption options 'o'
    let states := if isOption then optionStates s
      else settingStates s
    let sets := hasOption options 's'
    let unsets := hasOption options 'u'
    if sets && unsets then
      report "cannot set and unset shell options simultaneously"
      return 1
    let refuseName (name : String) : Eval Unit :=
      report (if isOption then s!"{name}: invalid option name"
        else s!"{name}: invalid shell option name")
    if names = [] then
      if !hasOption options 'q' then
        let wanted := states.filter fun x => !(sets || unsets) || x.2 == sets
        showSettings wanted (hasOption options 'p') isOption
      return 0
    else if sets || unsets then
      names.foldlM (fun status name => do
        if isOption then
          if ← setLongName name sets then return status
        else if (settings.lookup name).isSome then
          switchName name sets
          return status
        refuseName name
        return 1) 0
    else
      names.foldlM (fun status name => do
        match states.lookup name with
        | some isOn => do
          if !hasOption options 'q' then
            showSettings [(name, isOn)] (hasOption options 'p') isOption
          return if isOn then status else 1
        | none => do
          refuseName name
          return 1) 0

/-! ### Directories to go back to -/

/-- A directory with a tilde in the place of the home directory. -/
def shownDirectory (home : Option String) (path : String) : String :=
  match home with
  | some home =>
    if path = home then "~"
    else if home ≠ "/" ∧ path.startsWith (home ++ "/") then "~" ++ (path.drop home.length).toString
    else path
  | none => path

/-- All directories, the current one first. -/
def stackedDirectories : Eval (List String) := do
  return (← currentDirectory) :: (← get).directories

def showDirectories : Eval Unit := do
  let home ← value? "HOME"
  print (String.intercalate " " ((← stackedDirectories).map (shownDirectory home)) ++ "\n")

/-- The number behind a sign that counts directories from the left or from the right. -/
def stackIndex? (size : Nat) (a : String) : Option Nat := do
  let n ← (a.drop 1).toString.toNat?
  if a.startsWith "+" then
    if n < size then return n else failure
  else if a.startsWith "-" then
    if n < size then return size - 1 - n else failure
  else failure

/-- Goes to a directory under the name of the running command. -/
def goTo (target : String) : Eval Nat := enter target target false false

def dirs (arguments : List String) : Eval Nat := do
  let flags := (arguments.filter fun a => a.startsWith "-" && !(a.drop 1).toString.toNat?.isSome).flatMap
    fun a => a.toList.drop 1
  let index := arguments.find? fun a => (a.drop 1).toString.toNat?.isSome
  if flags.contains 'c' then
    modify fun s => { s with directories := [] }
    return 0
  let all ← stackedDirectories
  let home ← value? "HOME"
  let shown (path : String) : String :=
    if flags.contains 'l' then path else shownDirectory home path
  match index with
  | some a =>
    match stackIndex? all.length a with
    | some n => do
      print (shown (all.getD n "") ++ "\n")
      return 0
    | none => do
      report s!"{a.drop 1}: directory stack index out of range"
      return 1
  | none => do
    if flags.contains 'v' then
      for (path, i) in all.zipIdx do
        let blank := if i < 10 then " " else ""
        print s!"{blank}{i}  {shown path}\n"
    else if flags.contains 'p' then
      for path in all do
        print (shown path ++ "\n")
    else
      print (String.intercalate " " (all.map shown) ++ "\n")
    return 0

def pushd (arguments : List String) : Eval Nat := do
  let staysHere := arguments.contains "-n"
  let all ← stackedDirectories
  match arguments.filter fun a => a != "-n" && a != "--" with
  | [] =>
    match all with
    | here :: next :: rest => do
      let status ← goTo next
      if status = 0 then
        modify fun s => { s with directories := here :: rest }
        showDirectories
      return status
    | _ => do
      report "no other directory"
      return 1
  | a :: _ =>
    match stackIndex? all.length a with
    | some n => do
      let rotated := all.drop n ++ all.take n
      let status ← goTo (rotated.headD "/")
      if status = 0 then
        modify fun s => { s with directories := rotated.tail }
        showDirectories
      return status
    | none => do
      if (a.startsWith "+" || a.startsWith "-") && (a.drop 1).toString.toNat?.isSome then
        report (if all.length = 1 then "directory stack empty"
          else s!"{a}: directory stack index out of range")
        return 1
      if staysHere then
        modify fun s => { s with directories := a :: s.directories }
        showDirectories
        return 0
      let here := all.headD "/"
      let status ← goTo a
      if status = 0 then
        modify fun s => { s with directories := here :: s.directories }
        showDirectories
      return status

def popd (arguments : List String) : Eval Nat := do
  let staysHere := arguments.contains "-n"
  let all ← stackedDirectories
  match (arguments.filter (· != "-n")).head?, all with
  | _, [_] | _, [] => do
    report "directory stack empty"
    return 1
  | none, _ :: next :: rest => do
    if staysHere then
      modify fun s => { s with directories := rest }
      showDirectories
      return 0
    let status ← goTo next
    if status = 0 then
      modify fun s => { s with directories := rest }
      showDirectories
    return status
  | some a, _ =>
    match stackIndex? all.length a with
    | some 0 => do
      let status ← goTo (all.getD 1 "/")
      if status = 0 then
        modify fun s => { s with directories := all.drop 2 }
        showDirectories
      return status
    | some n => do
      modify fun s => { s with directories := (all.eraseIdx n).tail }
      showDirectories
      return 0
    | none => do
      report s!"{a}: directory stack index out of range"
      return 1

/-! ### Callers -/

/-- Tells where the running function was called. -/
def caller (arguments : List String) : Eval Nat := do
  let calls := (← get).calls
  match arguments with
  | [] =>
    match calls with
    | call :: rest => do
      let source := (rest.head?.map (·.source)).getD "NULL"
      print s!"{call.line} {source}\n"
      return 0
    | [] => return 1
  | a :: _ =>
    match a.toNat? with
    | some n =>
      match calls[n]?, calls[n + 1]? with
      | some call, some outer => do
        print s!"{call.line} {outer.name} {outer.source}\n"
        return 0
      | _, _ => return 1
    | none => do
      report s!"{a}: invalid number"
      tellUsage

end LinkBench.Host.Shell.Builtin
