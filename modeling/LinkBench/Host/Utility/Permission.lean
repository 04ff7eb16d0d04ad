import LinkBench.Host.Utility.Tree
/-!
Changing the modes of files.
-/

namespace LinkBench.Host.Utility

open Options

/-- What modes are changed by: a recipe, or the mode of another file. -/
inductive ModeSource
  | recipe (r : Mode.Recipe)
  | reference (mode : Nat)

/-- The mode that a source makes of another. -/
def ModeSource.apply (s : ModeSource) (isDirectory : Bool) (mask mode : Nat) : Nat :=
  match s with
  | .recipe r => r.apply isDirectory mask mode
  | .reference mode => mode

/-- Changes the mode of one entry. Where bits were to be taken away and the mask has kept some of them, it
complains if `isStrict`. -/
def chmodOne (command : String) (given : Given) (s : ModeSource) (isStrict : Bool) (name : String) :
    Proc Nat := do
  match ← factsOf name with
  | .error e => failWith command s!"cannot access {Quoting.always name}: {e.reason}" 1
  | .ok f =>
    let mask ← Proc.request .mask
    let isDirectory := f.entry.isDirectory
    let old := f.mode
    let new := s.apply isDirectory mask old
    let result ← Proc.modify fun files cwd => Alteration.toMode files cwd (Proc.pathOf name) new
    let choice := given.lastOf? ["v", "c"]
    if result.toBool ∧ (choice = some "v" ∨ (choice = some "c" ∧ old ≠ new)) then
      let newText := s!"{Mode.octal new} ({Mode.letters new})"
      if old = new then
        Proc.print s!"mode of {Quoting.always name} retained as {newText}\n"
      else
        let oldText := s!"{Mode.octal old} ({Mode.letters old})"
        Proc.print s!"mode of {Quoting.always name} changed from {oldText} to {newText}\n"
    let plain := s.apply isDirectory 0 old
    if isStrict ∧ new &&& (Mode.all - plain) ≠ 0 then
      return ← failWith command
        s!"{Quoting.named name}: new permissions are {Mode.letters new}, not {Mode.letters plain}" 1
    report command s!"changing permissions of {Quoting.always name}" result

/-- Changes the mode of an entry, and of all below it if that is asked for. -/
def chmodAll (command : String) (given : Given) (s : ModeSource) (isStrict : Bool) (name : String) :
    Proc Nat := do
  match ← entryOf name with
  | .error e =>
    if given.has "f" then return 1
    else failWith command s!"cannot access {Quoting.always name}: {e.reason}" 1
  | .ok entry =>
    let status ← chmodOne command given s isStrict name
    if given.has "R" ∧ entry.isDirectory then
      let w ← Proc.view
      let place := (w.files.resolve w.cwd (Proc.pathOf name)).toOption.getD .root
      let below := w.files.entries.filter fun x => place.base.isPrefixOf x.1 && x.1 != place.base
      let others ← forEach below fun (l, _) =>
        chmodOne command given s isStrict (String.intercalate "/"
          (name :: (l.drop place.base.length).map fun n => ByteText.encode n.text))
      return max status others
    else
      return status

/-- Whether an argument is a mode that takes permissions away, and no option. -/
def isModeArgument (a : String) : Bool :=
  match a.toList with
  | '-' :: c :: _ => "rwxXstugoa0123456789,+=".toList.contains c
  | _ => false

def chmodFlags : List Flag :=
  [flag "R" "recursive", flag "c" "changes", flag "f" "silent", flag "f" "quiet", flag "v" "verbose",
    flag "no-preserve-root" "no-preserve-root", flag "preserve-root" "preserve-root",
    valued "reference" "reference"]

def chmod (arguments : List String) : Proc Nat :=
  let options := arguments.tail.takeWhile (· != "--")
  let others := arguments.tail.drop options.length
  let modes := options.filter isModeArgument
  let rest := arguments.headD "" :: options.filter (fun a => !isModeArgument a) ++ others
  withOptions chmodFlags true 1 rest fun command given operands => do
    match given.last? "reference" with
    | some name =>
      if !modes.isEmpty then
        return ← refuseUse command "cannot combine mode and --reference options" 1
      if operands.isEmpty then return ← missingOperand command
      match ← factsOf name with
      | .error e => failWith command s!"failed to get attributes of {Quoting.always name}: {e.reason}" 1
      | .ok f => forEach operands (chmodAll command given (.reference f.mode) false)
    | none =>
      let isOption := !modes.isEmpty
      let found := if isOption then String.intercalate "," modes :: operands else operands
      match found with
      | [] => missingOperand command
      | [mode] => if isOption then missingOperand command else missingAfter command mode
      | mode :: names =>
        match Mode.Recipe.read? mode with
        | none => refuseUse command s!"invalid mode: {Quoting.quoted mode}" 1
        | some r => forEach names (chmodAll command given (.recipe r) isOption)

end LinkBench.Host.Utility
