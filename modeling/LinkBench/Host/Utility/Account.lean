import LinkBench.Host.Utility.Amount
/-!
Programs that say on whose behalf they run, and on what system.
-/

namespace LinkBench.Host.Utility

open Options

/-! ### Who and where -/

def whoami : List String → Proc Nat := fun arguments =>
  withOptions [] true 1 arguments fun command _ operands =>
    match operands with
    | [] => emit command "root\n" 0
    | extra :: _ => extraOperand command extra

/-- The only account that there is. -/
def isAccount (name : String) : Bool := name == "root" || name == "0" || name == "+0"

/-- Runs `f` for every name of an account, and complains about the others. -/
def forAccounts (command : String) (names : List String) (f : String → Proc Nat) : Proc Nat :=
  forEach names fun name =>
    if isAccount name then f name else failWith command s!"{Quoting.quoted name}: no such user" 1

def identityFlags : List Flag :=
  [flag "u" "user", flag "g" "group", flag "G" "groups", flag "n" "name", flag "r" "real",
    flag "z" "zero", flag "Z" "context", flag "a" ""]

def identity : List String → Proc Nat := fun arguments =>
  withOptions identityFlags true 1 arguments fun command given operands => do
    let chosen := ["u", "g", "G"].filter given.has
    let ending := if given.has "z" then "\x00" else "\n"
    if given.has "Z" then
      failWith command "--context (-Z) works only on an SELinux-enabled kernel" 1
    else if 1 < chosen.length then
      failWith command "cannot print \"only\" of more than one choice" 1
    else if chosen.isEmpty ∧ (given.has "n" ∨ given.has "r") then
      failWith command "cannot print only names or real IDs in default format" 1
    else if chosen.isEmpty ∧ given.has "z" then
      failWith command "option --zero not permitted in default format" 1
    else
      let text := if chosen.isEmpty then "uid=0(root) gid=0(root) groups=0(root)"
        else if given.has "n" then "root" else "0"
      -- a list of groups that ends in a zero is set off from the next one by another zero
      let ending := if given.has "G" ∧ given.has "z" ∧ 1 < operands.length then ending ++ ending else ending
      if operands.isEmpty then emit command (text ++ ending) 0
      else forAccounts command operands fun _ => emit command (text ++ ending) 0

def groups : List String → Proc Nat := fun arguments =>
  withOptions [] true 1 arguments fun command _ operands =>
    if operands.isEmpty then emit command "root\n" 0
    else forAccounts command operands fun name => emit command s!"{name} : root\n" 0

/-- Runs a program that takes no operands. -/
def withoutOperands (flags : List Flag) (status : Nat) (arguments : List String)
    (body : String → Given → Proc Nat) : Proc Nat :=
  withOptions flags true status arguments fun command given operands =>
    match operands with
    | [] => body command given
    | extra :: _ => refuseUse command s!"extra operand {Quoting.quoted extra}" status

def logname : List String → Proc Nat := fun arguments =>
  withoutOperands [] 1 arguments fun command _ => failWith command "no login name" 1

def tty : List String → Proc Nat := fun arguments =>
  let flags := [flag "s" "silent", flag "s" "quiet"]
  withoutOperands flags 2 arguments fun command given =>
    if given.has "s" then return 1 else emit command "not a tty\n" 1

def unameFlags : List Flag :=
  [flag "a" "all", flag "s" "kernel-name", flag "n" "nodename", flag "r" "kernel-release",
    flag "v" "kernel-version", flag "m" "machine", flag "p" "processor",
    flag "i" "hardware-platform", flag "o" "operating-system"]

def uname : List String → Proc Nat := fun arguments =>
  withoutOperands unameFlags 1 arguments fun command given =>
    let facts := [("s", "Linux"), ("n", "localhost"), ("r", "6.1.0"), ("v", "#1 SMP"),
      ("m", "x86_64"), ("p", "unknown"), ("i", "unknown"), ("o", "GNU/Linux")]
    let isWide (key : String) : Bool := given.has "a" && key != "p" && key != "i"
    let shown := if given.isEmpty then facts.take 1
      else facts.filter fun x => isWide x.1 || given.has x.1 && !given.has "a"
    emit command (String.intercalate " " (shown.map (·.2)) ++ "\n") 0

def arch : List String → Proc Nat := fun arguments =>
  withoutOperands [] 1 arguments fun command _ => emit command "x86_64\n" 0

def nproc : List String → Proc Nat := fun arguments =>
  withOptions [flag "all" "all", valued "ignore" "ignore"] true 1 arguments
    fun command given operands =>
      let wrong? := (given.all "ignore").find? fun text => (Amount.read? "" text).isNone
      match wrong?, operands with
      | some text, _ => failWith command s!"invalid number: {Quoting.quoted text}" 1
      | none, extra :: _ => extraOperand command extra
      | none, [] => emit command "1\n" 0

/-- Waits until files are stored, which they are at once. -/
def sync : List String → Proc Nat := fun arguments =>
  let flags := [flag "d" "data", flag "f" "file-system"]
  withOptions flags true 1 arguments fun command given operands => do
    if given.has "d" ∧ given.has "f" then
      failWith command "cannot specify both --data and --file-system" 1
    else if given.has "d" ∧ operands.isEmpty then
      failWith command "--data needs at least one argument" 1
    else
      let w ← Proc.view
      forEach operands fun name =>
        match w.files.stat w.cwd (Proc.pathOf name) with
        | .ok _ => return 0
        | .error e => failWith command s!"error opening {Quoting.always name}: {e.reason}" 1

/-! ### Numbers -/

/-- The prime factors of a number, from one on. The fuel bounds the search. -/
def factorsFrom : Nat → Nat → Nat → List Nat
  | 0, _, n => [n]
  | fuel + 1, d, n =>
    if n < 2 then []
    else if n < d * d then [n]
    else if n % d = 0 then d :: factorsFrom fuel d (n / d)
    else factorsFrom fuel (d + 1) n

def factor : List String → Proc Nat := fun arguments =>
  withOptions [] true 1 arguments fun command _ operands => do
    let words ← if operands.isEmpty then do
        let text := (← textOf "-").toOption.getD ""
        pure (((text.map fun c => if c = '\n' ∨ c = '\t' then ' ' else c).splitOn " ").filter
          (· != ""))
      else pure operands
    forEach words fun word =>
      match word.toNat? with
      | some n =>
        let factors := factorsFrom 10000000 2 n
        emit command (s!"{n}:" ++ String.join (factors.map fun p => s!" {p}") ++ "\n") 0
      | none => failWith command s!"{Quoting.quoted word} is not a valid positive integer" 1

end LinkBench.Host.Utility
