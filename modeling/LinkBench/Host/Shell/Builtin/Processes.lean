import LinkBench.Host.Shell.Builtin.Basic
import LinkBench.Host.Shell.Expansion
import LinkBench.Host.Signal
/-!
Commands of the shell that deal with processes and signals.
-/

namespace LinkBench.Host.Shell.Builtin

open Eval

/-! ### Signals -/

/-- Events of the extended dialect that are no signals. -/
def eventNames : List (String × Nat) :=
  [("DEBUG", Signal.step), ("ERR", Signal.failure), ("RETURN", Signal.return)]

/-- The signal of a number or a name. Only the extended dialect takes names with their first three
letters. -/
def signalOf? (extended : Bool) (least : Nat) (text : String) : Option Nat :=
  match number? text with
  | some n => if least ≤ n ∧ n < Signal.bound then some n else none
  | none =>
    let upper := text.map Char.toUpper
    if least = 0 ∧ upper = "EXIT" then some 0
    else if extended ∧ upper.startsWith "SIG" then Signal.ofName? (upper.drop 3).toString
    else Signal.ofName? text

/-- The signal or the event that something can be done at. -/
def eventOf? (extended : Bool) (text : String) : Option Nat :=
  match signalOf? extended 0 text with
  | some signal => some signal
  | none => if extended then eventNames.lookup (text.map Char.toUpper) else none

def shownTrap (s : State) (event : Nat) (action : String) : String :=
  match s.dialect with
  | .plain =>
    let name := if event = 0 then "EXIT" else Signal.shown event
    s!"trap -- {Quoted.alternating action} {name}\n"
  | .extended =>
    let name := match eventNames.find? (·.2 == event) with
      | some (name, _) => name
      | none => if event = 0 then "EXIT" else "SIG" ++ Signal.shown event
    s!"trap -- {Quoted.single action} {name}\n"

/-- Sets or resets what happens at a signal or another event. -/
def setTrap (event : Nat) (action : Option String) : Eval Unit := do
  modify fun s =>
    let others := s.traps.filter (·.1 != event)
    { s with
      outerTraps := []
      traps := match action with
        | some text => (event, text) :: others
        | none => others }
  if event ≠ 0 ∧ event < Signal.bound then
    ask (.setAction event (match action with
      | some "" => .ignore
      | some _ => .collect
      | none => .byDefault))

/-- Shows what happens at events. -/
def showTraps (events : List Nat) : Eval Unit := do
  let s ← get
  for event in events do
    match s.traps.lookup event <|> s.outerTraps.lookup event with
    | some action => print (shownTrap s event action)
    | none => pure ()

/-- The signals by number, five in a row. -/
def signalTable : String :=
  let shown := (List.range Signal.bound).filterMap fun signal =>
    if signal = 0 then none
    else (Signal.name? signal).map fun name =>
      let number := toString signal
      let blank := if number.length = 1 then " " else ""
      s!"{blank}{number}) SIG{name}"
  rows (shown.length + 1) shown
where
  rows : Nat → List String → String
    | 0, _ | _, [] => ""
    | fuel + 1, shown =>
      String.intercalate "\t" (shown.take 5) ++ (if shown.length < 5 then "\t" else "") ++ "\n" ++
        rows fuel (shown.drop 5)

def trap (arguments : List String) : Eval Nat := do
  let extended ← isExtended
  withOptions (if extended then "lp" else "") arguments fun options rest => do
    let isKnown (text : String) : Bool := (eventOf? extended text).isSome
    let refuseName (name : String) : Eval Nat := do
      if extended then report s!"{name}: invalid signal specification"
      else printError s!"trap: {name}: bad trap\n"
      return 1
    if hasOption options 'l' then
      print signalTable
      return 0
    if rest = [] then
      showTraps (List.range (Signal.return + 1))
      return 0
    if hasOption options 'p' then
      return ← rest.foldlM (fun status name => do
        match eventOf? extended name with
        | some event => do showTraps [event]; return status
        | none => refuseName name) 0
    let (action, names) : Option String × List String := match rest with
      | [only] => if !extended || (only != "-" && isKnown only) then (none, [only]) else (none, [])
      | first :: others =>
        if (number? first).isSome && isKnown first then (none, rest)
        else if !extended && isKnown first then (none, rest)
        else (if first = "-" then none else some first, others)
      | [] => (none, [])
    if names = [] then
      return ← tellUsage
    names.foldlM (fun status name => do
      if status ≠ 0 ∧ !extended then
        return status
      match eventOf? extended name with
      | some event => do
        setTrap event action
        return status
      | none => refuseName name) 0

/-! ### Jobs -/

/-- Says how a process has ended that a signal has ended. -/
def tellSignal : Termination → Eval Unit
  | .signalled signal => do
    if !(← isExtended) ∧ signal ≠ Signal.interrupt ∧ signal ≠ Signal.brokenPipe then
      printError (Signal.description signal ++ "\n")
  | .exited _ => return

/-- Changes the job of a process. -/
def changeJob (id : Nat) (change : Job → Job) : Eval Unit :=
  modify fun s => { s with jobs := s.jobs.map fun job => if job.id = id then change job else job }

/-- Notices which jobs have ended. -/
def pollJobs : List Job → Eval Unit
  | [] => return
  | job :: rest => do
    if job.ended.isNone then
      let ended : Option Termination ← ask (.poll job.id)
      if ended.isSome then
        changeJob job.id fun job => { job with ended }
    pollJobs rest

/-- The job that a text behind a percent sign means. Commands are not kept, so no job has the
beginning of a text. -/
def jobOf? (jobs : List Job) (text : String) : Except String Job :=
  let unknown := s!"No such job: {text}"
  match text.toList with
  | '%' :: rest =>
    if rest = [] ∨ rest = ['+'] ∨ rest = ['%'] then
      match jobs with
      | job :: _ => .ok job
      | [] => .error "No current job"
    else if rest = ['-'] then
      match jobs with
      | _ :: job :: _ => .ok job
      | _ => .error "No previous job"
    else
      match number? (String.ofList rest) with
      | some n =>
        match jobs.find? (·.number == n) with
        | some job => .ok job
        | none => .error unknown
      | none => .error unknown
  | _ => .error unknown

/-- Finds a job, or complains that there is none. -/
def withJob (text : String) (body : Job → Eval Nat) : Eval Nat := do
  match jobOf? (← get).jobs text with
  | .ok job => body job
  | .error reason =>
    if ← isExtended then
      report s!"{text}: no such job"
      return 127
    else
      refuse reason

/-! ### Sending signals -/

/-- Sends a signal to processes, given by their numbers. The plain dialect takes a job for a group of
processes, which it is only under a terminal. -/
def sendAll (signal : Nat) (targets : List String) : Eval Nat := do
  let extended ← isExtended
  targets.foldlM (fun status target => do
    let send (id : Nat) : Eval Nat := do
      let result : Except IoError Unit ← ask (.kill id signal)
      match result with
      | .ok () => return status
      | .error e => do
        report (if extended then s!"({target}) - {e.reason}" else e.reason ++ "\n")
        return 1
    if target.startsWith "%" then
      withJob target fun job => do
        if extended then
          send job.id
        else
          report "No such process\n"
          return 1
    else
      match target.toNat? with
      | some 0 => do send (← ask .ownId)
      | some id => send id
      | none =>
        if extended then
          report s!"{target}: arguments must be process or job IDs"
          return 1
        else
          refuse s!"Illegal number: {target}") 0

/-- Shows the names of signals, all or those of exit statuses. -/
def listSignals (targets : List String) : Eval Nat := do
  let extended ← isExtended
  match targets with
  | [] => do
    if extended then
      print signalTable
    else
      print "0\n"
      for n in List.range Signal.bound do
        if 0 < n then
          print (Signal.shown n ++ "\n")
    return 0
  | targets =>
    (if extended then targets else targets.take 1).foldlM (fun status target => do
      return max status (← listOne extended target)) 0
where
  listOne (extended : Bool) (target : String) : Eval Nat := do
    match number? target with
    | some n =>
      let signal := if 128 < n then n - 128 else n
      if 0 < signal ∧ signal < Signal.bound then
        print (Signal.shown signal ++ "\n")
        return 0
      else if extended then
        report s!"{target}: invalid signal specification"
        return 1
      else
        refuse s!"invalid signal number or exit status: {target}"
    | none =>
      if extended then
        match signalOf? true 0 target with
        | some signal => do
          print (toString signal ++ "\n")
          return 0
        | none => do
          report s!"{target}: invalid signal specification"
          return 1
      else
        refuse s!"Illegal number: {target}"

def killUsage : Eval Nat := do
  if ← isExtended then
    printError ("kill: usage: kill [-s sigspec | -n signum | -sigspec] pid | jobspec ... or " ++
      "kill -l [sigspec]\n")
    return 2
  else
    refuse ("Usage: kill [-s sigspec | -signum | -sigspec] [pid | job]... or\n" ++
      "kill -l [exitstatus]")

def kill (arguments : List String) : Eval Nat := do
  let extended ← isExtended
  let withTargets (signal : Nat) (targets : List String) : Eval Nat :=
    if targets = [] then killUsage else sendAll signal targets
  match arguments with
  | [] => killUsage
  | first :: rest =>
    match first.toList with
    | '-' :: c :: cs =>
      match signalOf? extended 0 (String.ofList (c :: cs)) with
      | some signal => withTargets signal (if rest.head? = some "--" then rest.tail else rest)
      | none =>
        withOptions (if extended then "ls:n:L" else "ls:") arguments fun options rest => do
          if hasOption options 'l' ∨ hasOption options 'L' then
            listSignals rest
          else
            match options.lookup 's' <|> options.lookup 'n' with
            | some name =>
              match signalOf? extended 0 name with
              | some signal => withTargets signal rest
              | none =>
                if extended then
                  report s!"{name}: invalid signal specification"
                  return 1
                else
                  refuse s!"invalid signal number or name: {name}"
            | none => withTargets Signal.terminate rest
    | _ => withTargets Signal.terminate arguments

/-! ### Waiting -/

/-- Takes the signals that have come in and keeps them for later. -/
def collectSignals : Eval (List Nat) := do
  let signals : List Nat ← ask .tick
  modify fun s => { s with caught := s.caught ++ signals }
  return signals

/-- Waits for a job and yields its status, and whether a signal has come first. Says of a signal that
has ended the job, if `tells`. -/
def awaitJob (tells : Bool) (job : Job) : Eval (Nat × Bool) := do
  match job.ended with
  | some t => do
    changeJob job.id fun job => { job with isAwaited := true }
    return (statusOf t, false)
  | none => do
    let result : WaitResult ← ask (.wait (some job.id) true)
    match result with
    | .ended _ t => do
      if tells then
        tellSignal t
      changeJob job.id fun job => { job with ended := some t, isAwaited := true }
      return (statusOf t, false)
    | .noChild => return (127, false)
    | .interrupted => do
      let signals ← collectSignals
      return (128 + signals.headD 0, true)

def waitForJob (job : Job) : Eval Nat := do
  return (← awaitJob true job).1

/-- Waits for the next end of a job among those of some processes. The fuel bounds how many other
processes end before. -/
def waitForNext : Nat → Eval Nat
  | 0 => return 127
  | fuel + 1 => do
    match (← get).jobs.reverse.find? fun job => job.ended.isSome && !job.isAwaited with
    | some job => waitForJob job
    | none =>
      let result : WaitResult ← ask (.wait none true)
      match result with
      | .ended id t => do
        if (← get).jobs.any (·.id == id) then
          changeJob id fun job => { job with ended := some t, isAwaited := true }
          return statusOf t
        else
          waitForNext fuel
      | .noChild => return 127
      | .interrupted => do
        let signals ← collectSignals
        return 128 + signals.headD 0

/-- Waits for all jobs, one after the other. -/
def waitForAll : List Job → Eval Nat
  | [] => return 0
  | job :: rest => do
    let (status, isInterrupted) ← awaitJob false job
    if isInterrupted then return status else waitForAll rest

def wait (arguments : List String) : Eval Nat := do
  let extended ← isExtended
  withOptions (if extended then "nfp:" else "") arguments fun options targets => do
    if hasOption options 'n' then
      return ← waitForNext 1000
    match targets with
    | [] => waitForAll (← get).jobs
    | _ =>
      targets.foldlM (fun _ target => do
        if target.startsWith "%" then
          withJob target waitForJob
        else
          match number? target with
          | some id =>
            match (← get).jobs.find? (·.id == id) with
            | some job => waitForJob job
            | none => do
              if extended then
                report s!"pid {target} is not a child of this shell"
              return 127
          | none =>
            if extended then
              report s!"\x60{target}': not a pid or valid job spec"
              return 1
            else
              refuse s!"Illegal number: {target}") 127

/-! ### Showing jobs -/

/-- What has become of a job. -/
def jobState (job : Job) : String :=
  match job.ended with
  | none => "Running"
  | some (.exited 0) => "Done"
  | some (.exited status) => s!"Done({status})"
  | some (.signalled signal) => Signal.description signal

/-- The line of a job among those that are shown. -/
def shownJob (jobs : List Job) (showsId : Bool) (job : Job) : String :=
  let sign := match jobs with
    | first :: second :: _ =>
      if first.number = job.number then "+" else if second.number = job.number then "-" else " "
    | [_] => "+"
    | [] => " "
  let id := if showsId then s!"{job.id} " else ""
  let text := s!"[{job.number}] {sign} {id}{jobState job}"
  let blanks := String.ofList (List.replicate (max 1 (33 - text.length)) ' ')
  text ++ blanks ++ String.join (List.replicate (job.stages - 1) " | ") ++ "\n"

/-- The line of a job in the extended dialect. -/
def shownExtendedJob (jobs : List Job) (showsId : Bool) (job : Job) : String :=
  let sign := match jobs with
    | first :: second :: _ =>
      if first.number = job.number then "+" else if second.number = job.number then "-" else " "
    | _ => "+"
  let id := if showsId then s!"{job.id}" else " "
  let state := match job.ended with
    | some (.exited status) => if status = 0 then "Done" else s!"Exit {status}"
    | _ => jobState job
  let blanks := String.ofList (List.replicate (24 - state.length) ' ')
  let ending := if job.ended.isNone then " &" else ""
  s!"[{job.number}]{sign} {id}{state}{blanks}{job.text}{ending}\n"

/-- Shows jobs; those that have ended are forgotten then. -/
def jobs (arguments : List String) : Eval Nat := do
  let extended ← isExtended
  withOptions (if extended then "lpnrsx" else "lp") arguments fun options targets => do
    pollJobs (← get).jobs
    let showOne (job : Job) : Eval Nat := do
      if hasOption options 'p' then
        print s!"{job.id}\n"
      else if extended then
        let isWanted := !(hasOption options 'r' && job.ended.isSome) && !hasOption options 's'
        if isWanted && !job.isAwaited then
          print (shownExtendedJob (← get).jobs (hasOption options 'l') job)
          if job.ended.isSome then
            changeJob job.id fun job => { job with isAwaited := true }
      else
        print (shownJob (← get).jobs (hasOption options 'l') job)
        if job.ended.isSome then
          modify fun s => { s with jobs := s.jobs.filter (·.number != job.number) }
      return 0
    if targets = [] then
      let all := (← get).jobs
      for job in (if extended then all.reverse else all) do
        let _ ← showOne job
      return 0
    else
      targets.foldlM (fun _ target => withJob target showOne) 0

/-- Forgets jobs. -/
def disown (arguments : List String) : Eval Nat :=
  withOptions "ahr" arguments fun options targets => do
    if hasOption options 'a' then
      modify fun s => { s with jobs := [] }
      return 0
    if targets = [] ∧ (← get).jobs.all (·.isAwaited) then
      report "current: no such job"
      return 1
    (if targets = [] then ["%+"] else targets).foldlM (fun status target => do
      let all := (← get).jobs
      let job? := match number? target with
        | some id => all.find? fun (job : Job) => job.id == id
        | none => (jobOf? all target).toOption
      match job? with
      | some job => do
        if !hasOption options 'h' then
          modify fun s => { s with jobs := s.jobs.filter fun j => j.number != job.number }
        return status
      | none => do
        report s!"{target}: no such job"
        return 1) 0

/-- Goes on with a job; a shell that runs a script controls none. -/
def resume (arguments : List String) : Eval Nat := do
  if ← isExtended then
    report "no job control"
    return 1
  else
    withOptions "" arguments fun _ targets =>
      let target := targets.headD "%+"
      withJob target fun _ =>
        refuse (if targets = [] then "job (null) not created under job control"
          else s!"job {target} not created under job control")

/-! ### Resources -/

def times (_ : List String) : Eval Nat := do
  let line := if ← isExtended then "0m0.000s 0m0.000s\n" else "0m0.000000s 0m0.000000s\n"
  print (line ++ line)
  return 0

/-- No resource is limited. -/
def ulimit (arguments : List String) : Eval Nat := do
  let letters := if ← isExtended then "HSabcdefiklmnpqrstuvxPRT" else "HSatfdscmlpnvwr"
  withOptions letters arguments fun _ limits => do
    if limits = [] then
      print "unlimited\n"
    return 0

end LinkBench.Host.Shell.Builtin
