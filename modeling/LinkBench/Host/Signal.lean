import LinkBench.Termination
/-!
Signals by number: those that processes treat in a way of their own, their short names, as commands take
them, and what is said of a process that one of them has ended.
-/

namespace LinkBench.Host

namespace Signal

/-- The signal of a write that nobody can read. -/
def brokenPipe : Nat := 13

def hangUp : Nat := 1

def interrupt : Nat := 2

def quit : Nat := 3

def kill : Nat := 9

def terminate : Nat := 15

def resume : Nat := 18

def stop : Nat := 19

/-- The first number that is too large for a signal. -/
def bound : Nat := 65

/-- Numbers of events that scripts can wait for like for signals: each step, a failure, and the end of a
function. -/
def step : Nat := 65

def failure : Nat := 66

def «return» : Nat := 67

def firstRealTime : Nat := 34

def lastRealTime : Nat := 64

/-- The short name of a signal that has one. -/
def name? (signal : Nat) : Option String :=
  if signal = firstRealTime then some "RTMIN"
  else if signal = lastRealTime then some "RTMAX"
  else if firstRealTime < signal ∧ signal < 50 then some s!"RTMIN+{signal - firstRealTime}"
  else if 50 ≤ signal ∧ signal < lastRealTime then some s!"RTMAX-{lastRealTime - signal}"
  else if signal = 16 then none
  else (signalNames.lookup signal).map fun name => (name.drop 3).toString

/-- The short name, or the number of a signal without a name. -/
def shown (signal : Nat) : String :=
  (name? signal).getD (toString signal)

/-- The signal of a short name, whose letters may be small. -/
def ofName? (name : String) : Option Nat :=
  let wanted := name.map Char.toUpper
  (List.range bound).find? fun signal => name? signal == some wanted

/-- What happens to processes by signals, in words. -/
def descriptions : List (Nat × String) :=
  [(1, "Hangup"), (2, "Interrupt"), (3, "Quit"), (4, "Illegal instruction"),
    (5, "Trace/breakpoint trap"), (6, "Aborted"), (7, "Bus error"), (8, "Floating point exception"),
    (9, "Killed"), (10, "User defined signal 1"), (11, "Segmentation fault"),
    (12, "User defined signal 2"), (13, "Broken pipe"), (14, "Alarm clock"), (15, "Terminated"),
    (16, "Stack fault"), (17, "Child exited"), (18, "Continued"), (19, "Stopped (signal)"),
    (20, "Stopped"), (21, "Stopped (tty input)"), (22, "Stopped (tty output)"),
    (23, "Urgent I/O condition"), (24, "CPU time limit exceeded"),
    (25, "File size limit exceeded"), (26, "Virtual timer expired"),
    (27, "Profiling timer expired"), (28, "Window changed"), (29, "I/O possible"),
    (30, "Power failure"), (31, "Bad system call")]

def description (signal : Nat) : String :=
  match descriptions.lookup signal with
  | some text => text
  | none =>
    if firstRealTime ≤ signal then s!"Real-time signal {signal - firstRealTime}"
    else s!"Unknown signal {signal}"

end Signal

end LinkBench.Host
