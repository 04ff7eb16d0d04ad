import LinkBench.Container.Alf.Version
import LinkBench.Termination
import LinkBench.Tool.Invocation
/-!
What a run reports on the way. An event has a level, a target and a text, which is a line unless what
it quotes holds line ends.
-/

namespace LinkBench

inductive LogLevel
  | trace
  | debug
  | info
  | warn
  deriving DecidableEq, Repr

namespace LogLevel

def severity : LogLevel → Nat
  | .trace => 0
  | .debug => 1
  | .info => 2
  | .warn => 3

def name : LogLevel → String
  | .trace => "trace"
  | .debug => "debug"
  | .info => "info"
  | .warn => "warn"

/-- The name of the level in a log line, five characters wide. -/
def label : LogLevel → String
  | .trace => "TRACE"
  | .debug => "DEBUG"
  | .info => " INFO"
  | .warn => " WARN"

end LogLevel

inductive Event
  | launching (inv : Invocation)
  | unsuccessful (tool : String) (termination : Termination)
  | outputNotWritten (tool : String) (output : Path) (completion : Completion)
  | blessed (dir : Path)
  | fileMatches (file : Path)
  | wroteDol (path : Path)
  | wroteAlf (path : Path) (version : Alf.Version)
  | wroteSamples (dol : Path)
  | noTestCases (dir : Path)
  | caseRunning (name : String)
  | caseCompiled (name : String) (objects : Nat)
  | caseLinked (name : String)
  | outputsMatch (name : String) (files : Nat)
  | cleanUpFailed (reason : IoError) (dir : Path)
  deriving DecidableEq

namespace Event

def level : Event → LogLevel
  | .fileMatches _ => .trace
  | .launching _ | .wroteDol _ | .wroteAlf .. | .caseCompiled .. | .caseLinked _ => .debug
  | .blessed _ | .wroteSamples _ | .caseRunning _ | .outputsMatch .. => .info
  | .unsuccessful .. | .outputNotWritten .. | .noTestCases _ | .cleanUpFailed .. => .warn

/-- The part of the program that reports the event. -/
def target : Event → String
  | .launching _ | .unsuccessful .. | .outputNotWritten .. => "kmharness::toolchain"
  | .blessed _ | .fileMatches _ => "kmharness::golden"
  | .wroteDol _ | .wroteAlf .. => "kmharness::sample"
  | .wroteSamples _ | .noTestCases _ | .caseRunning _ | .caseCompiled .. | .caseLinked _
  | .outputsMatch .. | .cleanUpFailed .. => "kmharness::harness"

/-- Control characters that would reach a terminal are written as escapes in the words of an event;
what it quotes in a field is not changed. -/
def escaped (c : Char) : String :=
  match c with
  | '\x1b' => "\\x1b"
  | '\x07' => "\\x07"
  | '\x08' => "\\x08"
  | '\x0c' => "\\x0c"
  | '\x7f' => "\\x7f"
  | c =>
    if '\u0080' ≤ c ∧ c ≤ '\u009f' then
      "\\u\x7b" ++ String.ofList (Nat.toDigits 16 c.toNat) ++ "\x7d"
    else
      String.singleton c

def wording (text : String) : String :=
  String.join (text.toList.map escaped)

def message : Event → String
  | .launching inv =>
    let command := wording inv.display
    s!"{command} cwd={inv.currentDir.text}"
  | .unsuccessful tool termination =>
    s!"tool exited unsuccessfully tool={tool} status={termination.text}"
  | .outputNotWritten tool output completion =>
    s!"output was not written tool={tool} output={output.text} status={completion.label}"
  | .blessed dir => s!"blessed path={dir.text}"
  | .fileMatches file => s!"matches file={file.text}"
  | .wroteDol path => s!"wrote sample DOL path={path.text}"
  | .wroteAlf path version => s!"wrote sample ALF path={path.text} version={version.raw}"
  | .wroteSamples dol => s!"wrote sample inputs dol={dol.text}"
  | .noTestCases dir => s!"no test cases found dir={dir.text}"
  | .caseRunning name => s!"running case={name}"
  | .caseCompiled name objects => s!"compiled case={name} objects={objects}"
  | .caseLinked name => s!"linked case={name}"
  | .outputsMatch name files => s!"outputs match case={name} files={files}"
  | .cleanUpFailed reason dir => s!"failed to clean up: {reason.message} dir={dir.text}"

def text (e : Event) : String :=
  s!"{e.level.label} {e.target}: {e.message}\n"

/-- A line without the carriage return at its end. -/
def bareLine (line : List Char) : List Char :=
  if line.getLast? = some '\r' then line.dropLast else line

/-- The lines of the text. -/
def lines (e : Event) : List String :=
  (splitAtEach '\n' e.text.toList).dropLast.map fun line => String.ofList (bareLine line)

end Event

/-- The lines of the events that are at least as severe as `level`. -/
def logLines (level : LogLevel) (events : List Event) : List String :=
  (events.filter fun e => decide (level.severity ≤ e.level.severity)).flatMap (·.lines)

end LinkBench
