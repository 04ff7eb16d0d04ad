import LinkBench.CommandLine.Help
import LinkBench.CommandLine.StaticBase
import LinkBench.CommandLine.Terminal
import LinkBench.Suite
/-!
The command line. Arguments are examined from left to right and the first failure counts. A value
that stands by itself is examined only when the next known argument is reached, so an unknown
argument right behind it is reported first.
-/

namespace LinkBench.CommandLine

/-- What a command line asks for. -/
structure Arguments where
  testsDir : Path
  bless : Bool
  samplesOnly : Bool
  compilerDir : Path
  includeDir : Path
  linker : Path
  wine : Path
  noWine : Bool
  versions : Path
  staticBase : UInt32
  /-- Seconds that a tool may run; zero sets no limit. -/
  timeout : Nat
  keepFailed : Bool
  verbose : Bool
  quiet : Bool
  deriving DecidableEq

namespace Arguments

/-- What holds where the command line is silent. -/
def default : Arguments where
  testsDir := .ofString "."
  bless := false
  samplesOnly := false
  compilerDir := .ofString "../cw"
  includeDir := .ofString "../k_stdlib"
  linker := .ofString "../Kamek"
  wine := .ofString "wine"
  noWine := false
  versions := .ofString "versions.txt"
  staticBase := 0x82000000
  timeout := 300
  keepFailed := false
  verbose := false
  quiet := false

/-- The least severe events that are reported; being verbose wins over being quiet. -/
def logLevel (a : Arguments) : LogLevel :=
  if a.verbose then .debug else if a.quiet then .warn else .info

def config (a : Arguments) : Config where
  toolchain := .ofDirectories a.testsDir a.compilerDir a.includeDir a.linker
    (if a.noWine then none else some a.wine)
  staticBase := a.staticBase
  versions := a.versions
  mode := if a.bless then .bless else .verify
  keepFailed := a.keepFailed

end Arguments

/-- An argument that takes no value. -/
inductive Flag
  | bless
  | samplesOnly
  | noWine
  | keepFailed
  | verbose
  | quiet
  | help
  | version
  deriving DecidableEq, Repr

namespace Flag

def longName : Flag → String
  | .bless => "bless"
  | .samplesOnly => "samples-only"
  | .noWine => "no-wine"
  | .keepFailed => "keep-failed"
  | .verbose => "verbose"
  | .quiet => "quiet"
  | .help => "help"
  | .version => "version"

def all : List Flag :=
  [.bless, .samplesOnly, .noWine, .keepFailed, .verbose, .quiet, .help, .version]

def ofLetter? : Char → Option Flag
  | 'v' => some .verbose
  | 'z' => some .quiet
  | 'h' => some .help
  | 'V' => some .version
  | _ => none

/-- The flag in messages, always in its long form. -/
def label (f : Flag) : String := "--" ++ f.longName

end Flag

/-- An argument that takes a value. -/
inductive Parameter
  | cw
  | stdlib
  | linker
  | wine
  | versions
  | staticBase
  | timeout
  deriving DecidableEq, Repr

namespace Parameter

def longName : Parameter → String
  | .cw => "cw"
  | .stdlib => "stdlib"
  | .linker => "linker"
  | .wine => "wine"
  | .versions => "versions"
  | .staticBase => "static-base"
  | .timeout => "timeout"

def valueName : Parameter → String
  | .cw => "CW_DIR"
  | .stdlib => "INCLUDE_DIR"
  | .linker => "LINKER"
  | .wine => "WINE"
  | .versions => "VERSIONS"
  | .staticBase => "STATIC_BASE"
  | .timeout => "TIMEOUT"

def all : List Parameter :=
  [.cw, .stdlib, .linker, .wine, .versions, .staticBase, .timeout]

def label (p : Parameter) : String := s!"--{p.longName} <{p.valueName}>"

end Parameter

def testsDirLabel : String := "[TESTS_DIR]"

/-- Why no run follows from a command line. -/
inductive Stop
  | unknownArgument (argument : String)
  | valueMissing (label : String)
  | invalidValue (value label reason : String)
  | repeated (label : String)
  | unexpectedValue (value label : String)
  | help (long : Bool)
  | version
  deriving DecidableEq, Repr

/-- A stop in words. What the user wrote is highlighted, except where a reason repeats it. -/
def Stop.sentence : Stop → String
  | .unknownArgument argument =>
    let shown := Terminal.highlighted argument
    s!"unexpected argument '{shown}' found"
  | .valueMissing label => s!"a value is required for '{label}' but none was supplied"
  | .invalidValue value label reason =>
    let shown := Terminal.highlighted value
    s!"invalid value '{shown}' for '{label}': {reason}"
  | .repeated label => s!"the argument '{label}' cannot be used multiple times"
  | .unexpectedValue value label =>
    let shown := Terminal.highlighted value
    s!"unexpected value '{shown}' for '{label}' found; no more were expected"
  | .help long => if long then longHelp else shortHelp
  | .version => versionText

/-- What follows the sentence of an error, behind a blank line. -/
def advice : String :=
  let option := "\x1b[1m" ++ Terminal.highlighted "--help"
  s!"\n\nFor more information, try '{option}'.\n"

/-- The text before the first blank line. -/
def firstParagraph : List Char → List Char
  | '\n' :: '\n' :: _ => []
  | c :: cs => c :: firstParagraph cs
  | [] => []

/-- Whether the command line asks for a text and nothing else. -/
def Stop.isRequest : Stop → Bool
  | .help _ | .version => true
  | _ => false

/-- The first paragraph of what a terminal shows of an error; a text that was asked for is shown
whole. -/
def Stop.message (s : Stop) : String :=
  if s.isRequest then
    s.sentence
  else
    String.ofList (firstParagraph (Terminal.visible (s.sentence ++ advice)).toList)

/-- A value whose examination is put off. -/
inductive Pending
  | parameter (p : Parameter) (value : Option String)
  | testsDir (value : String)
  deriving DecidableEq, Repr

/-- How far a command line is understood. -/
structure Progress where
  arguments : Arguments
  flags : List Flag
  parameters : List Parameter
  pending : Option Pending
  hasTestsDir : Bool
  /-- Behind `--` there are only positional arguments. -/
  onlyPositional : Bool

namespace Progress

def start : Progress where
  arguments := .default
  flags := []
  parameters := []
  pending := none
  hasTestsDir := false
  onlyPositional := false

def pathValue (label value : String) : Except Stop Path :=
  if value = "" then .error (.valueMissing label) else .ok (.ofString value)

/-- The number of values of a timeout, whose seconds fill 64 bits. -/
def timeoutLimit : Nat := 18446744073709551616

/-- Puts the value of a parameter in its place. -/
def assign (a : Arguments) (p : Parameter) (value : String) : Except Stop Arguments :=
  match p with
  | .cw => do return { a with compilerDir := ← pathValue p.label value }
  | .stdlib => do return { a with includeDir := ← pathValue p.label value }
  | .linker => do return { a with linker := ← pathValue p.label value }
  | .wine => do return { a with wine := ← pathValue p.label value }
  | .versions => do return { a with versions := ← pathValue p.label value }
  | .staticBase =>
    match StaticBase.parse value with
    | .ok base => .ok { a with staticBase := base }
    | .error e => .error (.invalidValue value p.label e.message)
  | .timeout =>
    match Numeral.read 10 timeoutLimit value.toList with
    | .ok seconds => .ok { a with timeout := seconds }
    | .error e => .error (.invalidValue value p.label e.message)

/-- Accepts a parameter: it needs a value, may be given once, and its value has to be valid. -/
def acceptParameter (s : Progress) (p : Parameter) : Option String → Except Stop Progress
  | none => .error (.valueMissing p.label)
  | some value =>
    if p ∈ s.parameters then
      .error (.repeated p.label)
    else do
      let arguments ← assign s.arguments p value
      return { s with arguments, parameters := p :: s.parameters }

/-- Examines the value that was put off. -/
def settle (s : Progress) : Except Stop Progress :=
  let s' := { s with pending := none }
  match s.pending with
  | none => .ok s'
  | some (.parameter p value) => s'.acceptParameter p value
  | some (.testsDir value) => do
    let testsDir ← pathValue testsDirLabel value
    return { s' with arguments := { s'.arguments with testsDir } }

def setFlag (a : Arguments) : Flag → Arguments
  | .bless => { a with bless := true }
  | .samplesOnly => { a with samplesOnly := true }
  | .noWine => { a with noWine := true }
  | .keepFailed => { a with keepFailed := true }
  | .verbose => { a with verbose := true }
  | .quiet => { a with quiet := true }
  | .help | .version => a

/-- Accepts a flag, which may be given once. The long form of the help flag asks for more help. -/
def acceptFlag (s : Progress) (f : Flag) (long : Bool) : Except Stop Progress := do
  let s ← s.settle
  match f with
  | .help => .error (.help long)
  | .version => .error .version
  | _ =>
    if f ∈ s.flags then
      .error (.repeated f.label)
    else
      return { s with arguments := setFlag s.arguments f, flags := f :: s.flags }

def acceptLetters (s : Progress) : List Char → Except Stop Progress
  | [] => .ok s
  | c :: rest =>
    match Flag.ofLetter? c with
    | some f => do (← s.acceptFlag f false).acceptLetters rest
    | none => .error (.unknownArgument (String.ofList ['-', c]))

/-- The text before the first equals sign, and the text behind it if there is one. -/
def splitValue (cs : List Char) : String × Option String :=
  match cs.dropWhile (· != '=') with
  | [] => (String.ofList cs, none)
  | _ :: value => (String.ofList (cs.takeWhile (· != '=')), some (String.ofList value))

def acceptLong (s : Progress) (cs : List Char) : Except Stop Progress :=
  let (name, value) := splitValue cs
  match Flag.all.find? (·.longName = name), Parameter.all.find? (·.longName = name) with
  | some f, _ =>
    match value with
    | some value => .error (.unexpectedValue value f.label)
    | none => s.acceptFlag f true
  | none, some p => do
    let s ← s.settle
    match value with
    | some value => s.acceptParameter p (some value)
    | none => return { s with pending := some (.parameter p none) }
  | none, none => .error (.unknownArgument ("--" ++ name))

def acceptPositional (s : Progress) (argument : String) : Except Stop Progress :=
  if s.hasTestsDir then
    .error (.unknownArgument argument)
  else do
    let s ← s.settle
    return { s with pending := some (.testsDir argument), hasTestsDir := true }

/-- Takes in the next argument. A single dash is an ordinary value. -/
def accept (s : Progress) (argument : String) : Except Stop Progress :=
  if s.onlyPositional then
    s.acceptPositional argument
  else
    match argument.toList with
    | ['-', '-'] => .ok { s with onlyPositional := true }
    | '-' :: '-' :: cs => s.acceptLong cs
    | '-' :: c :: cs => s.acceptLetters (c :: cs)
    | _ =>
      match s.pending with
      | some (.parameter p none) =>
        .ok { s with pending := some (.parameter p (some argument)) }
      | _ => s.acceptPositional argument

end Progress

/-- Reads a command line, the name of the program left out. -/
def parse (arguments : List String) : Except Stop Arguments := do
  let s ← arguments.foldlM Progress.accept .start
  return (← s.settle).arguments

end LinkBench.CommandLine
