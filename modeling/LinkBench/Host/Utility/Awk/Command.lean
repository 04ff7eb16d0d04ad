import LinkBench.Host.Utility.Awk.Execution
import LinkBench.Host.Utility.Awk.Rules
/-!
The program that runs programs on the lines of its files: its options, and what a run begins with.
-/

namespace LinkBench.Host.Utility.Awk

/-- What the arguments ask for. -/
structure Request where
  divider : Option String
  /-- Variables with their values. -/
  assignments : List (String × String)
  programFiles : List String
  rest : List String

/-- Reads options. The fuel bounds the number of arguments. -/
def readOptions : Nat → Request → List String → Except String Request
  | 0, q, as => .ok { q with rest := as }
  | _, q, [] => .ok { q with rest := [] }
  | _, q, "--" :: rest => .ok { q with rest }
  | fuel + 1, q, a :: rest =>
    let valued (letter : Char) (tail : List Char) (use : Request → String → Except String Request) :
        Except String Request :=
      match tail, rest with
      | [], [] =>
        let shown := String.singleton letter
        .error s!"option requires an argument -- {shown}"
      | [], value :: rest => do readOptions fuel (← use q value) rest
      | tail, rest => do readOptions fuel (← use q (String.ofList tail)) rest
    match a.toList with
    | '-' :: 'F' :: tail =>
      valued 'F' tail fun q value =>
        .ok { q with divider := some (String.ofList (Token.unescaped value.toList)) }
    | '-' :: 'v' :: tail =>
      valued 'v' tail fun q value =>
        match Run.assignment? value with
        | some x => .ok { q with assignments := q.assignments ++ [x] }
        | none => .error s!"improper assignment: -v {value}"
    | '-' :: 'f' :: tail =>
      valued 'f' tail fun q value => .ok { q with programFiles := q.programFiles ++ [value] }
    | '-' :: 'W' :: tail => valued 'W' tail fun q _ => .ok q
    | '-' :: _ :: _ => .error s!"not an option: {a}"
    | _ => .ok { q with rest := a :: rest }

/-- What a run begins with. -/
def Store.start (environment : Environment) (q : Request) (arguments : List String) : Store :=
  let environmentTable := environment.foldl (fun (t : Table Value) (name, v) =>
    t.insert (.text name) (.input v)) .empty
  let argumentTable := arguments.zipIdx.foldl (fun (t : Table Value) (a, i) =>
    t.insert (.number (Int.ofNat i)) (.input a)) .empty
  let usual : List (String × Value) :=
    [("FS", .text (q.divider.getD " ")), ("OFS", .text " "), ("ORS", .text "\n"),
      ("RS", .text "\n"), ("SUBSEP", .text "\x1c"), ("CONVFMT", .text Value.usualForm),
      ("OFMT", .text Value.usualForm), ("NR", .ofNat 0), ("FNR", .ofNat 0),
      ("RSTART", .ofNat 0), ("RLENGTH", .number (-1)), ("ARGC", .ofNat arguments.length)]
  let given := q.assignments.map fun (name, v) => (name, Value.input v)
  let cells : Std.HashMap String Cell :=
    (usual ++ given).foldl (fun m (name, v) => m.insert name (.value v)) ∅
  { globals := (cells.insert "ENVIRON" (.array 0)).insert "ARGV" (.array 1)
    locals := []
    arrays := ((∅ : Std.HashMap Nat (Table Value)).insert 0 environmentTable).insert 1 argumentTable
    nextArray := 2
    record := ""
    fields := none
    main := none
    hasOpened := false
    argument := 1
    inputs := []
    outputs := []
    nextDescriptor := 64
    waiting := []
    waitingSize := 0
    begun := []
    seed := 1
    oldSeed := .ofNat 0
    status := 0
    expressions := ∅ }

/-- What is said where no program is given. -/
def usage : List String :=
  ["Usage: mawk [Options] [Program] [file ...]",
    "",
    "Program:",
    "    The -f option value is the name of a file containing program text.",
    "    If no -f option is given, a \"--\" ends option processing; the following",
    "    parameters are the program text.",
    "",
    "Options:",
    "    -f program-file  Program  text is read from file instead of from the",
    "                     command-line.  Multiple -f options are accepted.",
    "    -F value         sets the field separator, FS, to value.",
    "    -v var=value     assigns value to program variable var.",
    "    --               unambiguous end of options.",
    "",
    "    Implementation-specific options are prefixed with \"-W\".  They can be",
    "    abbreviated:",
    "",
    "    -W version       show version information and exit.",
    "    -W dump          show assembler-like listing of program and exit.",
    "    -W help          show this message and exit.",
    "    -W interactive   set unbuffered output, line-buffered input.",
    "    -W exec file     use file as program as well as last option.",
    "    -W random=number set initial random seed.",
    "    -W sprintf=number adjust size of sprintf buffer.",
    "    -W posix_space   do not consider \"\\n\" a space.",
    "    -W usage         show this message and exit."]

/-- The text of the program: that of its files, or the first argument. -/
def programText (q : Request) : Proc (Except String (String × List String)) := do
  match q.programFiles, q.rest with
  | [], [] => return .error ""
  | [], text :: rest => return .ok (text, rest)
  | files, rest =>
    let texts ← files.mapM fun name => do
      match ← textOf name with
      | .ok text => return .ok text
      | .error r => return Except.error s!"cannot open {name} ({r.reason})"
    return (texts.mapM fun t => t).map fun texts => (String.join texts, rest)

end LinkBench.Host.Utility.Awk

namespace LinkBench.Host.Utility

def awk (arguments : List String) (environment : Environment) : Proc Nat := do
  let command := lastName (arguments.headD "")
  match Awk.readOptions (arguments.length + 1) ⟨none, [], [], []⟩ arguments.tail with
  | .error message => failWith command message 2
  | .ok q =>
    match ← Awk.programText q with
    | .error "" =>
      Proc.printError (String.join (Awk.usage.map (· ++ "\n")))
      return 0
    | .error message => failWith command message 2
    | .ok (text, rest) =>
      match Awk.Program.read text with
      | .error faults =>
        for f in faults do
          complain command f.shown
        return 2
      | .ok program =>
        let c : Awk.Settings := ⟨command, program, environment⟩
        let (result, _) ← (Awk.Run.all c).run (.start environment q (command :: rest))
        match result with
        | .ok status => return status
        | .error _ => return 2

end LinkBench.Host.Utility
