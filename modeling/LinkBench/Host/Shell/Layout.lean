import LinkBench.Host.Shell.Command
import LinkBench.Host.Shell.Quoted
/-!
Commands as they are shown. Inside of a function each command stands on a line of its own; elsewhere
all of it stands on one line as far as possible. Words are shown as they were read. The texts of inline
documents come behind the line that asks for them.
-/

namespace LinkBench.Host.Shell.Layout

/-- How commands are shown. -/
structure Style where
  /-- Whether commands stand on lines of their own. -/
  isSpread : Bool
  documents : List (Nat × Written)

/-- A text that ends a command: a semicolon, unless something else ends it already. -/
def closed (text : String) : String :=
  if text.endsWith "&" || text.endsWith "\n" then text else text ++ ";"

def blanks (depth : Nat) : String := String.ofList (List.replicate depth ' ')

/-- How much deeper the lines of a body stand. -/
def step : Nat := 4

/-! ### Redirections -/

/-- A descriptor in front of an arrow that leads from or to another one by itself. -/
def shownDescriptor (own : Option Nat) : Descriptor → String
  | .number n => if own = some n then "" else toString n
  | .variable name => "\x7b" ++ name ++ "\x7d"

def shownRedirect : Redirect → String
  | .document d _ delimiter strips =>
    let quoted := delimiter.contains '\'' || delimiter.contains '"' || delimiter.contains '\\'
    let bare := String.ofList (delimiter.toList.filter fun c => !"'\"\\".toList.contains c)
    shownDescriptor (some 0) d ++ (if strips then "<<-" else "<<") ++
      if quoted then Quoted.single bare else bare
  | .word d w => shownDescriptor (some 0) d ++ "<<< " ++ w.1
  | .file d kind w =>
    match kind with
    | .read => shownDescriptor (some 0) d ++ "< " ++ w.1
    | .write => shownDescriptor (some 1) d ++ "> " ++ w.1
    | .overwrite => shownDescriptor (some 1) d ++ ">| " ++ w.1
    | .append => shownDescriptor (some 1) d ++ ">> " ++ w.1
    | .readWrite => shownDescriptor (some 1) d ++ "<> " ++ w.1
    | .duplicate isWriter =>
      let isNumber := w.1.toList.all fun c => c.isDigit || c == '-'
      let arrow := if isWriter || w.1 = "-" then ">&" else "<&"
      let own := if isNumber then none else some (if isWriter then 1 else 0)
      shownDescriptor own d ++ arrow ++ w.1
    | .writeBoth => "&> " ++ w.1
    | .appendBoth => "&>> " ++ w.1

/-- The documents that redirections ask for, each behind a line end. -/
def documentsOf (style : Style) (rs : List Redirect) : String :=
  let texts := rs.filterMap fun r =>
    match r with
    | .document _ number delimiter _ =>
      let bare := String.ofList (delimiter.toList.filter fun c => !"'\"\\".toList.contains c)
      some (((style.documents.lookup number).map (·.1)).getD "" ++ bare ++ "\n")
    | _ => none
  if texts.isEmpty then "" else "\n" ++ String.join texts

def shownRedirects (rs : List Redirect) : String :=
  String.intercalate " " (rs.map shownRedirect)

/-! ### Conditions -/

def shownCondition : Condition → String
  | .word w => "-n " ++ w.1
  | .unary operator w => operator ++ " " ++ w.1
  | .binary operator a b => s!"{a.1} {operator} {b.1}"
  | .negation c => "! " ++ shownCondition c
  | .both a b => shownCondition a ++ " && " ++ shownCondition b
  | .either a b => shownCondition a ++ " || " ++ shownCondition b
  | .group c => "( " ++ shownCondition c ++ " )"

/-! ### Commands -/

def shownWords (ws : List Written) : String := String.intercalate " " (ws.map (·.1))

/-- What is repeated for each of some words; without any it is the positional parameters. -/
def shownHead (keyword name : String) (words : Option (List Written)) : String :=
  s!"{keyword} {name} in " ++ shownWords (words.getD [("\"$@\"", [])])

def shownChoice (subject : Written) : String := s!"case {subject.1} in "

def shownExpression (text : String) : String := s!"(( {text} ))"

def shownEnd : ArmEnd → String
  | .leave => ";;"
  | .fallThrough => ";&"
  | .tryNext => ";;&"

mutual

/-- A command from a depth on, without the blanks in front of its first line, and the documents that
are still to come. The fuel bounds how deep commands are nested. -/
def lay (style : Style) : Nat → Nat → Command → String × String
  | 0, _, _ => ("", "")
  | fuel + 1, depth, c =>
    let whole (c : Command) : String := let (text, documents) := lay style fuel depth c; text ++ documents
    let body (c : Command) : String :=
      let (text, documents) := lay style fuel (depth + step) c
      blanks (depth + step) ++ text ++ documents
    let line (text : String) : String := "\n" ++ blanks depth ++ text
    let connected (first second : Command) (sign : String) : String × String :=
      let (text, documents) := lay style fuel depth first
      let (next, waiting) := lay style fuel depth second
      (text ++ sign ++ (if documents = "" then "" else documents ++ " ") ++ next, waiting)
    match c with
    | .skip => ("", "")
    | .simple _ assignments words redirects =>
      let shown := assignments.map (·.1) ++ words.map (·.1) ++ redirects.map shownRedirect
      (String.intercalate " " shown, documentsOf style redirects)
    | .pipeline stages => layStages style fuel depth stages
    | .negate c => let (text, documents) := lay style fuel depth c; ("! " ++ text, documents)
    | .timed isPlain c =>
      let (text, documents) := lay style fuel depth c
      ("time " ++ (if isPlain then "-p " else "") ++ text, documents)
    | .both first second => connected first second " && "
    | .either first second => connected first second " || "
    | .sequence (.background first) second => connected first second " & "
    | .sequence first second =>
      let (text, documents) := lay style fuel depth first
      let text := if documents = "" then text ++ ";" else text ++ documents
      let between := if style.isSpread then "\n" ++ blanks depth else " "
      let (next, waiting) := lay style fuel depth second
      (text ++ between ++ next, waiting)
    | .background c => let (text, documents) := lay style fuel depth c; (text ++ " &", documents)
    | .subshell _ c redirects =>
      ("( " ++ whole c ++ " )" ++ behind redirects, documentsOf style redirects)
    | .group c =>
      if style.isSpread then ("\x7b \n" ++ body c ++ line "\x7d", "")
      else ("\x7b " ++ closed (whole c) ++ " \x7d", "")
    | .conditional test yes no =>
      let start := "if " ++ closed (whole test) ++ " then\n" ++ closed (body yes)
      let other := match no with
        | some no => line "else\n" ++ closed (body no)
        | none => ""
      (start ++ other ++ line "fi", "")
    | .loop untilSuccess test c =>
      let keyword := if untilSuccess then "until " else "while "
      (keyword ++ closed (whole test) ++ " do\n" ++ closed (body c) ++ line "done", "")
    | .each _ name words c =>
      (shownHead "for" name words ++ ";" ++ line "do\n" ++ closed (body c) ++ line "done", "")
    | .pick _ name words c =>
      (shownHead "select" name words ++ ";" ++ line "do\n" ++ closed (body c) ++ line "done", "")
    | .count _ start test next c =>
      let part (w : Written) : String := if w.1.isEmpty then "1" else w.1
      (s!"for (({part start}; {part test}; {part next}))" ++ line "do\n" ++ closed (body c) ++
        line "done", "")
    | .choose _ subject arms =>
      (shownChoice subject ++ layArms style fuel (depth + step) arms ++ line "esac", "")
    | .define name c => ("function " ++ name ++ " () " ++ layFunction style fuel depth c, "")
    | .redirected _ c redirects =>
      (whole c ++ behind redirects, documentsOf style redirects)
    | .compute _ expression => (shownExpression expression.1, "")
    | .check _ c => ("[[ " ++ shownCondition c ++ " ]]", "")
    | .partner _ name c =>
      let (text, documents) := lay style fuel depth c
      (s!"coproc {name} " ++ text, documents)
where
  /-- Redirections behind a command. -/
  behind (redirects : List Redirect) : String :=
    if redirects.isEmpty then "" else " " ++ shownRedirects redirects

def layStages (style : Style) : Nat → Nat → List Command → String × String
  | 0, _, _ | _, _, [] => ("", "")
  | fuel + 1, depth, c :: rest =>
    let (text, documents) := lay style fuel depth c
    if rest.isEmpty then (text, documents)
    else
      let (next, waiting) := layStages style fuel depth rest
      (text ++ " |" ++ documents ++ " " ++ next, waiting)

def layArms (style : Style) :
    Nat → Nat → List (List Written × Command × ArmEnd) → String
  | 0, _, _ | _, _, [] => ""
  | fuel + 1, depth, (patterns, c, ending) :: rest =>
    let start := "\n" ++ blanks depth
    let (text, documents) := lay style fuel (depth + step) c
    start ++ String.intercalate " | " (patterns.map (·.1)) ++ ")\n" ++ blanks (depth + step) ++ text ++
      documents ++ start ++ shownEnd ending ++ layArms style fuel depth rest

/-- The body of a function between braces, with the redirections of the function behind it. -/
def layFunction (style : Style) : Nat → Nat → Command → String
  | 0, _, _ => ""
  | fuel + 1, depth, c =>
    let (inner, redirects) := match c with
      | .redirected _ (.group c) redirects => (c, redirects)
      | .group c => (c, [])
      | c => (c, [])
    let (text, documents) := lay { style with isSpread := true } fuel (depth + step) inner
    let ending := if redirects.isEmpty then "" else " " ++ shownRedirects redirects
    "\n" ++ blanks depth ++ "\x7b \n" ++ blanks (depth + step) ++ text ++ documents ++ "\n" ++
      blanks depth ++ "\x7d" ++ ending

end

/-- More than the depth of any command. -/
def depthLimit : Nat := 1000

/-- A command on one line, as far as possible. -/
def shownCommand (documents : List (Nat × Written)) (c : Command) : String :=
  let (text, rest) := lay ⟨false, documents⟩ depthLimit 0 c
  text ++ rest

/-- A function with its name. -/
def shownFunction (documents : List (Nat × Written)) (name : String) (body : Command) : String :=
  name ++ " () " ++ layFunction ⟨true, documents⟩ depthLimit 0 body

end LinkBench.Host.Shell.Layout
