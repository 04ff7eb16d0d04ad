import LinkBench.Host.Regex.Reader
import LinkBench.Host.Shell.Pattern
import LinkBench.Host.Utility.Bytewise
import LinkBench.Host.Utility.Options
import LinkBench.Host.Utility.LineForms
import LinkBench.Host.Utility.Tree
/-!
Comparing files line by line, and directories file by file.
-/

namespace LinkBench.Host.Utility

open Options

/-- What is asked for besides the form of differences. -/
structure DiffTask where
  style : DiffStyle
  saysOnlyWhether : Bool
  saysIfSame : Bool
  isRecursive : Bool
  /-- Whether a file that is missing counts as empty: in the first place, and in the second. -/
  addsLeft : Bool
  addsRight : Bool
  treatsAsText : Bool
  stripsReturns : Bool
  excluded : List String
  firstName : Option String
  /-- The options as they were given. -/
  options : String
  isMinimal : Bool
  forms : LineForms

namespace DiffTask

/-! ### Options -/

def flags : List Flag :=
  ((List.range 10).map fun n => flag (toString n) "") ++
  [flag "a" "", flag "b" "", flag "B" "", flag "binary" "binary", flag "q" "brief",
    valued "group changed" "changed-group-format", optional "color" "color", flag "c" "",
    valued "C" "", optional "context" "context", flag "e" "ed", valued "x" "exclude",
    valued "X" "exclude-from", flag "t" "expand-tabs", flag "f" "forward-ed",
    valued "from-file" "from-file", flag "help" "help", valued "horizon" "horizon-lines",
    valued "D" "ifdef", flag "w" "ignore-all-space", flag "B" "ignore-blank-lines",
    flag "i" "ignore-case", flag "file-case" "ignore-file-name-case",
    valued "I" "ignore-matching-lines", flag "b" "ignore-space-change",
    flag "E" "ignore-tab-expansion", flag "Z" "ignore-trailing-space",
    flag "apart" "inhibit-hunk-merge", flag "T" "initial-tab", valued "L" "label",
    flag "left-column" "left-column", valued "line all" "line-format", flag "d" "minimal",
    flag "N" "new-file", valued "group new" "new-group-format", valued "line new" "new-line-format",
    flag "no-dereference" "no-dereference", flag "file-case" "no-ignore-file-name-case",
    flag "normal" "normal", valued "group old" "old-group-format", valued "line old" "old-line-format",
    flag "l" "paginate", valued "palette" "palette", flag "n" "rcs", flag "r" "recursive",
    flag "s" "report-identical-files", flag "p" "show-c-function", valued "F" "show-function-line",
    flag "y" "side-by-side", flag "H" "speed-large-files", valued "S" "starting-file",
    flag "strip" "strip-trailing-cr", flag "blank-empty" "suppress-blank-empty",
    flag "hide-common" "suppress-common-lines", valued "tabsize" "tabsize", flag "a" "text",
    valued "to-file" "to-file", valued "group unchanged" "unchanged-group-format",
    valued "line unchanged" "unchanged-line-format", flag "P" "unidirectional-new-file",
    flag "u" "", valued "U" "", optional "unified" "unified", flag "v" "version",
    valued "W" "width"]

/-- The kinds of lines and groups by the words of options. -/
def kinds : List (String × GroupKind) :=
  [("changed", .changed), ("new", .new), ("old", .old), ("unchanged", .unchanged)]

/-- What options have said so far about the form of differences. -/
structure Draft where
  task : DiffTask
  form : Option DiffForm
  /-- The number of lines around differences that was asked for by a bare number. -/
  bareContext : Option Nat
  hasContext : Bool
  /-- The width and the distance of tab stops that were asked for. -/
  width : Option Nat
  tabSize : Option Nat

/-- Why the arguments ask for nothing that can be done; with a hint at help or without. -/
inductive Fault
  | usage (text : String)
  | plain (text : String)

def start (options : String) : DiffTask where
  style :=
    { form := .plain, context := 0, comparison := ⟨false, .all, 8, true⟩, ignoresEmpty := false,
      ignored := [], landmarks := [], expandsTabs := false, startsWithTab := false, width := 130,
      hidesRightOfCommon := false, hidesCommon := false, hidesBlanksOfEmpty := false, labels := [] }
  saysOnlyWhether := false
  saysIfSame := false
  isRecursive := false
  addsLeft := false
  addsRight := false
  treatsAsText := false
  stripsReturns := false
  excluded := []
  firstName := none
  options := options
  isMinimal := false
  forms := .start

/-- A number of lines or columns. -/
def number (noun text : String) : Except Fault Nat :=
  let cs := text.toList
  if cs ≠ [] ∧ cs.all (·.isDigit) then .ok (Nat.ofDigitChars 10 cs 0)
  else .error (.usage s!"invalid {noun} '{text}'")

def positive (noun text : String) : Except Fault Nat := do
  match ← number noun text with
  | 0 => throw (.usage s!"invalid {noun} '{text}'")
  | n => return n

def expression (text : String) : Except Fault Regex :=
  match Regex.read ⟨false, false⟩ text with
  | .ok (r, _) => .ok r
  | .error .unmatchedBracket => .error (.plain s!"{text}: {Regex.Fault.invalidPattern.message}")
  | .error f => .error (.plain s!"{text}: {f.message}")

namespace Draft

def withForm (d : Draft) (f : DiffForm) : Except Fault Draft :=
  match d.form with
  | some other =>
    if other = f then .ok d else .error (.usage "conflicting output style options")
  | none => .ok { d with form := some f }

def withStyle (d : Draft) (change : DiffStyle → DiffStyle) : Draft :=
  { d with task := { d.task with style := change d.task.style } }

def withComparison (d : Draft) (change : DiffLine.Comparison → DiffLine.Comparison) : Draft :=
  d.withStyle fun s => { s with comparison := change s.comparison }

/-- How much of the blanks in lines is left out of the comparison. -/
def rank : DiffLine.Blanks → Nat
  | .all => 0
  | .expanded => 1
  | .beforeEnd => 2
  | .expandedBeforeEnd => 3
  | .places => 4
  | .none => 5

/-- The draft with fewer blanks compared. -/
def withBlanks (d : Draft) (b : DiffLine.Blanks) : Draft :=
  d.withComparison fun c =>
    let joined := match c.blanks, b with
      | .expanded, .beforeEnd | .beforeEnd, .expanded => .expandedBeforeEnd
      | old, new => if rank old < rank new then new else old
    { c with blanks := joined }

/-- The draft with so many lines around differences, or with more that were asked for already. -/
def withContext (d : Draft) (f : DiffForm) (value : String) : Except Fault Draft := do
  let d ← d.withForm f
  if value = "" then return d.withStyle fun s => { s with context := max s.context 3 }
  else
    let n ← number "context length" value
    return { d.withStyle (fun s => { s with context := max s.context n }) with hasContext := true }

/-- The draft with one more option; `isNext` says that a digit stands behind another one. -/
def adding (d : Draft) (isNext : Bool) (option : String × String) : Except Fault Draft := do
  let (key, value) := option
  let task := d.task
  match key with
  | "a" => return { d with task := { task with treatsAsText := true } }
  | "b" => return d.withBlanks .places
  | "B" => return d.withStyle fun s => { s with ignoresEmpty := true }
  | "q" => return { d with task := { task with saysOnlyWhether := true } }
  | "c" => d.withContext .context ""
  | "C" =>
    let _ ← number "context length" value
    d.withContext .context value
  | "context" => d.withContext .context value
  | "color" =>
    if value ∈ ["", "always", "never", "auto"] then return d
    else throw (.usage s!"invalid color '{value}'")
  | "d" => return { d with task := { task with isMinimal := true } }
  | "D" => return { (← d.withForm .custom) with task := { task with forms := .conditional value } }
  | "line all" =>
    let forms := { task.forms with line := fun _ => value }
    return { (← d.withForm .custom) with task := { task with forms := forms } }
  | "e" => d.withForm .script
  | "x" => return { d with task := { task with excluded := task.excluded ++ [value] } }
  | "t" => return d.withStyle fun s => { s with expandsTabs := true }
  | "f" => d.withForm .forwardScript
  | "horizon" =>
    let _ ← number "horizon length" value
    return d
  | "w" => return d.withBlanks .none
  | "i" => return d.withComparison fun c => { c with ignoresCase := true }
  | "I" =>
    let r ← expression value
    return d.withStyle fun s => { s with ignored := s.ignored ++ [r] }
  | "E" => return d.withBlanks .expanded
  | "Z" => return d.withBlanks .beforeEnd
  | "T" => return d.withStyle fun s => { s with startsWithTab := true }
  | "L" =>
    if task.style.labels.length = 2 then throw (.plain "too many file label options")
    return d.withStyle fun s => { s with labels := s.labels ++ [value] }
  | "left-column" => return d.withStyle fun s => { s with hidesRightOfCommon := true }
  | "N" => return { d with task := { task with addsLeft := true, addsRight := true } }
  | "P" => return { d with task := { task with addsLeft := true } }
  | "normal" => d.withForm .plain
  | "n" => d.withForm .counted
  | "r" => return { d with task := { task with isRecursive := true } }
  | "s" => return { d with task := { task with saysIfSame := true } }
  | "p" =>
    let r ← expression "^[[:alpha:]$_]"
    return d.withStyle fun s => { s with landmarks := s.landmarks ++ [r] }
  | "F" =>
    let r ← expression value
    return d.withStyle fun s => { s with landmarks := s.landmarks ++ [r] }
  | "y" => d.withForm .columns
  | "S" => return { d with task := { task with firstName := some value } }
  | "strip" => return { d with task := { task with stripsReturns := true } }
  | "blank-empty" => return d.withStyle fun s => { s with hidesBlanksOfEmpty := true }
  | "hide-common" => return d.withStyle fun s => { s with hidesCommon := true }
  | "tabsize" =>
    let n ← positive "tabsize" value
    if d.tabSize.any (· != n) then throw (.plain "conflicting tabsize options")
    return { d.withComparison (fun c => { c with tabSize := n }) with tabSize := some n }
  | "u" => d.withContext .unified ""
  | "U" =>
    let _ ← number "context length" value
    d.withContext .unified value
  | "unified" => d.withContext .unified value
  | "W" =>
    let n ← positive "width" value
    if d.width.any (· != n) then throw (.plain "conflicting width options")
    return { d.withStyle (fun s => { s with width := n }) with width := some n }
  | key =>
    match key.toNat?, (key.splitOn " ").map fun word => (word, kinds.lookup word) with
    | some n, _ =>
      let old := if isNext then d.bareContext.getD 0 else 0
      return { d with bareContext := some (10 * old + n) }
    | none, [("line", _), (_, some k)] =>
      return { (← d.withForm .custom) with task := { task with forms := task.forms.withLine k value } }
    | none, [("group", _), (_, some k)] =>
      return { (← d.withForm .custom) with task := { task with forms := task.forms.withGroup k value } }
    | none, _ => return d

/-- The draft with all options. -/
def addingAll (d : Draft) : Bool → Given → Except Fault Draft
  | _, [] => .ok d
  | isNext, (key, value) :: rest => do
    let d ← d.adding isNext (key, value)
    addingAll d key.isNat rest

/-- What the options ask for. -/
def finished (d : Draft) (given : Given) : DiffTask :=
  let isForFunctions := given.has "p" && d.form.isNone
  let form := d.form.getD (if isForFunctions then .context else .plain)
  let context := d.task.style.context
  let context := if isForFunctions && d.bareContext.isNone then 3 else context
  let context := match d.bareContext with
    | some n =>
      if (form = .context ∨ form = .unified) ∧ (context < n ∨ (n < context ∧ !d.hasContext)) then n
      else context
    | none => context
  let marksEnds := form ≠ .script ∧ form ≠ .forwardScript
  let style := { d.task.style with form := form, context := context }
  { d.task with
    style := { style with comparison := { style.comparison with marksEnds := marksEnds } } }

end Draft

def ofGiven (options : String) (given : Given) : Except Fault DiffTask := do
  let d ← (Draft.mk (start options) none none false none none).addingAll false given
  return d.finished given

/-! ### Texts -/

/-- The name that a text has in messages: the first or the second label, or its own. -/
def titleOf (t : DiffTask) (place : Nat) (name : String) : String :=
  (t.style.labels[place]?).getD name

/-- The lines above differences that name the texts. -/
def heading (t : DiffTask) (left right : String) : String :=
  let date := match t.style.form with
    | .context => "\tThu Jan  1 00:00:00 1970"
    | _ => "\t1970-01-01 00:00:00.000000000 +0000"
  let title (place : Nat) (name : String) : String :=
    (t.style.labels[place]?).getD (name ++ date)
  match t.style.form with
  | .unified => s!"--- {title 0 left}\n+++ {title 1 right}\n"
  | .context => s!"*** {title 0 left}\n--- {title 1 right}\n"
  | _ => ""

/-- Lines without the returns at their ends. -/
def withoutReturns (ls : List DiffLine) : List DiffLine :=
  ls.map fun l =>
    if l.isEnded ∧ l.text.endsWith "\r" then { l with text := (l.text.dropEnd 1).toString } else l

/-- Whether texts differ as soon as their bytes do. -/
def isExact (t : DiffTask) : Bool :=
  let c := t.style.comparison
  !c.ignoresCase && c.blanks == .all && !t.style.ignoresEmpty && t.style.ignored.isEmpty &&
    !t.stripsReturns

/-- Whether texts without differences are shown too. -/
def showsSame (t : DiffTask) : Bool :=
  match t.style.form with
  | .columns => !t.style.hidesCommon
  | .custom => t.forms.showsSame
  | _ => false

/-- Says how two texts differ; yields the status. The first line is written above differences. -/
def compareTexts (t : DiffTask) (command title left right a b : String) : Proc Nat := do
  let leftTitle := t.titleOf 0 left
  let rightTitle := t.titleOf 1 right
  if !t.treatsAsText && (a.contains '\x00' || b.contains '\x00') then
    if a = b then return 0
    else if t.saysOnlyWhether then emit command s!"Files {leftTitle} and {rightTitle} differ\n" 1
    else emit command s!"Binary files {leftTitle} and {rightTitle} differ\n" 2
  else
    let lines (text : String) : List DiffLine :=
      let ls := DiffLine.ofText text
      if t.stripsReturns then withoutReturns ls else ls
    let (as, bs) := (lines a, lines b)
    let d := Differences.between t.style.comparison t.isMinimal t.style.context as bs
    let isDifferent := if t.isExact && t.saysOnlyWhether then a != b
      else d.replacements.any (t.style.counts d)
    if t.saysOnlyWhether then
      if isDifferent then emit command s!"Files {leftTitle} and {rightTitle} differ\n" 1 else return 0
    else
      if isDifferent ∨ t.showsSame then
        let shown := if t.style.form = .custom then t.forms.shown t.style d else t.style.shown d
        Proc.print (title ++ t.heading left right ++ shown)
      let isOpen (ls : List DiffLine) : Bool :=
        !t.style.comparison.marksEnds && ls.getLast?.any (fun l => !l.isEnded)
      let openTitles := (if isOpen as then [leftTitle] else []) ++ if isOpen bs then [rightTitle] else []
      for name in openTitles do
        complain command s!"{name}: No newline at end of file\n"
      return if openTitles.isEmpty then (if isDifferent then 1 else 0) else 2

/-! ### Files -/

/-- What is compared: something that is there, or nothing. -/
structure Side where
  name : String
  entry : Option Entry

def Side.isDirectory (s : Side) : Bool := s.entry.any (·.isDirectory)

def under (dir name : String) : String :=
  if dir.endsWith "/" then dir ++ name else s!"{dir}/{name}"

/-- The text of a side. -/
def contentsOf (s : Side) : Proc (Except Proc.Refusal String) :=
  match s.entry with
  | none => return .ok ""
  | some _ => textOf s.name

/-- Compares two sides that are no directories. -/
def compareFiles (t : DiffTask) (command title : String) (left right : Side) : Proc Nat := do
  let a ← contentsOf left
  let b ← if left.name = "-" ∧ right.name = "-" then pure a else contentsOf right
  match a, b with
  | .ok a, .ok b =>
    let status ← t.compareTexts command title left.name right.name a b
    if status = 0 ∧ t.saysIfSame then
      emit command s!"Files {t.titleOf 0 left.name} and {t.titleOf 1 right.name} are identical\n" 0
    else return status
  | a, b =>
    for (s, result) in [(left, a), (right, b)] do
      if let .error r := result then
        complain command s!"{s.name}: {r.reason}"
    return 2

/-- A name, between quotes if it has blanks or what cannot be printed. -/
def shownName (name : String) : String :=
  let letters := [('\x07', 'a'), ('\x08', 'b'), ('\t', 't'), ('\n', 'n'), ('\x0b', 'v'), ('\x0c', 'f'),
    ('\r', 'r'), ('"', '"'), ('\\', '\\')]
  let one (c : Char) : List Char :=
    match letters.lookup c with
    | some letter => ['\\', letter]
    | none =>
      if c < ' ' then
        '\\' :: [c.toNat / 64, c.toNat / 8, c.toNat].map Quoting.octalDigit
      else [c]
  let cs := name.toList
  if cs.any fun c => c = ' ' ∨ one c ≠ [c] then String.ofList ('"' :: cs.flatMap one ++ ['"']) else name

/-- The names in a directory with what stands there. -/
def entriesOf (t : DiffTask) (s : Side) : Proc (List (String × Entry)) := do
  if s.entry.isNone then
    return []
  let w ← Proc.view
  let entries := (w.files.readDirectory w.cwd (Proc.pathOf s.name)).toOption.getD []
  let named := entries.map fun (n, e) => (ByteText.encode n.text, e)
  return named.filter fun (n, _) =>
    !t.excluded.any fun pattern => (Shell.Pattern.ofText pattern).matchesAll n.toList

/-- Compares two directories, one of which may be missing, the names in order. The fuel bounds the
depth. -/
def compareDirectories (t : DiffTask) (command : String) : Nat → Option String → Side → Side → Proc Nat
  | 0, _, _, _ => return 2
  | fuel + 1, firstName, left, right => do
    let as ← t.entriesOf left
    let bs ← t.entriesOf right
    let all := (as.map (·.1) ++ bs.map (·.1)).eraseDups.mergeSort fun a b => decide (a ≤ b)
    let names := match firstName with
      | some first => all.filter fun n => decide (first ≤ n)
      | none => all
    forEach names fun name => do
      let a : Side := ⟨under left.name name, as.lookup name⟩
      let b : Side := ⟨under right.name name, bs.lookup name⟩
      let leftTitle := t.titleOf 0 a.name
      let rightTitle := t.titleOf 1 b.name
      let title := s!"diff{t.options} {shownName leftTitle} {shownName rightTitle}\n"
      let subdirectories := s!"Common subdirectories: {a.name} and {b.name}\n"
      let only (dir : String) : Proc Nat := emit command s!"Only in {dir}: {name}\n" 1
      let isDeep := a.isDirectory || b.isDirectory
      match a.entry, b.entry with
      | none, none => return 0
      | none, some _ =>
        if !t.addsLeft then only right.name
        else if !isDeep then t.compareFiles command title a b
        else if t.isRecursive then compareDirectories t command fuel none a b
        else emit command subdirectories 0
      | some _, none =>
        if !t.addsRight then only left.name
        else if !isDeep then t.compareFiles command title a b
        else if t.isRecursive then compareDirectories t command fuel none a b
        else emit command subdirectories 0
      | some e, some other =>
        if e.isDirectory && other.isDirectory then
          if t.isRecursive then compareDirectories t command fuel none a b
          else emit command subdirectories 0
        else if isDeep then
          emit command
            s!"File {leftTitle} is a {kindOf e} while file {rightTitle} is a {kindOf other}\n" 1
        else t.compareFiles command title a b

/-- Compares what stands at two paths. A directory stands for the file in it that has the name of the
other one. -/
def compare (t : DiffTask) (command left right : String) : Proc Nat := do
  let w ← Proc.view
  let find (name : String) : Except IoError Entry :=
    if name = "-" then .ok (.device .null) else w.files.stat w.cwd (Proc.pathOf name)
  let complainAll (faults : List (String × IoError)) : Proc Nat := do
    for (name, e) in faults do
      complain command s!"{name}: {e.reason}"
    return 2
  let pair (a b : Side) : Proc Nat := do
    if a.isDirectory || b.isDirectory then t.compareDirectories command 1000 t.firstName a b
    else t.compareFiles command "" a b
  match find left, find right with
  | .error .notFound, .ok e =>
    if t.addsLeft then pair ⟨left, none⟩ ⟨right, some e⟩ else complainAll [(left, .notFound)]
  | .ok e, .error .notFound =>
    if t.addsRight then pair ⟨left, some e⟩ ⟨right, none⟩ else complainAll [(right, .notFound)]
  | .error e, .ok _ => complainAll [(left, e)]
  | .ok _, .error e => complainAll [(right, e)]
  | .error e, .error e' => complainAll [(left, e), (right, e')]
  | .ok a, .ok b =>
    let isSame := left ≠ "-" ∧ right ≠ "-" ∧
      (w.files.resolve w.cwd (Proc.pathOf left)).toOption =
        (w.files.resolve w.cwd (Proc.pathOf right)).toOption
    if a.isDirectory ≠ b.isDirectory then
      let (dir, file) := if a.isDirectory then (left, right) else (right, left)
      if file = "-" then failWith command "cannot compare '-' to a directory" 2
      else
        let inner := under dir (lastName file)
        match find inner with
        | .error e => complainAll [(inner, e)]
        | .ok e =>
          let found : Side := ⟨inner, some e⟩
          if a.isDirectory then
            if e.isDirectory then
              emit command s!"File {inner} is a {kindOf e} while file {right} is a {kindOf b}\n" 1
            else pair found ⟨right, some b⟩
          else if e.isDirectory then
            emit command s!"File {left} is a {kindOf a} while file {inner} is a {kindOf e}\n" 1
          else pair ⟨left, some a⟩ found
    else if isSame ∧ !t.showsSame then
      if t.saysIfSame ∧ a.isRegular then
        emit command s!"Files {t.titleOf 0 left} and {t.titleOf 1 right} are identical\n" 0
      else return 0
    else pair ⟨left, some a⟩ ⟨right, some b⟩

end DiffTask

/-- An argument as a shell would read it back. -/
def shownArgument (argument : String) : String := " " ++ Quoting.named argument

def diff : List String → Proc Nat := fun arguments => do
  let command := arguments.headD ""
  match Options.read DiffTask.flags true arguments.tail with
  | .error f => refuseComparison command f.message
  | .ok (given, operands) =>
    let options := operands.foldl List.erase arguments.tail
    match DiffTask.ofGiven (String.join (options.map shownArgument)) given with
    | .error (.usage text) => refuseComparison command text
    | .error (.plain text) => failWith command text 2
    | .ok t =>
      match given.last? "from-file", given.last? "to-file", operands with
      | some _, some _, _ => failWith command "--from-file and --to-file both specified" 2
      | some left, none, operands => forEach operands fun right => t.compare command left right
      | none, some right, operands => forEach operands fun left => t.compare command left right
      | none, none, [left, right] => t.compare command left right
      | none, none, _ :: _ :: extra :: _ => refuseComparison command s!"extra operand '{extra}'"
      | none, none, _ =>
        let last := match operands with
          | [only] => only
          | _ => arguments.getLast?.getD command
        refuseComparison command s!"missing operand after '{last}'"

end LinkBench.Host.Utility
