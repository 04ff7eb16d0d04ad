import LinkBench.Host.Regex.Reader
import LinkBench.Host.Shell.Pattern
import LinkBench.Host.Utility.Show
import LinkBench.Host.Utility.Tree
/-!
Searching texts for lines. A line is meant if one of the patterns matches in it; what is shown of it, and
of the lines around it, is up to the options.
-/

namespace LinkBench.Host.Utility

open Options

namespace Grep

/-- What is sought, and how. -/
structure Style where
  patterns : List Regex
  ignoresCase : Bool
  isNegated : Bool
  wholeWords : Bool
  wholeLines : Bool
  limit : Option Nat
  before : Nat
  after : Nat
  hasContext : Bool
  numbers : Bool
  offsets : Bool
  onlyMatches : Bool
  isText : Bool
  counts : Bool
  listsMatching : Bool
  listsOthers : Bool
  isQuiet : Bool
  isSilent : Bool
  showsNames : Bool
  nameEnding : String

/-- The expression of a text that stands for itself. -/
def literal (text : String) : Regex :=
  text.toList.foldr (fun c r => .sequence (.char c) r) .empty

/-! ### Matching -/

/-- The ends of matches of the patterns from a place. -/
def Style.ends (s : Style) (subject : Regex.Subject) (i : Nat) : List Nat :=
  s.patterns.flatMap fun r =>
    if r.hasReference then ((r.matchAt? subject i).map (·.stop)).toList else r.ends subject i

/-- Whether a part of a line may be a match. -/
def Style.admitsPart (s : Style) (subject : Regex.Subject) (i j : Nat) : Bool :=
  (!s.wholeLines || (i == 0 && j == subject.text.size)) &&
    (!s.wholeWords || (!subject.isWordBefore i && !subject.isWordAt j))

/-- The first and longest match from a place on. -/
def Style.find? (s : Style) (subject : Regex.Subject) : Nat → Nat → Option (Nat × Nat)
  | 0, _ => none
  | count + 1, i =>
    match ((s.ends subject i).filter fun j => s.admitsPart subject i j).max? with
    | some j => some (i, j)
    | none => s.find? subject count (i + 1)

def subjectOf (s : Style) (line : String) : Regex.Subject :=
  ⟨line.toList.toArray, s.ignoresCase, false⟩

def Style.holds (s : Style) (line : String) : Bool :=
  let subject := subjectOf s line
  (s.find? subject (subject.text.size + 1) 0).isSome != s.isNegated

/-- The matches in a line that are not empty. The fuel bounds their number. -/
def Style.matches (s : Style) (subject : Regex.Subject) : Nat → Nat → List (Nat × Nat)
  | 0, _ => []
  | fuel + 1, i =>
    match s.find? subject (subject.text.size + 1 - i) i with
    | some (a, b) =>
      if a = b then s.matches subject fuel (a + 1) else (a, b) :: s.matches subject fuel b
    | none => []

/-! ### One text -/

structure Line where
  number : Nat
  offset : Nat
  text : String
  isMeant : Bool

/-- The lines of a text; behind the last one that is wanted, no line is meant any more. -/
def Style.lines (s : Style) (texts : List String) : List Line :=
  let step (state : List Line × Nat × Nat × Nat) (text : String) : List Line × Nat × Nat × Nat :=
    let (done, number, offset, found) := state
    let isMeant := s.limit.all (fun limit => decide (found < limit)) && s.holds text
    (⟨number, offset, text, isMeant⟩ :: done, number + 1, offset + text.length + 1,
      if isMeant then found + 1 else found)
  (texts.foldl step ([], 1, 0, 0)).1.reverse

/-- What stands in front of a line. -/
def Style.label (s : Style) (name : String) (l : Line) (offset : Nat) (sign : String) : String :=
  (if s.showsNames then
    (if s.nameEnding = "" then name ++ sign else name ++ s.nameEnding) else "") ++
    (if s.numbers then toString l.number ++ sign else "") ++
    (if s.offsets then toString offset ++ sign else "")

/-- What is shown of a line that is meant. -/
def Style.shownLine (s : Style) (name : String) (l : Line) : String :=
  if s.onlyMatches then
    if s.isNegated then ""
    else
      let subject := subjectOf s l.text
      let found := s.matches subject (l.text.length + 1) 0
      String.join (found.map fun (a, b) =>
        s.label name l (l.offset + a) ":" ++
          String.ofList ((l.text.toList.take b).drop a) ++ "\n")
  else
    s.label name l l.offset ":" ++ l.text ++ "\n"

/-- Whether a line stands near one that is meant. -/
def Style.isNear (s : Style) (meant : List Nat) (number : Nat) : Bool :=
  meant.any fun m => decide (m ≤ number + s.before ∧ number ≤ m + s.after)

/-- Shows the lines that are meant and those near them; `last` is the number of the last line shown. -/
def Style.shownLines (s : Style) (name : String) (meant : List Nat) :
    Option Nat → Bool → List Line → List String × Bool
  | _, hasShown, [] => ([], hasShown)
  | last, hasShown, l :: rest =>
    if s.isNear meant l.number then
      let isApart := match last with
        | some n => decide (n + 1 < l.number)
        | none => hasShown
      let separator := if s.hasContext && isApart then ["--\n"] else []
      let shown := if l.isMeant then s.shownLine name l
        else if s.onlyMatches then ""
        else s.label name l l.offset "-" ++ l.text ++ "\n"
      let (others, hasShown) := s.shownLines name meant (some l.number) true rest
      (separator ++ shown :: others, hasShown)
    else
      s.shownLines name meant last hasShown rest

/-- What is printed for a text, whether it has lines that are meant, and whether any lines have been
shown so far. -/
def Style.result (s : Style) (name text : String) (hasShown : Bool) : String × Bool × Bool :=
  let isBinary := text.contains '\x00' && !s.isText
  let text := if isBinary then text.map fun c => if c = '\x00' then '\n' else c else text
  let lines := s.lines (splitLines text).1
  let meant := lines.filter (·.isMeant)
  let isFound := !meant.isEmpty
  let label := if s.showsNames then
      name ++ (if s.nameEnding = "" then ":" else s.nameEnding) else ""
  let lineEnd := if s.nameEnding = "" then "\n" else s.nameEnding
  if s.isQuiet then ("", isFound, hasShown)
  else if s.listsMatching then (if isFound then name ++ lineEnd else "", isFound, hasShown)
  else if s.listsOthers then (if isFound then "" else name ++ lineEnd, !isFound, hasShown)
  else if s.counts then (s!"{label}{meant.length}\n", isFound, hasShown)
  else if isBinary then
    (if isFound then s!"grep: {name}: binary file matches\n" else "", isFound, hasShown)
  else
    let (shown, hasShown) := s.shownLines name (meant.map (·.number)) none hasShown lines
    (String.join shown, isFound, hasShown)

/-! ### Files -/

/-- A file to search: how it is shown, and its path. -/
structure Source where
  shown : String
  name : String

/-- The files below a directory, each with its path. -/
def filesBelow (w : View) (name : String) : List Source :=
  match w.files.resolve w.cwd (Proc.pathOf name) with
  | .error _ => []
  | .ok place =>
    (deepEntries w.files place.base).filterMap fun (l, e) =>
      if e.isRegular then
        let below := String.intercalate "/" ((l.drop place.base.length).map fun n =>
          ByteText.encode n.text)
        let path := if name.endsWith "/" then name ++ below else s!"{name}/{below}"
        some ⟨path, path⟩
      else none

/-- Whether the options leave a file out that was found below a directory. -/
def isLeftOut (given : Given) (path : String) : Bool :=
  let last := String.ofList ((splitAtEach '/' path.toList).getLast?.getD [])
  let fits (glob : String) : Bool := (Shell.Pattern.ofText glob).matchesAll last.toList
  let included := given.all "include"
  (!included.isEmpty && !included.any fits) || (given.all "exclude").any fits ||
    (splitAtEach '/' path.toList).dropLast.any fun dir =>
      (given.all "exclude-dir").any fun glob => (Shell.Pattern.ofText glob).matchesAll dir

/-- The files that operands stand for. -/
def sources (given : Given) (operands : List String) : Proc (List Source) := do
  let isDeep := given.has "r" || given.has "R"
  let w ← Proc.view
  if isDeep then
    if operands.isEmpty then
      return ((filesBelow w ".").filter fun s => !isLeftOut given s.name).map fun s =>
        { s with shown := (s.shown.drop 2).toString }
    else
      return operands.flatMap fun name =>
        if w.files.isDirectory w.cwd (Proc.pathOf name) then
          (filesBelow w name).filter fun s => !isLeftOut given s.name
        else [⟨name, name⟩]
  else
    return (inputNames operands).map fun name =>
      ⟨if name = "-" then "(standard input)" else name, name⟩

/-- What has come of the search. -/
structure Progress where
  isFound : Bool
  hasFailed : Bool
  hasShown : Bool

/-- Searches one file after the other; a quiet search ends with the first match. -/
def search (command : String) (given : Given) (s : Style) :
    Progress → List Source → Proc Progress
  | p, [] => return p
  | p, source :: rest => do
    if s.isQuiet && p.isFound then
      return p
    let failed (reason : String) : Proc Progress := do
      if !s.isSilent then
        complain command s!"{source.shown}: {reason}"
      search command given s { p with hasFailed := true } rest
    if given.last? "d" = some "skip" then
      let w ← Proc.view
      if w.files.isDirectory w.cwd (Proc.pathOf source.name) then
        return ← search command given s p rest
    match ← textOf source.name with
    | .error r => failed r.reason
    | .ok text =>
      let (shown, isFound, hasShown) := s.result source.shown text p.hasShown
      Proc.print shown
      search command given s { p with isFound := p.isFound || isFound, hasShown } rest

/-! ### Options -/

def flags : List Flag :=
  [flag "E" "extended-regexp", flag "F" "fixed-strings", flag "G" "basic-regexp",
    flag "P" "perl-regexp", valued "e" "regexp", valued "f" "file", flag "i" "ignore-case",
    flag "y" "", flag "no-i" "no-ignore-case", flag "w" "word-regexp", flag "x" "line-regexp",
    flag "z" "null-data", flag "s" "no-messages", flag "v" "invert-match", valued "m" "max-count",
    flag "b" "byte-offset", flag "n" "line-number", flag "lb" "line-buffered",
    flag "H" "with-filename", flag "h" "no-filename", valued "label" "label",
    flag "o" "only-matching", flag "q" "quiet", flag "q" "silent",
    valued "binary-files" "binary-files", flag "a" "text", flag "I" "", valued "d" "directories",
    valued "D" "devices", flag "r" "recursive", flag "R" "dereference-recursive",
    valued "include" "include", valued "exclude" "exclude", valued "exclude-from" "exclude-from",
    valued "exclude-dir" "exclude-dir", flag "L" "files-without-match",
    flag "l" "files-with-matches", flag "c" "count", flag "T" "initial-tab", flag "Z" "null",
    valued "B" "before-context", valued "A" "after-context", valued "C" "context",
    optional "color" "color", optional "color" "colour", flag "U" "binary", flag "u" ""]

/-- Options that give the context as a number. -/
def withOldContext (arguments : List String) : List String :=
  arguments.take 1 ++ (arguments.drop 1).flatMap fun a =>
    match a.toList with
    | '-' :: d :: ds =>
      if (d :: ds).all (·.isDigit) then ["-C", String.ofList (d :: ds)] else [a]
    | _ => [a]

def usage : String := "Usage: grep [OPTION]... PATTERNS [FILE]...\n"

def refuse (command : String) : Proc Nat := do
  Proc.printError usage
  suggestHelp command
  return 2

/-- Reads the patterns of lines of text. -/
def readPatterns (given : Given) (texts : List String) : Except String (List Regex) :=
  let kind := (given.lastOf? ["E", "F", "G", "P"]).getD "G"
  (texts.flatMap fun text => (splitAtEach '\n' text.toList).map String.ofList).mapM fun text =>
    if kind = "F" then .ok (literal text)
    else
      match Regex.read ⟨kind != "G", false⟩ text with
      | .ok (r, _) => .ok r
      | .error f => .error f.message

/-- The length of a context. -/
def context (given : Given) (key : String) : Except String Nat :=
  match given.lastOf? [key, "C"] with
  | none => .ok 0
  | some key =>
    let text := (given.last? key).getD ""
    match text.toNat? with
    | some n => .ok n
    | none => .error s!"{text}: invalid context length argument"

/-- The style that options ask for. -/
def style (given : Given) (patterns : List String) (hasNames : Bool) : Except String Style := do
  let before ← context given "B"
  let after ← context given "A"
  let limit ← match given.last? "m" with
    | none => pure none
    | some text =>
      match text.toInt? with
      | some n => pure (if n < 0 then none else some n.toNat)
      | none => throw "invalid max count"
  return {
    patterns := ← readPatterns given patterns
    ignoresCase := given.has "i" || given.has "y"
    isNegated := given.has "v"
    wholeWords := given.has "w"
    wholeLines := given.has "x"
    limit
    before
    after
    hasContext := given.has "A" || given.has "B" || given.has "C"
    numbers := given.has "n"
    offsets := given.has "b"
    onlyMatches := given.has "o"
    isText := given.has "a" || given.last? "binary-files" == some "text"
    counts := given.has "c"
    listsMatching := given.has "l"
    listsOthers := given.has "L"
    isQuiet := given.has "q"
    isSilent := given.has "s"
    showsNames := hasNames
    nameEnding := if given.has "Z" then "\x00" else "" }

end Grep

def grep (arguments : List String) : Proc Nat := do
  let command := arguments.headD ""
  match Options.read Grep.flags true (Grep.withOldContext arguments).tail with
  | .error f =>
    complain command f.message
    Grep.refuse command
  | .ok (given, operands) =>
    let fromFiles : List (Except String (List String)) ← (given.all "f").mapM fun name => do
      match ← textOf name with
      | .ok text => return .ok (splitLines text).1
      | .error r => return .error s!"{name}: {r.reason}"
    match fromFiles.mapM id with
    | .error text => failWith command text 2
    | .ok listed =>
      let hasOption := given.has "e" || given.has "f"
      if !hasOption && operands.isEmpty then
        Grep.refuse command
      else
        let patterns := if hasOption then given.all "e" ++ listed.flatten else operands.take 1
        let operands := if hasOption then operands else operands.drop 1
        let isDeep := given.has "r" || given.has "R"
        let hasNames := match given.lastOf? ["H", "h"] with
          | some "H" => true
          | some _ => false
          | none => isDeep || decide (1 < operands.length)
        match Grep.style given patterns hasNames with
        | .error text => failWith command text 2
        | .ok style =>
          if style.limit = some 0 then
            return 1
          let p ← Grep.search command given style ⟨false, false, false⟩
            (← Grep.sources given operands)
          return if p.hasFailed && !(style.isQuiet && p.isFound) then 2
            else if p.isFound then 0 else 1

/-- Searches for lines that match extended patterns. -/
def egrep (arguments : List String) : Proc Nat := grep ("grep" :: "-E" :: arguments.tail)

/-- Searches in all files of directories. -/
def rgrep (arguments : List String) : Proc Nat := grep ("grep" :: "-r" :: arguments.tail)

/-- Searches for lines that hold a text. -/
def fgrep (arguments : List String) : Proc Nat := grep ("grep" :: "-F" :: arguments.tail)

end LinkBench.Host.Utility
