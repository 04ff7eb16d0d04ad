import LinkBench.Host.Shell.Pattern
import LinkBench.Host.Utility.ListForm
import LinkBench.Host.Utility.Tree
/-!
Listing files: those that are named, and what directories hold.
-/

namespace LinkBench.Host.Utility

open Options

/-! ### Words of options -/

def orderWords : Choices ListOrder :=
  [("none", .none), ("time", .time), ("size", .size), ("extension", .ending), ("version", .version),
    ("width", .width)]

def layoutWords : Choices ListLayout :=
  [("verbose", .long), ("long", .long), ("commas", .commas), ("horizontal", .across),
    ("across", .across), ("vertical", .columns), ("single-column", .single)]

/-- The moments of an entry that can be shown. Only the last change is known. -/
def momentWords : Choices Nat :=
  [("atime", 0), ("access", 0), ("use", 0), ("ctime", 1), ("status", 1), ("birth", 2), ("creation", 2)]

def markWords : Choices ListMark :=
  [("none", .none), ("slash", .slash), ("file-type", .fileType), ("classify", .all)]

def quotingWords : Choices ListQuoting :=
  [("literal", .literal), ("shell", .shell), ("shell-always", .shellAlways), ("shell-escape", .shell),
    ("shell-escape-always", .shellAlways), ("c", .double), ("c-maybe", .doubleIfNeeded),
    ("escape", .escape), ("locale", .print), ("clocale", .local)]

/-- When something is done: always, never, or on a terminal. -/
def whenWords : Choices (Option Bool) :=
  [("always", some true), ("yes", some true), ("force", some true), ("never", some false),
    ("no", some false), ("none", some false), ("auto", none), ("tty", none), ("if-tty", none)]

def timeWords : Choices TimeForm :=
  [("full-iso", .full), ("long-iso", .long), ("iso", .short), ("locale", .usual)]

/-! ### What is asked for -/

structure ListRequest where
  form : ListForm
  /-- Whether names that begin with a point are shown, and whether the two that every directory has. -/
  showsHidden : Bool
  showsDots : Bool
  /-- Patterns of names that are not shown. -/
  ignored : List String
  isRecursive : Bool
  namesDirectories : Bool

/-- A fault in the word of an option. -/
structure WordFault where
  message : String
  /-- Whether a hint how the program is used follows. -/
  hints : Bool

def word {α : Type} [DecidableEq α] (choices : Choices α) (option text : String) :
    Except WordFault α :=
  (choices.find text).mapError fun f => ⟨choices.complaint option text f, true⟩

/-- The layout that an option asks for, where others came before it. -/
def layoutAfter (current : Option ListLayout) (key value : String) :
    Except WordFault (Option ListLayout) :=
  match key with
  | "l" | "n" | "g" | "o" | "full-time" => .ok (some .long)
  | "C" => .ok (some .columns)
  | "x" => .ok (some .across)
  | "m" => .ok (some .commas)
  | "1" | "zero" => .ok (if current = some .long then current else some .single)
  | "f" => .ok (if current = some .long then none else current)
  | "format" => (word layoutWords "--format" value).map some
  | _ => .ok current

def orderAfter (current : Option ListOrder) (key value : String) :
    Except WordFault (Option ListOrder) :=
  match key with
  | "f" | "U" => .ok (some .none)
  | "S" => .ok (some .size)
  | "t" => .ok (some .time)
  | "v" => .ok (some .version)
  | "X" => .ok (some .ending)
  | "sort" => (word orderWords "--sort" value).map some
  | _ => .ok current

def markAfter (current : ListMark) (key value : String) : Except WordFault ListMark :=
  match key with
  | "F" =>
    if value = "" then .ok .all
    else (word whenWords "--classify" value).map fun choice =>
      if choice = some true then .all else current
  | "p" => .ok .slash
  | "file-type" => .ok .fileType
  | "indicator-style" => word markWords "--indicator-style" value
  | _ => .ok current

def quotingAfter (current : ListQuoting) (key value : String) : Except WordFault ListQuoting :=
  match key with
  | "b" => .ok .escape
  | "N" | "zero" => .ok .literal
  | "Q" => .ok .double
  | "quoting-style" => word quotingWords "--quoting-style" value
  | _ => .ok current

/-- What is said of a form of moments that is not known. -/
def timeFault (value : String) (f : Choices.Fault) : String :=
  let first := ((timeWords.complaint "time style" value f).splitOn "\n").headD ""
  let words := timeWords.map fun x => s!"\n  - [posix-]{x.1}"
  first ++ "\nValid arguments are:" ++ String.join words ++
    "\n  - +FORMAT (e.g., +%H:%M) for a 'date'-style format"

def timeAfter (current : TimeForm) (key value : String) : Except WordFault TimeForm :=
  match key with
  | "full-time" => .ok .full
  | "time-style" =>
    if value.startsWith "+" then .ok (.custom (value.drop 1).toString)
    else if value.startsWith "posix-" then .ok current
    else
      match timeWords.find value with
      | .ok form => .ok form
      | .error f => .error ⟨timeFault value f, true⟩
  | _ => .ok current

def sizesAfter (current : SizeForm) (key : String) : SizeForm :=
  match key with
  | "h" => .binary
  | "si" => .decimal
  | "k" => .plain
  | _ => current

/-- The number that an option asks for. -/
def numberAfter (option noun : String) (current : Nat) (key value : String) : Except WordFault Nat :=
  if key = option then
    match value.toNat? with
    | some n => .ok n
    | none => .error ⟨s!"invalid {noun}: {Quoting.quoted value}", false⟩
  else .ok current

def ListRequest.ofGiven (given : Given) (now : Int) : Except WordFault ListRequest := do
  let fold {α : Type} (start : α) (f : α → String → String → Except WordFault α) :
      Except WordFault α := given.foldlM (fun a (key, value) => f a key value) start
  let layout ← fold none layoutAfter
  let order ← fold none orderAfter
  let mark ← fold .none markAfter
  let quoting ← fold .literal quotingAfter
  let time ← fold .usual timeAfter
  let width ← fold 80 (numberAfter "w" "line width")
  let tab ← fold 8 (numberAfter "T" "tab size")
  let otherMoments ← fold false fun b key value =>
    match key with
    | "c" | "u" => .ok true
    | "time" => (word momentWords "--time" value).map fun _ => true
    | _ => .ok b
  -- without a terminal of a known kind there are no colours
  fold () fun _ key value =>
    if key = "color" ∧ value ≠ "" then (word whenWords "--color" value).map fun _ => ()
    else .ok ()
  let layout := layout.getD .single
  let order := match order with
    | some o => o
    | none => if otherMoments ∧ layout ≠ .long then .time else .name
  let showsBlocks ← fold false fun b key _ =>
    .ok (if key = "s" then true else if key = "f" then false else b)
  let hidden := given.lastOf? ["a", "A", "f"]
  let isBare := hidden.isNone
  return {
    form := {
      layout, order, mark, quoting, time, width, tab, now, showsBlocks
      isReversed := given.has "r"
      directoriesFirst := given.has "group-directories-first"
      hidesControls := (given.lastOf? ["q", "show-control-chars"]) == some "q"
      sizes := given.foldl (fun f (key, _) => sizesAfter f key) .plain
      showsOwner := !given.has "g"
      showsGroup := !(given.has "o" || given.has "G")
      showsAuthor := given.has "author"
      isNumeric := given.has "n"
      ending := if given.has "zero" then '\x00' else '\n' }
    showsHidden := !isBare
    showsDots := hidden == some "a" || hidden == some "f"
    ignored := given.all "I" ++ (if given.has "B" then ["*~", ".*~"] else []) ++
      (if isBare then given.all "hide" else [])
    isRecursive := given.has "R"
    namesDirectories := given.has "d" }

/-! ### Directories -/

namespace ListRequest

/-- Whether a name is to be shown. -/
def shows (q : ListRequest) (name : String) : Bool :=
  (q.showsHidden || !name.startsWith ".") &&
    !q.ignored.any fun pattern => (Shell.Pattern.ofText pattern).matchesAll name.toList

/-- The rows of a directory. -/
def rows (q : ListRequest) (w : View) (place : Place) : List ListRow :=
  let usual (e : Entry) : Facts := ⟨e, .usual, 2⟩
  let children := if place.isLive then w.files.children place.base else []
  let named := children.filterMap fun (name, e) =>
    let text := ByteText.encode name.text
    if q.shows text then
      some ⟨text, (Facts.at? w (place.base ++ [name])).getD (usual e)⟩
    else none
  let dots := if q.showsDots then
      [⟨".", (Facts.at? w place.base).getD (usual .directory)⟩,
        ⟨"..", (Facts.at? w place.parent.base).getD (usual .directory)⟩]
    else []
  q.form.arranged (dots ++ named)

/-- The lists of a directory and, if asked for, of those in it, each with its heading. The fuel bounds
the depth. -/
def lists (q : ListRequest) (w : View) : Nat → Place → String → List (String × String)
  | 0, _, _ => []
  | fuel + 1, place, name =>
    let rows := q.rows w place
    let inner := if !q.isRecursive then [] else
      rows.filter fun r => r.facts.entry.isDirectory && r.name != "." && r.name != ".."
    (name, q.form.shown true rows) :: inner.flatMap fun r =>
      match FileName.ofString? (ByteText.decode r.name) with
      | some below =>
        q.lists w fuel ⟨place.base ++ [below], []⟩
          (if name.endsWith "/" then name ++ r.name else s!"{name}/{r.name}")
      | none => []

end ListRequest

def lsFlags : List Flag :=
  [flag "a" "all", flag "b" "escape", flag "d" "directory", flag "dired" "dired",
    flag "full-time" "full-time", flag "group-directories-first" "group-directories-first",
    flag "h" "human-readable", flag "i" "inode", flag "k" "kibibytes", flag "n" "numeric-uid-gid",
    flag "G" "no-group", flag "q" "hide-control-chars", flag "r" "reverse", flag "s" "size",
    valued "w" "width", flag "A" "almost-all", flag "B" "ignore-backups", optional "F" "classify",
    flag "file-type" "file-type", flag "si" "si", flag "H" "dereference-command-line",
    flag "H" "dereference-command-line-symlink-to-dir", valued "hide" "hide", valued "I" "ignore",
    valued "indicator-style" "indicator-style", flag "L" "dereference", flag "N" "literal",
    flag "Q" "quote-name", valued "quoting-style" "quoting-style", flag "R" "recursive",
    valued "format" "format", flag "show-control-chars" "show-control-chars", valued "sort" "sort",
    valued "T" "tabsize", valued "time" "time", valued "time-style" "time-style", flag "zero" "zero",
    optional "color" "color", optional "hyperlink" "hyperlink", valued "block-size" "block-size",
    flag "Z" "context", flag "author" "author", flag "c" "", flag "C" "", flag "f" "", flag "g" "",
    flag "l" "", flag "m" "", flag "o" "", flag "p" "", flag "S" "", flag "t" "", flag "u" "",
    flag "U" "", flag "v" "", flag "x" "", flag "X" "", flag "1" "", flag "D" ""]

/-- Lists files in the way that is asked for, behind options that are always given. -/
def listFiles (always : Given) : List String → Proc Nat := fun arguments =>
  withOptions lsFlags true 2 arguments fun command given operands => do
    match ListRequest.ofGiven (always ++ given) (← Proc.presentTime) with
    | .error f =>
      if f.hints then refuseUse command f.message 2 else failWith command f.message 2
    | .ok q =>
      let w ← Proc.view
      let names := if operands.isEmpty then ["."] else operands
      let (found, status) ← names.foldlM (fun (found, status) name => do
        match Facts.ofPath w (Proc.pathOf name) with
        | .ok f => return (found ++ [ListRow.mk name f], status)
        | .error e =>
          complain command s!"cannot access {Quoting.always name}: {e.reason}"
          return (found, 2)) (([] : List ListRow), 0)
      let showsContents (r : ListRow) : Bool := r.facts.entry.isDirectory && !q.namesDirectories
      let plain := q.form.arranged (found.filter fun r => !showsContents r)
      let directories := q.form.arranged (found.filter showsContents)
      let lists := directories.flatMap fun r =>
        match w.files.resolve w.cwd (Proc.pathOf r.name) with
        | .ok place => q.lists w 200 place r.name
        | .error _ => []
      let hasHeadings := decide (1 < names.length) || q.isRecursive
      let blocks := lists.map fun (name, text) =>
        if hasHeadings then q.form.quoted name ++ ":\n" ++ text else text
      let blocks := if plain.isEmpty then blocks else q.form.shown false plain :: blocks
      let text := String.intercalate "\n" blocks
      emit command text status

def ls : List String → Proc Nat := listFiles []

/-- Lists files in columns. -/
def dir : List String → Proc Nat := listFiles [("C", ""), ("b", "")]

/-- Lists files with what is known of them. -/
def vdir : List String → Proc Nat := listFiles [("l", ""), ("b", "")]

end LinkBench.Host.Utility
