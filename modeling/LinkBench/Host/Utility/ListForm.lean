import LinkBench.Host.Calendar.Form
import LinkBench.Host.Utility.Options
import LinkBench.Host.Utility.Facts
import LinkBench.Host.Utility.Versions
/-!
How lists of files are shown: their order, what stands in a row, and how the rows are laid out in columns.
Columns are as many as fit into the width of a line; each is as wide as its widest row, and two blanks stand
between columns.
-/

namespace LinkBench.Host.Utility

inductive ListLayout
  | single
  | long
  | commas
  /-- Columns that are read downwards. -/
  | columns
  /-- Columns that are read along the lines. -/
  | across
  deriving DecidableEq

inductive ListOrder
  | name
  | none
  | size
  | time
  | version
  | ending
  | width
  deriving DecidableEq

/-- What is marked behind a name. -/
inductive ListMark
  | none
  | slash
  | fileType
  | all
  deriving DecidableEq

inductive ListQuoting
  | literal
  | shell
  | shellAlways
  | escape
  | double
  /-- Between double quotes, if anything in the name needs them. -/
  | doubleIfNeeded
  | print
  /-- Between the quotes of a language, which are those of print. -/
  | local
  deriving DecidableEq

/-- How sizes are shown: as they are, or with a letter for a power of 1024 or of 1000. -/
inductive SizeForm
  | plain
  | binary
  | decimal
  deriving DecidableEq

/-- How the moment of the last change is shown. -/
inductive TimeForm
  /-- With the time of day if it is not long ago, and else with the year. -/
  | usual
  | full
  | long
  | short
  | custom (form : String)
  deriving DecidableEq

structure ListForm where
  layout : ListLayout
  order : ListOrder
  isReversed : Bool
  directoriesFirst : Bool
  mark : ListMark
  quoting : ListQuoting
  hidesControls : Bool
  showsBlocks : Bool
  sizes : SizeForm
  showsOwner : Bool
  showsGroup : Bool
  showsAuthor : Bool
  isNumeric : Bool
  time : TimeForm
  /-- The characters of a line; zero if there is no bound. -/
  width : Nat
  /-- The columns from a tab stop to another; zero if there are no tabs. -/
  tab : Nat
  ending : Char
  /-- The present moment, in nanoseconds from 1970 on. -/
  now : Int

/-- One name on a line, in the order of the names. -/
def ListForm.single (now : Int) : ListForm where
  layout := .single
  order := .name
  isReversed := false
  directoriesFirst := false
  mark := .none
  quoting := .literal
  hidesControls := false
  showsBlocks := false
  sizes := .plain
  showsOwner := true
  showsGroup := true
  showsAuthor := false
  isNumeric := false
  time := .usual
  width := 80
  tab := 8
  ending := '\n'
  now := now

/-- A row of a list: the name that is shown, and what is known of the entry. -/
structure ListRow where
  name : String
  facts : Facts

/-! ### Sizes -/

/-- A size with at most three digits and a letter; it is rounded up. -/
def humanSize (base : Nat) (n : Nat) : String :=
  let letters := if base = 1000 then "kMGTPEZY" else "KMGTPEZY"
  go letters.toList base n
where
  go : List Char → Nat → Nat → String
    | [], _, n => toString n
    | letter :: rest, unit, n =>
      if n < base then toString n
      else
        let tenths := (n * 10 + unit - 1) / unit
        let whole := (n + unit - 1) / unit
        if tenths < 100 then s!"{tenths / 10}.{tenths % 10}{letter}"
        else if whole < base ∨ rest = [] then s!"{whole}{letter}"
        else go rest (unit * base) n

def SizeForm.shown (f : SizeForm) (n : Nat) : String :=
  match f with
  | .plain => toString n
  | .binary => humanSize 1024 n
  | .decimal => humanSize 1000 n

/-- A number of blocks of 512 bytes. -/
def SizeForm.shownBlocks (f : SizeForm) (blocks : Nat) : String :=
  match f with
  | .plain => toString ((blocks + 1) / 2)
  | f => f.shown (blocks * 512)

/-! ### Names -/

/-- The characters of a text that it is as wide as. -/
def displayWidth (text : String) : Nat := (ByteText.units text.toList).length

namespace ListForm

def quoted (f : ListForm) (name : String) : String :=
  match f.quoting with
  | .literal =>
    if f.hidesControls then
      String.ofList (name.toList.map fun c => if c < ' ' ∨ c = '\x7f' then '?' else c)
    else name
  | .shell => Quoting.named name
  | .shellAlways => Quoting.always name
  | .escape => Quoting.escaped (· == ' ') name
  | .double => Quoting.backslashed '"' name
  | .doubleIfNeeded =>
    let quoted := Quoting.backslashed '"' name
    if quoted.length = name.length + 2 then name else quoted
  | .print | .local => Quoting.quoted name

/-- The sign behind a name. -/
def sign (f : ListForm) (facts : Facts) : String :=
  match f.mark, facts.entry with
  | .none, _ => ""
  | _, .directory => "/"
  | .all, .file .. => if Mode.isExecutable facts.mode then "*" else ""
  | _, _ => ""

def shownName (f : ListForm) (r : ListRow) : String := f.quoted r.name ++ f.sign r.facts

/-- The width of what is shown of a row where several stand on a line. -/
def nameWidth (f : ListForm) (r : ListRow) : Nat :=
  displayWidth (f.quoted r.name) + (f.sign r.facts).length

/-! ### Order -/

/-- The part of a name from its last point on. -/
def nameEnding (name : String) : List Char :=
  let cs := name.toList
  if cs.contains '.' then '.' :: (cs.reverse.takeWhile (· != '.')).reverse else []

def compareRows (f : ListForm) (a b : ListRow) : Ordering :=
  let byName := compare a.name b.name
  match f.order with
  | .none => .eq
  | .name => byName
  | .size => (compare b.facts.size a.facts.size).then byName
  | .time => (compare b.facts.attributes.modified a.facts.attributes.modified).then byName
  | .version => (Versions.compare a.name.toList b.name.toList).then byName
  | .ending =>
    (compare (String.ofList (nameEnding a.name)) (String.ofList (nameEnding b.name))).then byName
  | .width => (compare (f.nameWidth a) (f.nameWidth b)).then byName

/-- The rows in their order. -/
def arranged (f : ListForm) (rows : List ListRow) : List ListRow :=
  let isBefore (a b : ListRow) : Bool :=
    if f.isReversed then f.compareRows b a != .gt else f.compareRows a b != .gt
  let sorted := if f.order = .none then rows else rows.mergeSort isBefore
  if f.directoriesFirst ∧ f.order ≠ .none then
    sorted.filter (·.facts.entry.isDirectory) ++ sorted.filter (!·.facts.entry.isDirectory)
  else sorted

/-! ### Long rows -/

/-- Half a year in nanoseconds. -/
def halfYear : Int := 15778476000000000

def shownTime (f : ListForm) (facts : Facts) : String :=
  let time := facts.attributes.modified
  let isRecent := decide (f.now - halfYear < time ∧ time ≤ f.now)
  let filled (form : String) : String := Calendar.Form.filled true form facts.moment
  match f.time with
  | .usual => filled (if isRecent then "%b %e %H:%M" else "%b %e  %Y")
  | .full => filled "%Y-%m-%d %H:%M:%S.%N %z"
  | .long => filled "%Y-%m-%d %H:%M"
  | .short => filled (if isRecent then "%m-%d %H:%M" else "%Y-%m-%d ")
  | .custom form =>
    match splitAtEach '\n' form.toList with
    | [old, recent] => filled (String.ofList (if isRecent then recent else old))
    | _ => filled form

/-- The columns of a long row that stand in front of the name; the first value says whether a column is
filled up on the left. -/
def cells (f : ListForm) (r : ListRow) : List (Bool × String) :=
  let owner := if f.isNumeric then "0" else "root"
  let optional (shows : Bool) (cell : Bool × String) : List (Bool × String) :=
    if shows then [cell] else []
  let size := match r.facts.entry with
    | .device .null => "1, 3"
    | .device .zero => "1, 5"
    | .device .full => "1, 7"
    | _ => f.sizes.shown r.facts.size
  optional f.showsBlocks (true, f.sizes.shownBlocks r.facts.blocks) ++
    [(true, r.facts.modeText), (true, toString r.facts.links)] ++
      optional f.showsOwner (f.isNumeric, owner) ++ optional f.showsGroup (f.isNumeric, owner) ++
        optional f.showsAuthor (f.isNumeric, owner) ++ [(true, size), (true, f.shownTime r.facts)]

/-- The width of each column. -/
def cellWidths (rows : List (List (Bool × String))) : List Nat :=
  rows.foldl (fun widths row =>
    (List.range (max widths.length row.length)).map fun i =>
      max (widths.getD i 0) (((row.map (·.2.length)).getD i 0))) []

def longText (f : ListForm) (rows : List ListRow) : List String :=
  let table := rows.map f.cells
  let widths := cellWidths table
  (rows.zip table).map fun (r, row) =>
    let shown := (row.zip widths).map fun ((isLeft, text), width) =>
      if isLeft then String.ofList (text.toList.leftpad width ' ')
      else String.ofList (text.toList.rightpad width ' ')
    String.intercalate " " shown ++ " " ++ f.shownName r

/-! ### Columns -/

/-- The blanks and tabs from a column to another. The fuel bounds their number. -/
def indent (tab : Nat) : Nat → Nat → Nat → List Char
  | 0, _, _ => []
  | fuel + 1, start, stop =>
    if stop ≤ start then []
    else if (start + 1) / tab < stop / tab then '\t' :: indent tab fuel (start + tab - start % tab) stop
    else ' ' :: indent tab fuel (start + 1) stop

/-- The widths of so many columns. -/
def columnWidths (downwards : Bool) (count : Nat) (widths : List Nat) : List Nat :=
  let rows := (widths.length + count - 1) / count
  let columnOf (i : Nat) : Nat := if downwards then i / rows else i % count
  let wide := widths.mapIdx fun i w => (columnOf i, if columnOf i + 1 = count then w else w + 2)
  (List.range count).map fun c =>
    ((wide.filter (·.1 == c)).map (·.2)).foldl max 3

/-- The widths of as many columns as fit into a line. The fuel is the number of columns to try. -/
def fittingWidths (downwards : Bool) (line : Nat) (widths : List Nat) : Nat → List Nat
  | 0 => columnWidths downwards 1 widths
  | n + 1 =>
    let found := columnWidths downwards (n + 1) widths
    if found.foldl (· + ·) 0 < line then found else fittingWidths downwards line widths n

/-- Names in columns. -/
def columnText (f : ListForm) (downwards : Bool) (names : List (String × Nat)) : List String :=
  let widths := names.map (·.2)
  let most := min names.length ((f.width + 2) / 3)
  let columns := fittingWidths downwards f.width widths most
  let count := columns.length
  let rows := (names.length + count - 1) / count
  (List.range rows).map fun row =>
    let indices := (List.range count).map fun c =>
      if downwards then c * rows + row else row * count + c
    let cells := (indices.filterMap fun i => names[i]?).zip columns
    let (text, _, _) := cells.foldl (fun (text, gap, start) ((name, width), column) =>
      (text ++ String.ofList gap ++ name, indent f.tab (column + 1) (start + width) (start + column),
        start + column)) ("", ([] : List Char), 0)
    text

/-- Names behind commas, on lines that are not too long. -/
def commaText (f : ListForm) (names : List (String × Nat)) : String :=
  (names.foldl (fun (text, position) (name, width) =>
    if text = "" then (name, width)
    else if f.width = 0 ∨ position + width + 2 < f.width then
      (text ++ ", " ++ name, position + 2 + width)
    else (text ++ ",\n" ++ name, width)) ("", 0)).1

/-! ### Lists -/

/-- Names with what may stand in front of them, and their widths. -/
def decorated (f : ListForm) (rows : List ListRow) : List (String × Nat) :=
  let blocks := rows.map fun r => f.sizes.shownBlocks r.facts.blocks
  let most := (blocks.map (·.length)).foldl max 0
  (rows.zip blocks).map fun (r, b) =>
    let front := if f.showsBlocks then String.ofList (b.toList.leftpad most ' ') ++ " " else ""
    (front ++ f.shownName r, front.length + f.nameWidth r)

def joined (f : ListForm) (lines : List String) : String :=
  String.join (lines.map (·.push f.ending))

/-- The text that shows rows. -/
def shown (f : ListForm) (isInDirectory : Bool) (rows : List ListRow) : String :=
  let hasTotal := isInDirectory && (f.layout = .long || f.showsBlocks)
  let blocks := (rows.map (·.facts.blocks)).foldl (· + ·) 0
  let total := if hasTotal then (s!"total {f.sizes.shownBlocks blocks}").push f.ending else ""
  let names := f.decorated rows
  let body := match f.layout with
    | .long => f.joined (f.longText rows)
    | .single => f.joined (names.map (·.1))
    | .commas => if rows.isEmpty then "" else (f.commaText names).push f.ending
    | .columns | .across =>
      if rows.isEmpty then ""
      else if f.width = 0 then (String.intercalate "  " (names.map (·.1))).push f.ending
      else f.joined (f.columnText (f.layout = .columns) names)
  total ++ body

end ListForm

end LinkBench.Host.Utility
