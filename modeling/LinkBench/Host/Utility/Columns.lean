import LinkBench.Host.Utility.Show
/-!
Columns: parts of lines that are cut out by their positions, and lines that are put side by side. A list
of positions is kept as spans in ascending order that do not overlap.
-/

namespace LinkBench.Host.Utility

/-! ### Spans of positions -/

/-- A range of positions, counted from one; without a last one it goes on for ever. -/
structure Span where
  first : Nat
  last : Option Nat
  deriving DecidableEq, Repr

namespace Span

def holds (s : Span) (n : Nat) : Bool :=
  decide (s.first ≤ n) && s.last.all fun last => decide (n ≤ last)

/-- Two spans as one that begins where the first does. -/
def union (a b : Span) : Span :=
  ⟨a.first, match a.last, b.last with
    | some m, some n => some (max m n)
    | _, _ => none⟩

/-- Whether a span that begins later overlaps with one. -/
def reaches (a b : Span) : Bool := a.last.all fun last => decide (b.first ≤ last)

/-- Makes one span of those that overlap; the first one begins at the given span. -/
def mergedFrom (a : Span) : List Span → List Span
  | [] => [a]
  | b :: rest => if a.reaches b then mergedFrom (a.union b) rest else a :: mergedFrom b rest

def merged : List Span → List Span
  | [] => []
  | a :: rest => mergedFrom a rest

/-- The spans in ascending order without overlaps. -/
def arranged (spans : List Span) : List Span :=
  merged (spans.mergeSort fun a b => decide (a.first ≤ b.first))

/-- The positions from one on that no span holds. -/
def complement : Nat → List Span → List Span
  | start, [] => [⟨start, none⟩]
  | start, s :: rest =>
    let gap := if start < s.first then [⟨start, some (s.first - 1)⟩] else []
    gap ++ match s.last with
      | some last => complement (last + 1) rest
      | none => []

end Span

/-! ### Lists of positions -/

/-- What the positions of a list count. -/
inductive Counted
  | bytes
  | fields
  deriving DecidableEq

namespace Counted

def fromOne : Counted → String
  | .bytes => "byte/character positions are numbered from 1"
  | .fields => "fields are numbered from 1"

def badRange : Counted → String
  | .bytes => "invalid byte or character range"
  | .fields => "invalid field range"

def badValue (text : String) : Counted → String
  | .bytes => s!"invalid byte/character position {Quoting.quoted text}"
  | .fields => s!"invalid field value {Quoting.quoted text}"

def tooLarge (text : String) : Counted → String
  | .bytes => s!"byte/character offset {Quoting.quoted text} is too large"
  | .fields => s!"field number {Quoting.quoted text} is too large"

end Counted

namespace Span

/-- A span under way: the number in front of the dash, whether there was a dash, and the number at
hand. -/
structure Draft where
  left : Option Nat
  hasDash : Bool
  number : Option Nat

def Draft.start : Draft := ⟨none, false, none⟩

/-- The span that a draft has become. -/
def Draft.finish (counted : Counted) (d : Draft) : Except String Span :=
  if !d.hasDash then
    match d.number with
    | some (n + 1) => .ok ⟨n + 1, some (n + 1)⟩
    | _ => .error counted.fromOne
  else
    match d.left, d.number with
    | none, none => .error "invalid range with no endpoint: -"
    | left, none => .ok ⟨left.getD 1, none⟩
    | left, some n =>
      if n < left.getD 1 then .error "invalid decreasing range" else .ok ⟨left.getD 1, some n⟩

/-- The largest position that is taken for one. -/
def largest : Nat := 18446744073709551614

/-- Reads a list of spans; commas and blanks stand between them. The fuel bounds its length. -/
def readList (counted : Counted) : Nat → Draft → List Char → Except String (List Span)
  | 0, d, _ | _, d, [] => return [← d.finish counted]
  | fuel + 1, d, c :: rest =>
    if c = '-' then
      if d.hasDash then .error counted.badRange
      else if d.number = some 0 then .error counted.fromOne
      else readList counted fuel ⟨d.number, true, none⟩ rest
    else if c = ',' ∨ c = ' ' ∨ c = '\t' then do
      let span ← d.finish counted
      return span :: (← readList counted fuel .start rest)
    else if c.isDigit then
      let digits := (c :: rest).takeWhile (·.isDigit)
      let n := Nat.ofDigitChars 10 digits 0
      if largest < n then .error (counted.tooLarge (String.ofList digits))
      else readList counted fuel { d with number := some n } (rest.drop (digits.length - 1))
    else
      .error (counted.badValue (String.ofList (c :: rest)))

/-- The spans of a list, arranged. -/
def ofList (counted : Counted) (text : String) : Except String (List Span) :=
  (readList counted (text.length + 1) .start text.toList).map arranged

end Span

/-! ### Cutting -/

structure CutStyle where
  counted : Counted
  delimiter : Char
  skipsBare : Bool
  spans : List Span
  between : Option String

namespace CutStyle

def takes (s : CutStyle) (n : Nat) : Bool := s.spans.any (·.holds n)

/-- The chosen bytes of a line; the given text stands between spans. -/
def bytes (s : CutStyle) : Nat → Bool → List Char → List Char
  | _, _, [] => []
  | n, hasPart, c :: rest =>
    if s.takes n then
      let isFirst := s.spans.any (·.first == n)
      let separator := if hasPart && isFirst then (s.between.getD "").toList else []
      separator ++ c :: bytes s (n + 1) true rest
    else
      bytes s (n + 1) hasPart rest

/-- What is left of a line; nothing if the line is left out. -/
def line? (s : CutStyle) (line : String) : Option String :=
  match s.counted with
  | .bytes => some (String.ofList (s.bytes 1 false line.toList))
  | .fields =>
    if !line.contains s.delimiter then
      if s.skipsBare then none else some line
    else
      let fields := (splitAtEach s.delimiter line.toList).zipIdx.filterMap fun (field, i) =>
        if s.takes (i + 1) then some (String.ofList field) else none
      some (String.intercalate (s.between.getD (String.singleton s.delimiter)) fields)

/-- A delimiter in an argument; no text stands for a zero. -/
def zeroIfEmpty (text : String) : String := if text = "" then "\x00" else text

/-- The style that options ask for. -/
def ofGiven (given : Given) : Except String CutStyle := do
  let isList (key : String) : Bool := key == "b" || key == "c" || key == "f"
  -- the first fault in the order of the options
  let _ ← given.foldlM (fun lists (key, value) =>
    if isList key ∧ lists = 1 then throw "only one list may be specified"
    else if isList key then return lists + 1
    else if key = "d" ∧ 1 < value.length then throw "the delimiter must be a single character"
    else return lists) 0
  match given.find? fun x => isList x.1 with
  | none => throw "you must specify a list of bytes, characters, or fields"
  | some (key, list) =>
    let counted : Counted := if key = "f" then .fields else .bytes
    if given.has "d" ∧ counted = .bytes then
      throw "an input delimiter may be specified only when operating on fields"
    if given.has "s" ∧ counted = .bytes then
      throw "suppressing non-delimited lines makes sense\n\tonly when operating on fields"
    let spans ← Span.ofList counted list
    return {
      counted
      delimiter := (zeroIfEmpty ((given.last? "d").getD "\t")).toList.headD '\t'
      skipsBare := given.has "s"
      spans := if given.has "complement" then Span.complement 1 spans else spans
      between := (given.last? "output-delimiter").map zeroIfEmpty }

end CutStyle

def cutFlags : List Flag :=
  [Options.valued "b" "bytes", Options.valued "c" "characters", Options.valued "f" "fields",
    Options.valued "d" "delimiter", Options.flag "n" "", Options.flag "s" "only-delimited",
    Options.valued "output-delimiter" "output-delimiter", Options.flag "complement" "complement",
    Options.flag "z" "zero-terminated"]

def cut : List String → Proc Nat := fun arguments =>
  withOptions cutFlags true 1 arguments fun command given operands => do
    match CutStyle.ofGiven given with
    | .error text => refuseUse command text 1
    | .ok style =>
      withTexts command (inputNames operands) fun _ text =>
        let ending := given.recordEnd
        emit command
          (Records.joined ending ((Records.split ending text).1.filterMap style.line?)) 0

/-! ### Side by side -/

/-- Puts pieces together with the separators in turn. -/
def interleave (separators : List String) : List String → String
  | [] => ""
  | [last] => last
  | piece :: rest =>
    piece ++ separators.headD "" ++
      interleave (separators.tail ++ separators.head?.toList) rest

/-- The separators that a list of delimiters stands for; nothing if a backslash stands at its end. -/
def separatorsOf : List Char → Option (List String)
  | [] => some []
  | ['\\'] => none
  | '\\' :: c :: rest =>
    let separator := match c with
      | '0' => ""
      | 'b' => "\x08"
      | 'f' => "\x0c"
      | 'n' => "\n"
      | 'r' => "\r"
      | 't' => "\t"
      | 'v' => "\x0b"
      | c => String.singleton c
    (separatorsOf rest).map (separator :: ·)
  | c :: rest => (separatorsOf rest).map (String.singleton c :: ·)

/-- The rows of columns that may end before each other. The fuel bounds their height. -/
def rowsOf : Nat → List (List String) → List (List String)
  | 0, _ => []
  | fuel + 1, columns =>
    if columns.all List.isEmpty then []
    else columns.map (·.headD "") :: rowsOf fuel (columns.map List.tail)

/-- The lines of the files, one after the other; all that name the standard input share its lines. -/
structure Sources where
  names : List String
  /-- What was read of each name that is no standard input. -/
  files : List (Except Proc.Refusal (List String))
  input : List String

namespace Sources

def isInput (name : String) : Bool := name == "-"

def read (ending : Char) (names : List String) : Proc Sources := do
  let lines (name : String) : Proc (Except Proc.Refusal (List String)) := do
    return (← textOf name).map fun text => (Records.split ending text).1
  let files ← (names.filter fun name => !isInput name).mapM lines
  let input ← if names.any isInput then lines "-" else pure (.ok [])
  return ⟨names, files, input.toOption.getD []⟩

/-- The names of files that cannot be read, with the reasons. -/
def failures (s : Sources) : List (String × String) :=
  ((s.names.filter fun name => !isInput name).zip s.files).filterMap fun (name, r) =>
    match r with
    | .error r => some (name, r.reason)
    | .ok _ => none

/-- The lines of the `k`-th of so many names of the standard input. -/
def share (s : Sources) (isSerial : Bool) (inputs k : Nat) : List String :=
  if isSerial then (if k = 0 then s.input else [])
  else s.input.zipIdx.filterMap fun (line, i) => if i % inputs = k then some line else none

/-- The lines of each name; those that cannot be read are left out. -/
def columns (s : Sources) (isSerial : Bool) : List (List String) :=
  let inputs := (s.names.filter isInput).length
  let (columns, _, _) := s.names.foldl
    (fun (columns, k, files) name =>
      if isInput name then (columns ++ [s.share isSerial inputs k], k + 1, files)
      else
        (match files.head? with
          | some (.ok lines) => (columns ++ [lines], k, files.tail)
          | _ => (columns, k, files.tail)))
    (([] : List (List String)), 0, s.files)
  columns

end Sources

def paste : List String → Proc Nat := fun arguments =>
  let flags := [Options.flag "s" "serial", Options.valued "d" "delimiters",
    Options.flag "z" "zero-terminated"]
  withOptions flags true 1 arguments fun command given operands => do
    let list := (given.last? "d").getD "\t"
    match separatorsOf list.toList with
    | none => failWith command s!"delimiter list ends with an unescaped backslash: {list}" 1
    | some separators =>
      let separators := if separators.isEmpty then [""] else separators
      let isSerial := given.has "s"
      let sources ← Sources.read given.recordEnd (inputNames operands)
      let failures := if isSerial then sources.failures else sources.failures.take 1
      for (name, reason) in failures do
        complain command s!"{Quoting.named name}: {reason}"
      if !isSerial && !failures.isEmpty then
        return 1
      let columns := sources.columns isSerial
      let height := (columns.map List.length).foldl max 0
      let rows := if isSerial then columns else rowsOf height columns
      emit command (Records.joined given.recordEnd (rows.map (interleave separators)))
        (if failures.isEmpty then 0 else 1)

end LinkBench.Host.Utility
