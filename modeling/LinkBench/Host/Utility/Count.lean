import LinkBench.Host.Utility.Show
/-!
Counting what texts hold: lines, words, characters and bytes, and how wide the longest line is. A word
is a row of characters without blanks that holds one that can be printed.
-/

namespace LinkBench.Host.Utility

/-- What a text holds. -/
structure Counts where
  lines : Nat
  words : Nat
  chars : Nat
  bytes : Nat
  longest : Nat
  deriving DecidableEq

namespace Counts

def none : Counts := ⟨0, 0, 0, 0, 0⟩

def add (a b : Counts) : Counts :=
  ⟨a.lines + b.lines, a.words + b.words, a.chars + b.chars, a.bytes + b.bytes,
    max a.longest b.longest⟩

/-- The ranges of characters that take two columns. -/
def wideRanges : List (Nat × Nat) :=
  [(0x1100, 0x115f), (0x2e80, 0x303e), (0x3041, 0x4dbf), (0x4e00, 0xa4cf), (0xac00, 0xd7a3),
    (0xf900, 0xfaff), (0xfe30, 0xfe6f), (0xff00, 0xff60), (0xffe0, 0xffe6), (0x1f300, 0x1f64f),
    (0x1f900, 0x1f9ff), (0x20000, 0x3fffd)]

/-- The number of columns that a character takes. -/
def columns (c : Char) : Nat :=
  let n := c.toNat
  if 0x300 ≤ n ∧ n ≤ 0x36f then 0
  else if wideRanges.any fun (first, last) => decide (first ≤ n ∧ n ≤ last) then 2
  else 1

/-- Blanks beyond the first characters. -/
def isWideBlank (c : Char) : Bool :=
  [0x85, 0xa0, 0x1680, 0x2028, 0x2029, 0x202f, 0x205f, 0x2060, 0x3000].contains c.toNat ||
    (0x2000 ≤ c.toNat && c.toNat ≤ 0x200a)

/-- A count under way: what was counted, whether the last character was in a word, and the column. -/
structure Progress where
  counts : Counts
  isInWord : Bool
  column : Nat

namespace Progress

def start : Progress := ⟨none, false, 0⟩

/-- Ends a word. -/
def endWord (p : Progress) (column : Nat) : Progress :=
  let words := p.counts.words + if p.isInWord then 1 else 0
  ⟨{ p.counts with words }, false, column⟩

/-- Ends a word and a line on the screen. -/
def endRow (p : Progress) : Progress :=
  { p with counts := { p.counts with longest := max p.counts.longest p.column } }.endWord 0

/-- Counts one more character, if the bytes encode one. -/
def step (p : Progress) (unit : List Char × Option Char) : Progress :=
  let (bytes, encoded) := unit
  let p : Progress := { p with counts := { p.counts with bytes := p.counts.bytes + bytes.length } }
  match encoded with
  | .none => p
  | some c =>
    let p : Progress := { p with counts := { p.counts with chars := p.counts.chars + 1 } }
    if c = '\n' then
      { p with counts := { p.counts with lines := p.counts.lines + 1 } }.endRow
    else if c = '\r' ∨ c = '\x0c' then p.endRow
    else if c = '\t' then p.endWord (p.column + 8 - p.column % 8)
    else if c = ' ' then p.endWord (p.column + 1)
    else if c = '\x0b' then p.endWord p.column
    else if Quoting.isPrintable c then ⟨p.counts, true, p.column + 1⟩
    else if isWideBlank c then p.endWord (p.column + columns c)
    else if Quoting.isPrintableBeyond c then ⟨p.counts, true, p.column + columns c⟩
    else p

end Progress

def ofText (text : String) : Counts :=
  let p := (ByteText.units text.toList).foldl Progress.step .start
  p.endRow.counts

end Counts

/-! ### The program -/

/-- How wide numbers are: as the sizes of the files ask for, or seven if one of the inputs is none. -/
def countWidth (names : List String) (chosen : Nat) : Proc Nat := do
  if names.length = 1 ∧ chosen = 1 then
    return 1
  let w ← Proc.view
  let sizes ← names.mapM fun name => do
    if name = "-" then
      let size : Option Nat ← Proc.request (.sizeOf Proc.standardInput)
      return (size.getD 0, if size.isSome then 1 else 7)
    match w.files.stat w.cwd (Proc.pathOf name) with
    | .ok (.file bytes _) => return (bytes.length, 1)
    | .ok _ => return (0, 7)
    | .error _ => return (0, 1)
  let total := (sizes.map (·.1)).foldl (· + ·) 0
  return (sizes.map (·.2)).foldl max (toString total).length

/-- Where the names of inputs come from. -/
inductive CountedInputs
  | operands (names : List String)
  | listed (file : String) (names : List String)

/-- The inputs that are asked for, or why there are none. -/
def countedInputs (command : String) (given : Given) (operands : List String) :
    Proc (Except Nat CountedInputs) := do
  match given.last? "files0-from", operands with
  | none, operands => return .ok (.operands operands)
  | some _, extra :: _ =>
    complain command s!"extra operand {Quoting.always extra}"
    Proc.printError "file operands cannot be combined with --files0-from\n"
    suggestHelp command
    return .error 1
  | some file, [] =>
    match ← textOf file with
    | .error (.opening e) =>
      return .error (← failWith command
        s!"cannot open {Quoting.always file} for reading: {e.reason}" 1)
    | .error (.reading e) =>
      return .error (← failWith command s!"{Quoting.named file}: read error: {e.reason}" 1)
    | .ok text => return .ok (.listed file (Records.split '\x00' text).1)

/-- Counts one input and shows the result; yields what was counted, and the status. -/
def countOne (command : String) (row : Counts → String → String) (name shown : String) :
    Proc (Counts × Nat) := do
  match ← textOf name with
  | .ok text =>
    let n := Counts.ofText text
    Proc.print (row n shown)
    return (n, 0)
  | .error (.opening e) =>
    complain command s!"{Quoting.named name}: {e.reason}"
    return (.none, 1)
  | .error (.reading e) =>
    complain command s!"{Quoting.named name}: {e.reason}"
    Proc.print (row .none shown)
    return (.none, 1)

def wcFlags : List Flag :=
  [Options.flag "c" "bytes", Options.flag "m" "chars", Options.flag "l" "lines",
    Options.flag "w" "words", Options.valued "files0-from" "files0-from",
    Options.flag "L" "max-line-length"]

def wc : List String → Proc Nat := fun arguments =>
  withOptions wcFlags true 1 arguments fun command given operands => do
    let kinds : Given := given.filter (·.1 != "files0-from")
    let has (key : String) : Bool :=
      if kinds.isEmpty then key == "l" || key == "w" || key == "c" else kinds.has key
    let columns (n : Counts) : List Nat :=
      [("l", n.lines), ("w", n.words), ("m", n.chars), ("c", n.bytes), ("L", n.longest)].filterMap
        fun (key, count) => if has key then some count else none
    match ← countedInputs command given operands with
    | .error status => return status
    | .ok inputs =>
      let names := match inputs with
        | .operands names => inputNames names
        | .listed _ names => names
      let isStreamed ← match inputs with
        | .listed "-" _ => do
          let size : Option Nat ← Proc.request (.sizeOf Proc.standardInput)
          pure size.isNone
        | _ => pure false
      let width ← if isStreamed then pure 1 else countWidth names (columns .none).length
      let row (n : Counts) (name : String) : String :=
        let name := if name.contains '\n' then Quoting.named name else name
        String.intercalate " " ((columns n).map fun k => rightAligned width (toString k)) ++
          (if name = "" then "" else " " ++ name) ++ "\n"
      let isUnnamed := match inputs with
        | .operands names => names.isEmpty
        | .listed .. => false
      let (total, status) ← names.zipIdx.foldlM (fun (total, status) (name, i) => do
        if name = "" then
          let place := match inputs with
            | .operands _ => ""
            | .listed file _ => s!"{Quoting.named file}:{i + 1}: "
          complain command (place ++ "invalid zero-length file name")
          return (total, 1)
        let (n, one) ← countOne command row name (if isUnnamed then "" else name)
        return (total.add n, max status one)) (Counts.none, 0)
      if 1 < names.length then
        Proc.print (row total "total")
      return status

end LinkBench.Host.Utility
