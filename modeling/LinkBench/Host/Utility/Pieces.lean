import LinkBench.Host.Utility.Amount
import LinkBench.Host.Utility.Show
import LinkBench.Host.Utility.Tree
/-!
Splitting a text into files: after so many lines or bytes, or into so many pieces. The names of the files
end in letters or digits that count them.
-/

namespace LinkBench.Host.Utility

/-! ### Pieces -/

namespace Splitting

/-- What a number of pieces counts. -/
inductive Share
  | bytes
  /-- Lines stay whole. -/
  | lines
  /-- Lines go to the pieces in turn. -/
  | turns
  deriving DecidableEq

inductive Method
  | lines (count : Nat)
  | bytes (count : Nat)
  /-- So many bytes at most, in whole lines if they are short enough. -/
  | lineBytes (count : Nat)
  /-- So many pieces; if one of them is chosen, it is put out. -/
  | pieces (share : Share) (count : Nat) (chosen : Option Nat)

/-- Fills pieces up with whole lines; longer lines are cut. The piece under way and its length come
first. -/
def filled (limit : Nat) : List (List Char) → Nat → List (List Char) → List (List Char)
  | current, _, [] => if current = [] then [] else [current.reverse.flatten]
  | current, length, line :: rest =>
    if length + line.length ≤ limit then filled limit (line :: current) (length + line.length) rest
    else
      let before := if current = [] then [] else [current.reverse.flatten]
      let pieces := chunks limit (line.length + 1) line
      before ++ pieces.dropLast ++
        filled limit pieces.getLast?.toList (pieces.getLast?.elim 0 List.length) rest

/-- The lines with the numbers of the bytes in front of them. -/
def withOffsets : Nat → List (List Char) → List (Nat × List Char)
  | _, [] => []
  | offset, line :: rest => (offset, line) :: withOffsets (offset + line.length) rest

/-- The piece that a line goes to by the place where it begins. -/
def pieceOfLine (size count offset : Nat) : Nat :=
  min (offset / (max size count / count)) (count - 1)

/-- The pieces of a text. -/
def Method.split (m : Method) (ending : Char) (text : List Char) : List (List Char) :=
  match m with
  | .bytes n => chunks n (text.length + 1) text
  | .lines n =>
    let lines := Records.withEnds ending text
    (chunks n (lines.length + 1) lines).map List.flatten
  | .lineBytes n => filled n [] 0 (Records.withEnds ending text)
  | .pieces .bytes n _ =>
    let width := max 1 (text.length / n)
    (List.range n).map fun i =>
      let behind := text.drop (i * width)
      if i + 1 = n then behind else behind.take width
  | .pieces .lines n _ =>
    let lines := withOffsets 0 (Records.withEnds ending text)
    (List.range n).map fun i =>
      (lines.filter fun (offset, _) => pieceOfLine text.length n offset == i).flatMap (·.2)
  | .pieces .turns n _ =>
    let lines := (Records.withEnds ending text).zipIdx
    (List.range n).map fun i => (lines.filter fun (_, k) => k % n == i).flatMap (·.1)

/-! ### Names -/

/-- The letters behind the name of the `n`-th piece. -/
def label (letters : List Char) : Nat → Nat → List Char
  | 0, _ => []
  | width + 1, n =>
    label letters width (n / letters.length) ++ [letters.getD (n % letters.length) 'a']

/-- The letters behind the name of the `n`-th piece where the names grow: before the last letter comes
to stand in front, it is put before longer names. The fuel bounds the number. -/
def growingLabel (letters : List Char) : Nat → Nat → Nat → List Char
  | 0, width, n => label letters width n
  | fuel + 1, width, n =>
    let block := (letters.length - 1) * Nat.pow letters.length (width - 1)
    if n < block then label letters width n
    else letters.getLast?.toList ++ growingLabel letters fuel (width + 1) (n - block)

structure Naming where
  stem : String
  ending : String
  letters : List Char
  start : Nat
  width : Nat
  grows : Bool

/-- The name of the `n`-th piece, unless the names are used up. -/
def Naming.name? (x : Naming) (n : Nat) : Option String :=
  let number := x.start + n
  if x.grows then
    some (x.stem ++ String.ofList (growingLabel x.letters number x.width number) ++ x.ending)
  else if number < Nat.pow x.letters.length x.width then
    some (x.stem ++ String.ofList (label x.letters x.width number) ++ x.ending)
  else none

/-! ### The request -/

structure Request where
  method : Option Method
  /-- How many letters the names end in; zero leaves it to the number of pieces. -/
  width : Nat
  ending : String
  letters : List Char
  start : Option String
  separator : Option Char
  skipsEmpty : Bool
  announces : Bool

def Request.initial : Request where
  method := none
  width := 0
  ending := ""
  letters := "abcdefghijklmnopqrstuvwxyz".toList
  start := none
  separator := none
  skipsEmpty := false
  announces := false

inductive Fault
  | plain (text : String)
  | usage (text : String)

/-- A number that is out of bounds. -/
def outOfRange (noun text : String) : Fault :=
  .plain (s!"invalid {noun}: {Quoting.quoted text}" ++ Amount.Misread.outOfRange)

/-- A number that is not zero. -/
def count (letters noun text : String) : Except Fault Nat :=
  match Amount.read letters text with
  | .ok (n + 1) => .ok (n + 1)
  | .ok 0 => .error (outOfRange noun text)
  | .error reason => .error (.plain (s!"invalid {noun}: {Quoting.quoted text}" ++ reason.ending))

/-- Reads a number of pieces, perhaps with the one that is chosen in front of it. -/
def readPieces (text : String) : Except Fault Method := do
  let cs := text.toList.dropWhile fun c => c == ' ' || decide (9 ≤ c.toNat && c.toNat ≤ 13)
  let (share, cs) := match cs with
    | 'r' :: '/' :: rest => (Share.turns, rest)
    | 'l' :: '/' :: rest => (Share.lines, rest)
    | rest => (.bytes, rest)
  match splitAtEach '/' cs with
  | [chosen, total] => do
    let n ← count "" "number of chunks" (String.ofList total)
    let k ← count "" "chunk number" (String.ofList chosen)
    if n < k then
      throw (outOfRange "chunk number" (String.ofList chosen))
    return .pieces share n (some k)
  | _ => return .pieces share (← count "" "number of chunks" (String.ofList cs)) none

def Request.splitting (r : Request) (m : Method) : Except Fault Request :=
  match r.method with
  | some _ => .error (.usage "cannot split in more than one way")
  | none => .ok { r with method := some m }

/-- The multipliers of sizes. -/
def multipliers : String := "bEGKkMmPTYZ"

/-- A request with one more option. -/
def Request.adding (r : Request) (option : String × String) : Except Fault Request := do
  let (key, value) := option
  let numbered (letters noun : String) : Except Fault Request :=
    if value = "" then .ok { r with letters := letters.toList }
    else if value.toList.all fun c => letters.toList.contains c then
      let digits := value.toList.dropWhile (· == '0')
      .ok { r with
        letters := letters.toList
        start := some (if digits = [] then "0" else String.ofList digits) }
    else
      .error (.usage s!"{Quoting.quoted value}: invalid start value for {noun} suffix")
  match key with
  | "l" => r.splitting (.lines (← count "" "number of lines" value))
  | "b" => r.splitting (.bytes (← count multipliers "number of bytes" value))
  | "C" => r.splitting (.lineBytes (← count multipliers "number of bytes" value))
  | "n" => r.splitting (← readPieces value)
  | "a" =>
    match Amount.read "" value with
    | .ok n => return { r with width := n }
    | .error reason =>
      throw (.plain (s!"invalid suffix length: {Quoting.quoted value}" ++ reason.ending))
  | "additional-suffix" =>
    if value.contains '/' then
      throw (.usage s!"invalid suffix {Quoting.quoted value}, contains directory separator")
    return { r with ending := value }
  | "d" => numbered "0123456789" "numerical"
  | "x" => numbered "0123456789abcdef" "hexadecimal"
  | "t" =>
    let separator ← match value.toList with
      | [] => throw (.plain "empty record separator")
      | ['\\', '0'] => pure '\x00'
      | [c] => pure c
      | _ => throw (.plain s!"multi-character separator {Quoting.quoted value}")
    if r.separator.any (· != separator) then
      throw (.plain "multiple separator characters specified")
    return { r with separator := some separator }
  | "e" => return { r with skipsEmpty := true }
  | "verbose" => return { r with announces := true }
  | _ => return r

/-- The number of letters that the names of so many pieces need. The fuel bounds the number. -/
def neededWidth (letters : Nat) : Nat → Nat → Nat
  | 0, _ => 1
  | fuel + 1, last =>
    if last < letters then 1 else 1 + neededWidth letters fuel (last / letters)

/-- How the pieces are named. -/
def Request.naming (r : Request) (stem : String) : Except Fault Naming := do
  let first := (r.start.bind (·.toNat?)).getD 0
  let needed := match r.method with
    | some (.pieces _ n _) =>
      let last := n - 1 + if first < n then first else 0
      neededWidth r.letters.length last last
    | _ => 0
  if r.width ≠ 0 ∧ r.width < needed then
    throw (.plain s!"the suffix length needs to be at least {needed}")
  let width := if r.width ≠ 0 then r.width else max 2 needed
  if r.start.any fun digits => decide (width < digits.length) then
    throw (.usage "numerical suffix start value is too large for the suffix length")
  let radix := r.letters.length
  let start := (r.start.getD "0").toList.foldl (fun n c => n * radix + Floating.digitValue c) 0
  return { stem, ending := r.ending, letters := r.letters, start, width
           grows := r.width = 0 ∧ needed = 0 ∧ r.start = none }

/-- Writes the pieces from the `n`-th one on. -/
def writePieces (command : String) (r : Request) (naming : Naming) :
    Nat → List (List Char) → Proc Nat
  | _, [] => return 0
  | n, piece :: rest => do
    match naming.name? n with
    | none => failWith command "output file suffixes exhausted" 1
    | some target =>
      if r.announces then Proc.print s!"creating file {Quoting.always target}\n"
      let result ← Proc.change fun files cwd =>
        files.writeFile cwd (Proc.pathOf target) (piece.map ByteText.toByte)
      match result with
      | .ok () => writePieces command r naming (n + 1) rest
      | .error e => failWith command s!"{Quoting.named target}: {e.reason}" 1

def flags : List Flag :=
  [Options.valued "b" "bytes", Options.valued "l" "lines", Options.valued "C" "line-bytes",
    Options.valued "n" "number", Options.flag "e" "elide-empty-files",
    Options.flag "u" "unbuffered", Options.valued "a" "suffix-length",
    Options.valued "additional-suffix" "additional-suffix",
    Options.optional "d" "numeric-suffixes", Options.optional "x" "hex-suffixes",
    Options.flag "verbose" "verbose", Options.valued "t" "separator"]

/-- The options with the letters that have no value of their own in front. -/
def bareFlags : List Flag := [Options.flag "d" "", Options.flag "x" ""]

/-- A number behind a dash stands for a number of lines. -/
def withShortForm (a : String) : String :=
  match a.toList with
  | '-' :: digits =>
    if digits ≠ [] ∧ digits.all (·.isDigit) then "-l" ++ String.ofList digits else a
  | _ => a

end Splitting

open Splitting in
def split (arguments : List String) : Proc Nat :=
  let arguments := arguments.take 1 ++ (arguments.drop 1).map withShortForm
  withOptions (bareFlags ++ flags) true 1 arguments fun command given operands => do
    let refuse : Fault → Proc Nat
      | .plain text => failWith command text 1
      | .usage text => refuseUse command text 1
    match given.foldlM Request.adding .initial with
    | .error f => refuse f
    | .ok r =>
      let method := r.method.getD (.lines 1000)
      match operands.drop 2, r.naming (operands.getD 1 "x") with
      | extra :: _, _ => extraOperand command extra
      | [], .error f => refuse f
      | [], .ok naming =>
        let name := operands.headD "-"
        match ← textOf name with
        | .error (.opening e) =>
          failWith command s!"cannot open {Quoting.always name} for reading: {e.reason}" 1
        | .error (.reading e) => failWith command s!"{Quoting.named name}: {e.reason}" 1
        | .ok text =>
          let pieces := method.split (r.separator.getD '\n') text.toList
          match method with
          | .pieces _ _ (some chosen) =>
            emit command (String.ofList (pieces.getD (chosen - 1) [])) 0
          | _ =>
            let pieces := if r.skipsEmpty then pieces.filter (· ≠ []) else pieces
            writePieces command r naming 0 pieces

end LinkBench.Host.Utility
