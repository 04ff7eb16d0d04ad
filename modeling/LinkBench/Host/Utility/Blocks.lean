import LinkBench.Host.Utility.Tree
/-!
Copying in blocks, from one place in a file to another, with bytes changed on the way. What is asked for is
read from operands of the form `name=value`; how many blocks were whole and how many were not is reported
at the end.
-/

namespace LinkBench.Host.Utility

namespace Blocks

/-! ### What is asked for -/

/-- A number of blocks, or of bytes if it says so. -/
structure Extent where
  number : Nat
  inBytes : Bool

/-- The number of bytes that an extent of blocks of a size covers. -/
def Extent.bytes (e : Extent) (size : Nat) : Nat := if e.inBytes then e.number else e.number * size

structure Request where
  input : Option String
  output : Option String
  inputSize : Option Nat
  outputSize : Option Nat
  /-- The size of both kinds of blocks, which are then written as they are read. -/
  commonSize : Option Nat
  /-- The length of the lines that have no ends. -/
  lineLength : Nat
  count : Option Extent
  skipped : Extent
  sought : Extent
  conversions : List String
  inputFlags : List String
  outputFlags : List String
  status : String

def start : Request where
  input := none
  output := none
  inputSize := none
  outputSize := none
  commonSize := none
  lineLength := 0
  count := none
  skipped := ⟨0, false⟩
  sought := ⟨0, false⟩
  conversions := []
  inputFlags := []
  outputFlags := []
  status := "all"

inductive Fault
  | unknown (operand : String)
  | number (text : String)
  | tooLarge (text : String)
  | word (what text : String)
  | clash (words : String)

def Fault.report (command : String) : Fault → Proc Nat
  | .unknown operand => refuseUse command s!"unrecognized operand {Quoting.always operand}" 1
  | .number text => failWith command s!"invalid number: {Quoting.always text}" 1
  | .tooLarge text =>
    failWith command
      s!"invalid number: {Quoting.always text}: Value too large for defined data type" 1
  | .word what text => refuseUse command s!"invalid {what}: {Quoting.quoted text}" 1
  | .clash words => failWith command s!"cannot combine {words}" 1

/-- A factor of a number. A `B` behind it says that bytes are counted and nothing else. -/
def factor? (text : String) : Option Nat :=
  let bare := (text.dropEnd 1).toString
  Amount.read? "bcEGkKMPTwYZ" text <|>
    (if text.endsWith "B" ∧ ¬ bare.endsWith "B" ∧ bare ≠ "" then Amount.read? "bcEGkKMPTwYZ" bare
    else none)

/-- A number, or several of them that are multiplied. -/
def product? (text : String) : Option Nat :=
  ((splitAtEach 'x' text.toList).map fun piece => factor? (String.ofList piece)).foldlM
    (fun n piece => piece.map (n * ·)) 1

/-- The first number that is too large. -/
def numberLimit : Nat := 9223372036854775808

def number (least : Nat) (text : String) : Except Fault Nat :=
  match product? text with
  | none => .error (.number text)
  | some n =>
    if n < least then .error (.number text)
    else if n < numberLimit then .ok n
    else .error (.tooLarge text)

def extent (text : String) : Except Fault Extent := do
  return ⟨← number 0 text, text.contains 'B'⟩

def conversionNames : List String :=
  ["block", "unblock", "lcase", "ucase", "sparse", "swab", "noerror", "nocreat", "excl", "notrunc",
    "sync", "fdatasync", "fsync", "ascii", "ebcdic", "ibm"]

def flagNames : List String :=
  ["append", "direct", "directory", "dsync", "noatime", "nocache", "noctty", "nofollow", "nonblock",
    "sync", "fullblock", "count_bytes", "skip_bytes", "seek_bytes"]

def statusNames : List String := ["none", "noxfer", "progress"]

/-- Reads words between commas. -/
def words (what : String) (known : List String) (text : String) : Except Fault (List String) :=
  ((splitAtEach ',' text.toList).map String.ofList).mapM fun word =>
    if known.contains word then .ok word else .error (.word what word)

def withOperand (r : Request) (operand : String) : Except Fault Request := do
  let cs := operand.toList
  let key := String.ofList (cs.takeWhile (· != '='))
  let value := (operand.drop (key.length + 1)).toString
  if key.length = operand.length then
    throw (.unknown operand)
  match key with
  | "if" => return { r with input := some value }
  | "of" => return { r with output := some value }
  | "bs" => return { r with commonSize := some (← number 1 value) }
  | "ibs" => return { r with inputSize := some (← number 1 value) }
  | "obs" => return { r with outputSize := some (← number 1 value) }
  | "cbs" => return { r with lineLength := ← number 0 value }
  | "count" => return { r with count := some (← extent value) }
  | "skip" | "iseek" => return { r with skipped := ← extent value }
  | "seek" | "oseek" => return { r with sought := ← extent value }
  | "conv" =>
    return { r with conversions := r.conversions ++ (← words "conversion" conversionNames value) }
  | "iflag" =>
    return { r with inputFlags := r.inputFlags ++ (← words "input flag" flagNames value) }
  | "oflag" =>
    return { r with outputFlags := r.outputFlags ++ (← words "output flag" flagNames value) }
  | "status" =>
    let words ← words "status level" statusNames value
    return { r with status := words.getLastD "" }
  | _ => throw (.unknown operand)

/-- Settles what operands leave open; some of them exclude each other. -/
def Request.settled (r : Request) : Except Fault Request := do
  if r.outputFlags.contains "fullblock" then throw (.word "output flag" "fullblock")
  let isLined (word : String) : Bool := word == "block" || word == "unblock"
  let conversions := if r.lineLength = 0 then r.conversions.filter (!isLined ·) else r.conversions
  let count (known : List String) : Nat := (known.filter (conversions.contains ·)).length
  if 1 < count ["ascii", "ebcdic", "ibm"] then
    throw (.clash "any two of \x7bascii,ebcdic,ibm\x7d")
  if 1 < count ["block", "unblock"] then throw (.clash "block and unblock")
  if 1 < count ["lcase", "ucase"] then throw (.clash "lcase and ucase")
  if 1 < count ["excl", "nocreat"] then throw (.clash "excl and nocreat")
  let inBytes (flags : List String) (name : String) (e : Extent) : Extent :=
    { e with inBytes := e.inBytes || flags.contains name }
  return { r with
    conversions
    count := r.count.map (inBytes r.inputFlags "count_bytes")
    skipped := inBytes r.inputFlags "skip_bytes" r.skipped
    sought := inBytes r.outputFlags "seek_bytes" r.sought }

def read (operands : List String) : Except Fault Request := do
  (← operands.foldlM withOperand start).settled

namespace Request

/-- The size of the blocks that are read. -/
def readSize (r : Request) : Nat := r.commonSize.getD (r.inputSize.getD 512)

/-- The size of the blocks that are written. -/
def writeSize (r : Request) : Nat := r.commonSize.getD (r.outputSize.getD 512)

/-- Whether blocks are written as they are read. -/
def keepsBlocks (r : Request) : Bool :=
  r.commonSize.isSome && r.conversions.all fun word =>
    !(["block", "unblock", "lcase", "ucase", "swab", "ascii", "ebcdic", "ibm"].contains word)

end Request

/-! ### What becomes of the bytes -/

/-- Exchanges neighbours. -/
def swapped : Bytes → Bytes
  | a :: b :: rest => b :: a :: swapped rest
  | bytes => bytes

def space : UInt8 := 32

def lineEnd : UInt8 := 10

/-- Fills a line up to a length, or cuts it there. -/
def filledLine (length : Nat) (line : Bytes) : Bytes :=
  line.take length ++ List.replicate (length - line.length) space

/-- The lines of a text; the last one need not have an end. -/
def linesOf (bytes : Bytes) : List Bytes :=
  let pieces := bytes.splitOn lineEnd
  if pieces.getLast? = some [] then pieces.dropLast else pieces

/-- Lines of one length without ends. -/
def block (length : Nat) (bytes : Bytes) : Bytes :=
  ((linesOf bytes).map (filledLine length)).flatten

/-- How many lines are cut. -/
def cutLines (length : Nat) (bytes : Bytes) : Nat :=
  ((linesOf bytes).filter fun line => length < line.length).length

/-- Lines with ends instead of blanks at their ends. -/
def unblock (length : Nat) (bytes : Bytes) : Bytes :=
  ((chunks length (bytes.length + 1) bytes).map fun line =>
    (line.reverse.dropWhile (· == space)).reverse ++ [lineEnd]).flatten

def convert (r : Request) (bytes : Bytes) : Bytes :=
  let cased (f : Char → Char) (bytes : Bytes) : Bytes :=
    bytes.map fun b => ByteText.toByte (f (ByteText.ofByte b))
  let bytes := if r.conversions.contains "swab" then swapped bytes else bytes
  let bytes := if r.conversions.contains "ucase" then
      cased (fun c => if c.isLower then c.toUpper else c) bytes
    else if r.conversions.contains "lcase" then
      cased (fun c => if c.isUpper then c.toLower else c) bytes
    else bytes
  if r.conversions.contains "block" then block r.lineLength bytes
  else if r.conversions.contains "unblock" then unblock r.lineLength bytes
  else bytes

/-- How many blocks of a size some bytes make, and whether one more is begun. -/
def counted (size : Nat) (bytes : Bytes) : Nat × Nat :=
  (bytes.length / size, if bytes.length % size = 0 then 0 else 1)

/-! ### Reading and writing -/

/-- Reads until a block is full or there is nothing more. The fuel bounds the number of reads. -/
def fillBlock (descriptor : Nat) : Nat → Nat → List Bytes → Proc (Except IoError Bytes)
  | 0, _, pieces => return .ok pieces.reverse.flatten
  | fuel + 1, size, pieces => do
    let got : Except IoError Bytes ← Proc.request (.read descriptor size)
    match got with
    | .error e => return .error e
    | .ok [] => return .ok pieces.reverse.flatten
    | .ok bytes =>
      if bytes.length < size then fillBlock descriptor fuel (size - bytes.length) (bytes :: pieces)
      else return .ok (bytes :: pieces).reverse.flatten

/-- Reads a block; it need not be full where what is there at the moment is enough. -/
def readBlock (isFilled : Bool) (descriptor size : Nat) : Proc (Except IoError Bytes) :=
  fillBlock descriptor (if isFilled then size else 1) size []

/-- Reads up to a number of blocks. Yields them in backward order, and why reading ended early. -/
def readBlocks (isFilled : Bool) (descriptor size : Nat) :
    Nat → List Bytes → Proc (List Bytes × Option IoError)
  | 0, blocks => return (blocks, none)
  | fuel + 1, blocks => do
    match ← readBlock isFilled descriptor size with
    | .error e => return (blocks, some e)
    | .ok [] => return (blocks, none)
    | .ok bytes => readBlocks isFilled descriptor size fuel (bytes :: blocks)

/-- Reads the blocks that are asked for, in order. -/
def readAsked (r : Request) : Proc (List Bytes × Option IoError) := do
  let size := r.readSize
  let isFilled := r.inputFlags.contains "fullblock"
  match r.count with
  | none =>
    let (blocks, e?) ← readBlocks isFilled Proc.standardInput size passLimit []
    return (blocks.reverse, e?)
  | some e =>
    let total := e.bytes size
    let (blocks, e?) ← readBlocks isFilled Proc.standardInput size (total / size) []
    if e?.isSome ∨ blocks.length < total / size ∨ total % size = 0 then return (blocks.reverse, e?)
    let (last, e?) ← readBlocks isFilled Proc.standardInput (total % size) 1 []
    return ((last ++ blocks).reverse, e?)

/-- Passes over the first bytes of the input; yields whether they are all there. -/
def skip (r : Request) : Proc Bool := do
  let length := r.skipped.bytes r.readSize
  let size? : Option Nat ← Proc.request (.sizeOf Proc.standardInput)
  if size?.isSome then
    let got ← readBlock true Proc.standardInput length
    return (got.toOption.getD []).length = length
  else
    let whole := length / r.readSize
    let (blocks, _) ← readBlocks false Proc.standardInput r.readSize whole []
    return blocks.length = whole

/-- Opens the output and goes to the place in it where writing begins. -/
def openOutput (r : Request) (name : String) : Proc (Except IoError Unit) := do
  let path := Proc.pathOf name
  let w ← Proc.view
  let entry? := (w.files.stat w.cwd path).toOption
  if r.conversions.contains "excl" ∧ entry?.isSome then return .error .alreadyExists
  if r.conversions.contains "nocreat" ∧ entry?.isNone then return .error .notFound
  let old := match entry? with
    | some (.file bytes _) => bytes
    | _ => []
  let offset := r.sought.bytes r.writeSize
  let keepsRest := r.conversions.contains "notrunc"
  let mode : OpenMode := if r.outputFlags.contains "append" then .append
    else if keepsRest then .readWrite else .write
  let opened : Except IoError Unit ← Proc.request (.openAt Proc.standardOutput path mode)
  match opened with
  | .error e => return .error e
  | .ok () =>
    if offset = 0 then return .ok ()
    else if keepsRest then
      let _ ← readBlock true Proc.standardOutput (min offset old.length)
      Proc.printBytes (List.replicate (offset - old.length) 0)
      return .ok ()
    else
      Proc.printBytes (resized offset old)
      return .ok ()

/-- Blocks of the input as they are converted: those that are not full are filled up if that is asked
for. -/
def padded (r : Request) (blocks : List Bytes) : List Bytes :=
  if r.conversions.contains "sync" then
    let isLined := r.conversions.any fun word => word == "block" || word == "unblock"
    blocks.map fun b => b ++ List.replicate (r.readSize - b.length) (if isLined then space else 0)
  else blocks

/-- What is said at the end. -/
def summary (r : Request) (read written : Nat × Nat) (cut length : Nat) : String :=
  let records (n : Nat × Nat) (direction : String) : String :=
    s!"{n.1}+{n.2} records {direction}\n"
  let cutText := if cut = 0 then ""
    else s!"{cut} truncated " ++ (if cut = 1 then "record\n" else "records\n")
  let noun := if length = 1 then "byte" else "bytes"
  let pace := s!"{length} {noun} copied, 0.0001 s, 100 kB/s\n"
  if r.status = "none" then ""
  else records read "in" ++ records written "out" ++ cutText ++ (if r.status = "noxfer" then "" else pace)

/-- Copies from the input to the output when both are open. -/
def copy (command : String) (r : Request) (input output : String) : Proc Nat := do
  if 0 < r.skipped.number then
    let isThere ← skip r
    if ¬ isThere ∧ r.status ≠ "none" then
      complain command s!"{Quoting.named input}: cannot skip to specified offset"
  if r.output.isNone then
    Proc.printBytes (List.replicate (r.sought.bytes r.writeSize) 0)
  let (blocks, e?) ← readAsked r
  let isFull (b : Bytes) : Bool := b.length == r.readSize
  let read := ((blocks.filter isFull).length, (blocks.filter (!isFull ·)).length)
  let blocks := padded r blocks
  let raw := blocks.flatten
  let bytes := convert r raw
  let written := if r.keepsBlocks then
      ((blocks.filter isFull).length, (blocks.filter (!isFull ·)).length)
    else counted r.writeSize bytes
  if let some e := e? then
    complain command s!"error reading {Quoting.always input}: {e.reason}"
  let put : Except IoError Unit ← if bytes = [] then pure (.ok ())
    else Proc.request (.write Proc.standardOutput bytes)
  match put with
  | .ok () =>
    let cut := if r.conversions.contains "block" then cutLines r.lineLength raw else 0
    Proc.printError (summary r read written cut bytes.length)
    return if e?.isSome then 1 else 0
  | .error e =>
    complain command s!"error writing {Quoting.always output}: {e.reason}"
    Proc.printError (summary r read (0, 0) 0 0)
    return 1

end Blocks

def dd : List String → Proc Nat := fun arguments =>
  withOptions [] true 1 arguments fun command _ operands => do
    match Blocks.read operands with
    | .error f => f.report command
    | .ok r =>
      let input := r.input.getD "standard input"
      let output := r.output.getD "standard output"
      let opened : Except IoError Unit ← match r.input with
        | none => pure (.ok ())
        | some name => Proc.request (.openAt Proc.standardInput (Proc.pathOf name) .read)
      match opened with
      | .error e => failWith command s!"failed to open {Quoting.always input}: {e.reason}" 1
      | .ok () =>
        let made ← match r.output with
          | none => pure (.ok ())
          | some name => Blocks.openOutput r name
        match made with
        | .error e => failWith command s!"failed to open {Quoting.always output}: {e.reason}" 1
        | .ok () => Blocks.copy command r input output

end LinkBench.Host.Utility
