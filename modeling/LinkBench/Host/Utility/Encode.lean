import LinkBench.Host.Digest
import LinkBench.Host.Utility.Amount
import LinkBench.Host.Utility.Show
/-!
Programs that show bytes in another form: checksums, digests, texts of 32 or 64 letters, and numbers in
columns.
-/

namespace LinkBench.Host.Utility

def hexText (bytes : Bytes) : String :=
  String.ofList (bytes.flatMap fun b => (Nat.toDigits 16 b.toNat).leftpad 2 '0')

/-! ### Checksums -/

def cksum : List String → Proc Nat := fun arguments =>
  withOptions [] true 1 arguments fun command _ operands =>
    withTexts command (inputNames operands) fun name text =>
      let bytes := ByteText.toBytes text
      let ending := if operands.isEmpty then "" else " " ++ name
      emit command s!"{(Digest.crc bytes).toNat} {bytes.length}{ending}\n" 0

def sum : List String → Proc Nat := fun arguments =>
  withOptions [Options.flag "r" "", Options.flag "s" "sysv"] true 1 arguments
    fun command given operands =>
      withTexts command (inputNames operands) fun name text =>
        let bytes := ByteText.toBytes text
        let ending := if operands.isEmpty then "" else " " ++ name
        if given.has "s" then
          let total := bytes.foldl (fun n b => n + b.toNat) 0
          let folded := total % 65536 + total % 4294967296 / 65536
          let check := folded % 65536 + folded / 65536
          let blocks := (bytes.length + 511) / 512
          emit command s!"{check} {blocks}{ending}\n" 0
        else
          let check := String.ofList
            ((toString (Digest.turningSum bytes)).toList.leftpad 5 '0')
          let blocks := rightAligned 5 (toString ((bytes.length + 1023) / 1024))
          emit command s!"{check} {blocks}{ending}\n" 0

/-- The name of a file on a line with a digest, and whether the line begins with a mark for it. -/
def digestName (name : String) : String × Bool :=
  let cs := name.toList
  if cs.any fun c => c == '\\' || c == '\n' then
    (String.ofList (cs.flatMap fun c =>
      if c = '\\' then ['\\', '\\'] else if c = '\n' then ['\\', 'n'] else [c]), true)
  else
    (name, false)

/-- A digest and a name on a line of a list. -/
def listedDigest? (line : String) : Option (String × String) :=
  let cs := line.toList
  let digits := cs.takeWhile (· != ' ')
  match cs.drop digits.length with
  | ' ' :: c :: name =>
    if (c = ' ' ∨ c = '*') ∧ digits ≠ [] ∧ name ≠ [] then
      some (String.ofList digits, String.ofList name)
    else none
  | _ => none

/-- Checks the digests that a list holds. -/
def checkDigests (digest : Bytes → Bytes) (given : Given) (command name text : String) :
    Proc Nat := do
  let entries := (splitLines text).1.filterMap listedDigest?
  if entries.isEmpty then
    return ← failWith command
      s!"{Quoting.named name}: no properly formatted checksum lines found" 1
  let results ← entries.mapM fun (digits, file) => do
    let isQuiet := given.has "quiet" || given.has "status"
    match ← textOf file with
    | .error r =>
      complain command s!"{Quoting.named file}: {r.reason}"
      if !given.has "status" then
        Proc.print s!"{file}: FAILED open or read\n"
      return (true, true)
    | .ok text =>
      let isGood := hexText (digest (ByteText.toBytes text)) == digits.toLower
      if isGood then
        if !isQuiet then Proc.print s!"{file}: OK\n"
      else if !given.has "status" then Proc.print s!"{file}: FAILED\n"
      return (!isGood, false)
  let unread := (results.filter (·.2)).length
  let different := (results.filter fun (bad, unread) => bad && !unread).length
  if !given.has "status" then
    if unread = 1 then complain command "WARNING: 1 listed file could not be read"
    else if 1 < unread then complain command s!"WARNING: {unread} listed files could not be read"
    if different = 1 then complain command "WARNING: 1 computed checksum did NOT match"
    else if 1 < different then
      complain command s!"WARNING: {different} computed checksums did NOT match"
  return if results.any (·.1) then 1 else 0

/-- The program that prints digests of one kind, each in front of the name of its file. -/
def digestProgram (label : String) (digest : Bytes → Bytes) : List String → Proc Nat :=
  let flags := [Options.flag "b" "binary", Options.flag "t" "text", Options.flag "c" "check",
    Options.flag "tag" "tag", Options.flag "quiet" "quiet", Options.flag "status" "status",
    Options.flag "w" "warn", Options.flag "strict" "strict", Options.flag "z" "zero",
    Options.flag "ignore-missing" "ignore-missing"]
  fun arguments => withOptions flags true 1 arguments fun command given operands =>
    withTexts command (inputNames operands) fun name text =>
      if given.has "c" then
        checkDigests digest given command name text
      else
        let shown := hexText (digest (ByteText.toBytes text))
        let (name, isMarked) := digestName name
        let mark := if isMarked then "\\" else ""
        let kind := if given.has "b" then "*" else " "
        if given.has "tag" then
          emit command s!"{mark}{label} ({name}) = {shown}\n" 0
        else
          emit command s!"{mark}{shown} {kind}{name}\n" 0

/-! ### Letters for bits -/

/-- A form in which a letter stands for some bits. -/
structure Letters where
  alphabet : List Char
  bits : Nat
  /-- The number of letters that stand for whole bytes. -/
  group : Nat

namespace Letters

def base64 : Letters where
  alphabet := "ABCDEFGHIJKLMNOPQRSTUVWXYZabcdefghijklmnopqrstuvwxyz0123456789+/".toList
  bits := 6
  group := 4

def base32 : Letters where
  alphabet := "ABCDEFGHIJKLMNOPQRSTUVWXYZ234567".toList
  bits := 5
  group := 8

/-- The number of bytes that a group of letters stands for. -/
def width (l : Letters) : Nat := l.bits * l.group / 8

/-- The letters of up to `width` bytes, filled up to a group. -/
def encodeGroup (l : Letters) (bytes : Bytes) : List Char :=
  let value := Digest.ofBigEndian bytes * Nat.pow 256 (l.width - bytes.length)
  let used := (bytes.length * 8 + l.bits - 1) / l.bits
  let letters := (List.range used).map fun i =>
    l.alphabet.getD (value / Nat.pow 2 (l.bits * (l.group - 1 - i)) % Nat.pow 2 l.bits) '='
  letters.rightpad l.group '='

def encode (l : Letters) (bytes : Bytes) : List Char :=
  (Digest.blocks l.width bytes).flatMap l.encodeGroup

/-- The bytes of a group, if it is one. -/
def decodeGroup? (l : Letters) (group : List Char) : Option Bytes := do
  let letters := group.takeWhile (· != '=')
  if group.length ≠ l.group ∨ !(group.drop letters.length).all (· == '=') then
    none
  let digits ← letters.mapM fun c => l.alphabet.findIdx? (· == c)
  let value := (digits.rightpad l.group 0).foldl (fun n d => n * Nat.pow 2 l.bits + d) 0
  let count := letters.length * l.bits / 8
  if count = 0 then none
  return (Digest.bigEndian l.width value).take count

/-- The bytes of groups one after the other, and whether all of them could be read. -/
def decode (l : Letters) : Nat → List Char → Bytes × Bool
  | 0, _ | _, [] => ([], true)
  | fuel + 1, cs =>
    match l.decodeGroup? (cs.take l.group) with
    | none =>
      let whole := cs.takeWhile fun c => l.alphabet.contains c
      let count := min whole.length (l.group - 1) * l.bits / 8
      let padded := (whole.take (l.group - 1)).rightpad l.group 'A'
      (((l.decodeGroup? padded).getD []).take count, false)
    | some bytes =>
      let (rest, isGood) := l.decode fuel (cs.drop l.group)
      (bytes ++ rest, isGood)

end Letters

/-- Breaks a text into lines of a length; zero stands for one line without an end. -/
def wrapped (width : Nat) (cs : List Char) : List Char :=
  if width = 0 then cs
  else (chunked width (cs.length + 1) cs).flatMap (· ++ ['\n'])
where
  chunked (width : Nat) : Nat → List Char → List (List Char)
    | 0, _ | _, [] => []
    | fuel + 1, cs => cs.take width :: chunked width fuel (cs.drop width)

def lettersProgram (l : Letters) : List String → Proc Nat :=
  let flags := [Options.flag "d" "decode", Options.flag "i" "ignore-garbage",
    Options.valued "w" "wrap"]
  fun arguments => withOptions flags true 1 arguments fun command given operands => do
    match operands with
    | _ :: extra :: _ => extraOperand command extra
    | operands =>
      let name := operands.headD "-"
      match ← textOf name with
      | .error (.opening e) => failWith command s!"{Quoting.named name}: {e.reason}" 1
      | .error (.reading e) => failWith command s!"read error: {e.reason}" 1
      | .ok text =>
        if given.has "d" then
          let isKept (c : Char) : Bool :=
            if given.has "i" then l.alphabet.contains c || c == '=' else c != '\n'
          let cs := text.toList.filter isKept
          let (bytes, isGood) := l.decode (cs.length + 1) cs
          Proc.printBytes bytes
          if isGood then return 0 else failWith command "invalid input" 1
        else
          let shown := (given.last? "w").getD "76"
          match Amount.read? "" shown with
          | none => failWith command s!"invalid wrap size: {Quoting.quoted shown}" 1
          | some width =>
            emit command (String.ofList (wrapped width (l.encode (ByteText.toBytes text)))) 0

/-! ### Numbers in columns -/

namespace Dump

/-- How the values of a column are written. -/
inductive Form
  | named
  | char
  | signed
  | unsigned
  | octal
  | hex
  deriving DecidableEq

structure Column where
  form : Form
  size : Nat
  /-- Whether the text of the line stands behind it. -/
  showsText : Bool

/-- The number of characters of a value. -/
def Column.width (c : Column) : Nat :=
  let bySize (one two four eight : Nat) : Nat :=
    match c.size with
    | 1 => one
    | 2 => two
    | 4 => four
    | _ => eight
  match c.form with
  | .named | .char => 3
  | .signed => bySize 4 6 11 20
  | .unsigned => bySize 3 5 10 20
  | .octal => bySize 3 6 11 22
  | .hex => bySize 2 4 8 16

def names : List String :=
  ["nul", "soh", "stx", "etx", "eot", "enq", "ack", "bel", "bs", "ht", "nl", "vt", "ff", "cr", "so",
    "si", "dle", "dc1", "dc2", "dc3", "dc4", "nak", "syn", "etb", "can", "em", "sub", "esc", "fs",
    "gs", "rs", "us", "sp"]

def digits (base width n : Nat) : String :=
  String.ofList ((Nat.toDigits base n).leftpad width '0')

/-- A value, its lowest byte first. -/
def Column.value (c : Column) (bytes : Bytes) : String :=
  let n := Digest.ofBigEndian bytes.reverse
  match c.form with
  | .hex => digits 16 c.width n
  | .octal => digits 8 c.width n
  | .unsigned => toString n
  | .signed =>
    let limit := Nat.pow 256 c.size
    if limit ≤ 2 * n then s!"-{limit - n}" else toString n
  | .named =>
    let n := n % 128
    if n = 127 then "del" else names.getD n (String.singleton (Char.ofNat n))
  | .char =>
    let c := Char.ofNat n
    if Quoting.isPrintable c then String.singleton c
    else if n = 0 then "\\0"
    else
      match Quoting.controlLetters.lookup c with
      | some letter => String.ofList ['\\', letter]
      | none => digits 8 3 n

/-- The values of a line; `total` is the width that the longest column needs for a whole one. -/
def Column.row (c : Column) (perLine total : Nat) (bytes : Bytes) : String :=
  let fields := perLine / c.size
  let values := Digest.blocks c.size bytes
  let padding := total - fields * (c.width + 1)
  let shown := values.zipIdx.map fun (value, i) =>
    let left := fields - i
    let extra := padding * left / fields - padding * (left - 1) / fields
    rightAligned (c.width + 1 + extra) (c.value value)
  let body := String.join shown
  if c.showsText then
    let gap := String.ofList (List.replicate (total - body.length) ' ')
    let text := bytes.map fun b =>
      let c := ByteText.ofByte b
      if Quoting.isPrintable c then c else '.'
    s!"{body}{gap}  >{String.ofList text}<"
  else
    body

/-- The size behind the letter of a form, and what follows it. -/
def size? (cs : List Char) : Option (Nat × List Char) :=
  match cs with
  | 'C' :: rest => some (1, rest)
  | 'S' :: rest => some (2, rest)
  | 'I' :: rest => some (4, rest)
  | 'L' :: rest => some (8, rest)
  | cs =>
    let digits := cs.takeWhile (·.isDigit)
    let size := if digits = [] then 4 else Nat.ofDigitChars 10 digits 0
    if size ∈ [1, 2, 4, 8] then some (size, cs.drop digits.length) else none

def formLetters : List (Char × Form) :=
  [('a', .named), ('c', .char), ('d', .signed), ('u', .unsigned), ('o', .octal), ('x', .hex)]

/-- Reads the form and the size of a column. -/
def column? (cs : List Char) : Option (Column × List Char) := do
  match cs with
  | c :: rest =>
    let form ← formLetters.lookup c
    let (size, rest) ← match form with
      | .named | .char => some (1, rest)
      | _ => size? rest
    match rest with
    | 'z' :: rest => return (⟨form, size, true⟩, rest)
    | rest => return (⟨form, size, false⟩, rest)
  | [] => none

/-- Reads columns one after the other, such as `x1c`. The fuel bounds their number. -/
def columns? : Nat → List Char → Option (List Column)
  | 0, _ | _, [] => some []
  | fuel + 1, cs => do
    let (column, rest) ← column? cs
    return column :: (← columns? fuel rest)

/-- The old options that stand for columns. -/
def shortcuts : List (String × Column) :=
  [("b", ⟨.octal, 1, false⟩), ("c", ⟨.char, 1, false⟩), ("a", ⟨.named, 1, false⟩),
    ("d", ⟨.unsigned, 2, false⟩), ("o", ⟨.octal, 2, false⟩), ("x", ⟨.hex, 2, false⟩),
    ("i", ⟨.signed, 4, false⟩), ("s", ⟨.signed, 2, false⟩), ("l", ⟨.signed, 8, false⟩)]

/-- The offset at the start of a line. -/
def address (radix : String) (n : Nat) : String :=
  match radix with
  | "d" => digits 10 7 n
  | "x" => digits 16 6 n
  | "n" => ""
  | _ => digits 8 7 n

/-- The lines of a dump; lines equal to the one before are shown as one star. -/
def lines (columns : List Column) (radix : String) (perLine : Nat) (showsAll : Bool) :
    Nat → Option Bytes → Bool → List Bytes → List String
  | offset, _, _, [] => if radix = "n" then [] else [address radix offset]
  | offset, last, isStarred, bytes :: rest =>
    let isRepeated := !showsAll && last == some bytes && bytes.length == perLine && !rest.isEmpty
    if isRepeated then
      let others := lines columns radix perLine showsAll (offset + bytes.length) last true rest
      if isStarred then others else "*" :: others
    else
      let total := (columns.map fun c => perLine / c.size * (c.width + 1)).foldl max 0
      let label := address radix offset
      let margin := String.ofList (List.replicate label.length ' ')
      let rows := columns.zipIdx.map fun (c, i) =>
        (if i = 0 then label else margin) ++ c.row perLine total bytes
      rows ++ lines columns radix perLine showsAll (offset + bytes.length) (some bytes) false rest

end Dump

/-- The number that an option gives. -/
def Dump.amount (given : Given) (key : String) (usual : Nat) : Except String Nat :=
  match given.last? key with
  | none => .ok usual
  | some "" => .ok 32
  | some text =>
    match Amount.read "bEGkKmMPTYZ" text with
    | .ok n => .ok n
    | .error fault => .error (fault.complaint s!"-{key}" text)

def od : List String → Proc Nat :=
  let flags := [Options.valued "A" "address-radix", Options.valued "t" "format",
    Options.valued "N" "read-bytes", Options.valued "j" "skip-bytes",
    Options.flag "v" "output-duplicates", Options.optional "w" "width"] ++
    Dump.shortcuts.map fun (key, _) => Options.flag key ""
  fun arguments => withOptions flags true 1 arguments fun command given operands => do
    let columns? := given.foldlM (fun columns (key, value) =>
      if key = "t" then
        match Dump.columns? (value.length + 1) value.toList with
        | some more => Except.ok (columns ++ more)
        | none => .error s!"invalid type string {Quoting.quoted value}"
      else
        .ok (columns ++ ((Dump.shortcuts.lookup key).toList))) ([] : List Dump.Column)
    match columns? with
    | .error text => failWith command text 1
    | .ok columns =>
      let columns := if columns.isEmpty then [⟨.octal, 2, false⟩] else columns
      let radix := (given.last? "A").getD "o"
      if radix ∉ ["d", "o", "x", "n"] then
        failWith command s!"invalid output address radix '{radix}'; it must be one character from [doxn]" 1
      else
        match Dump.amount given "j" 0, Dump.amount given "N" Amount.tooMany,
            Dump.amount given "w" 16 with
        | .error text, _, _ | _, .error text, _ | _, _, .error text => failWith command text 1
        | .ok skipped, .ok limit, .ok width =>
          let (texts, status) ← allTexts command (inputNames operands)
          let bytes := ByteText.toBytes (String.join texts)
          if bytes.length < skipped then
            return max status (← failWith command "cannot skip past end of combined input" 1)
          else
            let bytes := (bytes.drop skipped).take limit
            let perLine := max 1 width
            let shown := Dump.lines columns radix perLine (given.has "v") skipped none false
              (Digest.blocks perLine bytes)
            emit command (joinLines shown) status

end LinkBench.Host.Utility
