import LinkBench.Host.Floating
import LinkBench.Host.Utility.Amount
import LinkBench.Host.Utility.Options
import LinkBench.Host.Utility.Show
import LinkBench.Host.Utility.Versions
/-!
Sorting lines. Lines are compared by keys, one after the other, and last by their bytes; a key is a
part of a line and an order of such parts.
-/

namespace LinkBench.Host.Utility

namespace Sorting

/-- How the parts of lines are compared. Of the kinds of order, the first that is given counts. -/
structure Order where
  isNumeric : Bool
  isGeneral : Bool
  isHuman : Bool
  isMonth : Bool
  isVersion : Bool
  isRandom : Bool
  foldsCase : Bool
  isDictionary : Bool
  onlyPrintable : Bool
  reverses : Bool
  skipsStart : Bool
  skipsEnd : Bool
  deriving DecidableEq

def Order.plain : Order where
  isNumeric := false
  isGeneral := false
  isHuman := false
  isMonth := false
  isVersion := false
  isRandom := false
  foldsCase := false
  isDictionary := false
  onlyPrintable := false
  reverses := false
  skipsStart := false
  skipsEnd := false

/-- Which blanks the letter `b` has skipped. -/
inductive Reach
  | start
  | ending
  | both

/-- The order with one more letter. -/
def Order.with (o : Order) (reach : Reach) : Char → Option Order
  | 'n' => some { o with isNumeric := true }
  | 'g' => some { o with isGeneral := true }
  | 'h' => some { o with isHuman := true }
  | 'M' => some { o with isMonth := true }
  | 'V' => some { o with isVersion := true }
  | 'f' => some { o with foldsCase := true }
  | 'd' => some { o with isDictionary := true }
  | 'i' => some { o with onlyPrintable := true }
  | 'r' => some { o with reverses := true }
  | 'R' => some { o with isRandom := true }
  | 'b' => some (match reach with
    | .start => { o with skipsStart := true }
    | .ending => { o with skipsEnd := true }
    | .both => { o with skipsStart := true, skipsEnd := true })
  | _ => none

/-- The letters of the order that say what is compared, in the order of messages. -/
def Order.letters (o : Order) : List Char :=
  [(o.isDictionary, 'd'), (o.foldsCase, 'f'), (o.isGeneral, 'g'), (o.isHuman, 'h'),
    (o.onlyPrintable && !o.isDictionary, 'i'), (o.isMonth, 'M'), (o.isNumeric, 'n'),
    (o.isRandom, 'R'), (o.isVersion, 'V')].filterMap fun (isGiven, c) =>
      if isGiven then some c else none

/-- Whether at most one letter says what the parts of lines are. -/
def Order.isCoherent (o : Order) : Bool :=
  let kinds := [o.isNumeric, o.isGeneral, o.isHuman, o.isMonth,
    o.isVersion || o.isRandom || o.isDictionary || o.onlyPrintable]
  (kinds.filter id).length ≤ 1

/-- A part of a line: fields and characters that are skipped at its start, and how far it goes. -/
structure Key where
  fields : Nat
  characters : Nat
  /-- The fields and the characters up to the end; no characters stand for the whole last field. -/
  last : Option (Nat × Nat)
  order : Order

def isBlank (c : Char) : Bool := c == ' ' || c == '\t' || c == '\n'

/-- What follows the first fields of a line. -/
def withoutFields (separator : Option Char) : Nat → List Char → List Char
  | 0, cs => cs
  | n + 1, cs =>
    withoutFields separator n <|
      match separator with
      | some c => (cs.dropWhile (· != c)).drop 1
      | none => (cs.dropWhile isBlank).dropWhile fun c => !isBlank c

/-- What follows the last field of a key; the separator behind it stays. -/
def behindFields (separator : Option Char) (count : Nat) (cs : List Char) : List Char :=
  match separator, count with
  | some c, n + 1 => (withoutFields separator n cs).dropWhile (· != c)
  | _, n => withoutFields separator n cs

/-- The text of a key. -/
def Key.text (k : Key) (separator : Option Char) (line : List Char) : List Char :=
  let rest := withoutFields separator k.fields line
  let rest := if k.order.skipsStart then rest.dropWhile isBlank else rest
  let rest := rest.drop k.characters
  match k.last with
  | none => rest
  | some (fields, 0) =>
    let behind := behindFields separator (fields + 1) line
    rest.take (rest.length - behind.length)
  | some (fields, characters) =>
    let behind := withoutFields separator fields line
    let behind := if k.order.skipsEnd then behind.dropWhile isBlank else behind
    rest.take (rest.length - (behind.drop characters).length)

/-! ### Orders -/

/-- A decimal number at the start of a text; other texts count as zero. -/
def leadingNumber (cs : List Char) : Decimal × List Char :=
  let cs := cs.dropWhile isBlank
  let (negative, cs) := match cs with
    | '-' :: rest => (true, rest)
    | cs => (false, cs)
  let whole := cs.takeWhile (·.isDigit)
  let (fraction, rest) := match cs.drop whole.length with
    | '.' :: rest => (rest.takeWhile (·.isDigit), rest.dropWhile (·.isDigit))
    | rest => ([], rest)
  let n := Int.ofNat (Nat.ofDigitChars 10 (whole ++ fraction) 0)
  (⟨if negative then -n else n, fraction.length⟩, rest)

def compareNumbers (a b : Decimal) : Ordering :=
  let places := max a.places b.places
  compare (a.scaledTo places) (b.scaledTo places)

/-- A number with a unit: greater units come first. -/
def humanRank (cs : List Char) : Int × Decimal :=
  let (n, rest) := leadingNumber cs
  let unit := match rest with
    | c :: _ =>
      match "KMGTPEZY".toList.findIdx? (· == if c == 'k' then 'K' else c) with
      | some i => Int.ofNat (i + 1)
      | none => 0
    | [] => 0
  (if n.value < 0 then -unit else if n.value = 0 then 0 else unit, n)

def months : List String :=
  ["JAN", "FEB", "MAR", "APR", "MAY", "JUN", "JUL", "AUG", "SEP", "OCT", "NOV", "DEC"]

/-- The number of the month that a text begins with; zero if there is none. -/
def monthOf (cs : List Char) : Nat :=
  let name := String.ofList (((cs.dropWhile isBlank).take 3).map (·.toUpper))
  (months.findIdx? (· == name)).elim 0 (· + 1)

/-- Compares numbers in any notation; texts that are none come first. -/
def compareGeneral (a b : List Char) : Ordering :=
  match Floating.read Floating.longBits a, Floating.read Floating.longBits b with
  | none, none => .eq
  | none, some _ => .lt
  | some _, none => .gt
  | some (x, _), some (y, _) => x.order y

/-- The characters that count. -/
def Order.counted (o : Order) (cs : List Char) : List Char :=
  let cs := if o.isDictionary then cs.filter fun c => isBlank c || c.isAlphanum
    else if o.onlyPrintable then cs.filter Quoting.isPrintable
    else cs
  if o.foldsCase then cs.map (·.toUpper) else cs

def Order.compareTexts (o : Order) (a b : List Char) : Ordering :=
  if o.isNumeric then compareNumbers (leadingNumber a).1 (leadingNumber b).1
  else if o.isGeneral then compareGeneral a b
  else if o.isHuman then
    let (unitA, x) := humanRank a
    let (unitB, y) := humanRank b
    (compare unitA unitB).then (compareNumbers x y)
  else if o.isMonth then compare (monthOf a) (monthOf b)
  else if o.isVersion then Versions.compare a b
  else compare (o.counted a) (o.counted b)

def Order.compare (o : Order) (a b : List Char) : Ordering :=
  if o.reverses then (o.compareTexts a b).swap else o.compareTexts a b

/-! ### Lines -/

structure Style where
  keys : List Key
  order : Order
  separator : Option Char
  isUnique : Bool
  isStable : Bool

/-- Compares lines by keys only. -/
def Style.compareKeys (s : Style) (a b : List Char) : Ordering :=
  if s.keys.isEmpty then
    let blankless (cs : List Char) : List Char :=
      if s.order.skipsStart then cs.dropWhile isBlank else cs
    s.order.compare (blankless a) (blankless b)
  else
    s.keys.foldl (fun result k =>
      result.then (k.order.compare (k.text s.separator a) (k.text s.separator b))) .eq

def Style.compare (s : Style) (a b : List Char) : Ordering :=
  let result := s.compareKeys a b
  if s.isUnique ∨ s.isStable then result
  else
    let bytes := Ord.compare a b
    result.then (if s.order.reverses then bytes.swap else bytes)

/-- The first of the lines that are equal, if only one of them is wanted. -/
def Style.thinned (s : Style) (lines : List (List Char)) : List (List Char) :=
  if s.isUnique then
    (lines.splitBy fun a b => s.compareKeys a b == .eq).filterMap List.head?
  else lines

/-- The lines in order. -/
def Style.sort (s : Style) (lines : List (List Char)) : List (List Char) :=
  s.thinned (lines.mergeSort fun a b => s.compare a b != .gt)

/-- Puts lines together that are in order. -/
def Style.merge (s : Style) (inputs : List (List (List Char))) : List (List Char) :=
  s.thinned (inputs.foldl (fun merged lines => merged.merge lines fun a b => s.compare a b != .gt) [])

/-- The number and the text of the first line that is out of order. -/
def Style.firstDisorder? (s : Style) : Nat → List (List Char) → Option (Nat × List Char)
  | n, a :: b :: rest =>
    let result := s.compare a b
    if result == .gt ∨ (s.isUnique ∧ result == .eq) then some (n + 1, b)
    else s.firstDisorder? (n + 1) (b :: rest)
  | _, _ => none

/-! ### Keys in arguments -/

/-- Reads a number, and what follows it. -/
def number? (cs : List Char) : Option (Nat × List Char) :=
  let digits := cs.takeWhile (·.isDigit)
  if digits = [] then none else some (Nat.ofDigitChars 10 digits 0, cs.drop digits.length)

/-- Reads the letters behind a position. -/
def readLetters (reach : Reach) (o : Order) : List Char → Order × List Char
  | [] => (o, [])
  | c :: rest =>
    match o.with reach c with
    | some o => readLetters reach o rest
    | none => (o, c :: rest)

/-- A number at the start of a text, and what follows it. -/
def readCount (problem : String) (cs : List Char) : Except String (Nat × List Char) :=
  match number? cs with
  | some x => .ok x
  | none => .error s!"{problem}: invalid count at start of {Quoting.quoted (String.ofList cs)}"

def badKey (spec problem : String) : String :=
  s!"{problem}: invalid field specification {Quoting.quoted spec}"

/-- Reads a field and, behind a point, a character in it. -/
def readPosition (problem spec : String) (cs : List Char) :
    Except String (Nat × Option Nat × List Char) := do
  let (field, rest) ← readCount problem cs
  if field = 0 then
    throw (badKey spec "field number is zero")
  match rest with
  | '.' :: behind =>
    let (character, rest) ← readCount "invalid number after '.'" behind
    return (field, some character, rest)
  | rest => return (field, none, rest)

/-- Reads a key. -/
def readKey (spec : String) : Except String Key := do
  let (field, character, rest) ← readPosition "invalid number at field start" spec spec.toList
  if character = some 0 then
    throw (badKey spec "character offset is zero")
  let (order, rest) := readLetters .start .plain rest
  let (last, order, rest) ← match rest with
    | ',' :: behind => do
      let (lastField, lastCharacter, rest) ← readPosition "invalid number after ','" spec behind
      let (order, rest) := readLetters .ending order rest
      pure (some (lastField - 1, lastCharacter.getD 0), order, rest)
    | rest => pure (none, order, rest)
  if rest ≠ [] then
    throw (badKey spec "stray character in field spec")
  return {
    fields := field - 1
    characters := character.getD 1 - 1
    last
    order }

/-! ### The program -/

/-- What the program is asked for. -/
inductive Task
  | sort
  | merge
  /-- Says where the order is broken first; keeps silent about it if so asked. -/
  | check (isQuiet : Bool)

structure Request where
  style : Style
  task : Task
  output : Option String
  /-- A file that lists the inputs. -/
  inputList : Option String

def Request.start : Request where
  style := ⟨[], .plain, none, false, false⟩
  task := .sort
  output := none
  inputList := none

/-- Why a request is refused, and whether help is to be had. -/
inductive Fault
  | plain (text : String)
  | usage (text : String)

def kinds : Choices Char :=
  [("general-numeric", 'g'), ("human-numeric", 'h'), ("month", 'M'), ("numeric", 'n'),
    ("random", 'R'), ("version", 'V')]

def checks : Choices Bool :=
  [("quiet", true), ("silent", true), ("diagnose-first", false)]

/-- The letters of options as they are named together. -/
def incompatible (letters : List Char) : Fault :=
  .plain s!"options '-{String.ofList letters}' are incompatible"

/-- A task other than the one of the last such option. -/
def Request.checking (r : Request) (isQuiet : Bool) : Except Fault Request :=
  match r.task with
  | .check before =>
    if before = isQuiet then .ok r else .error (incompatible ['c', 'C'])
  | _ => .ok { r with task := .check isQuiet }

/-- The separator that an argument names. -/
def separatorOf (text : String) : Except Fault Char :=
  match text.toList with
  | ['\\', '0'] => .ok '\x00'
  | [c] => .ok c
  | [] => .error (.plain "empty tab")
  | _ => .error (.plain s!"multi-character tab {Quoting.quoted text}")

/-- A request with one more option. -/
def Request.with (r : Request) (option : String × String) : Except Fault Request := do
  let (key, value) := option
  let style := r.style
  let ordered (c : Char) : Request :=
    { r with style := { style with order := (style.order.with .both c).getD style.order } }
  match key with
  | "k" =>
    match readKey value with
    | .ok k => return { r with style := { style with keys := style.keys ++ [k] } }
    | .error text => throw (.plain text)
  | "t" =>
    let c ← separatorOf value
    if style.separator.any (· != c) then
      throw (.plain "incompatible tabs")
    return { r with style := { style with separator := some c } }
  | "u" => return { r with style := { style with isUnique := true } }
  | "s" => return { r with style := { style with isStable := true } }
  | "m" => return { r with task := match r.task with
    | .check isQuiet => .check isQuiet
    | _ => .merge }
  | "c" => r.checking false
  | "C" => r.checking true
  | "check" =>
    if value = "" then r.checking false
    else
      match checks.find value with
      | .ok isQuiet => r.checking isQuiet
      | .error f => throw (.usage (checks.complaint "--check" value f))
  | "sort" =>
    match kinds.find value with
    | .ok c => return ordered c
    | .error f => throw (.usage (kinds.complaint "--sort" value f))
  | "o" =>
    if r.output.any (· != value) then
      throw (.plain "multiple output files specified")
    return { r with output := some value }
  | "S" =>
    -- a percentage is one of the memory
    let size := if value.endsWith "%" then (value.dropEnd 1).toString else value
    match Amount.read "bEgGkKmMPtTYZ" size with
    | .error fault => throw (.plain (fault.complaint "-S" value))
    | .ok _ => return r
  | "parallel" =>
    match Amount.read "" value with
    | .error fault => throw (.plain (fault.complaint "--parallel" value))
    | .ok 0 => throw (.plain "number in parallel must be nonzero")
    | .ok _ => return r
  | "files0-from" => return { r with inputList := some value }
  | key => return key.toList.foldl (fun _ c => ordered c) r

/-- The request that options make. Keys without letters have the order of all lines. -/
def request (given : Given) : Except Fault Request := do
  let r ← given.foldlM Request.with .start
  let keys := r.style.keys.map fun k =>
    if k.order = .plain then { k with order := r.style.order } else k
  let style := { r.style with keys }
  match (style.order :: keys.map (·.order)).find? fun o => !o.isCoherent with
  | some o => throw (incompatible o.letters)
  | none => return { r with style }

def flags : List Flag :=
  [Options.flag "b" "ignore-leading-blanks", Options.flag "c" "", Options.flag "C" "",
    Options.optional "check" "check", Options.valued "compress-program" "compress-program",
    Options.flag "debug" "debug", Options.flag "d" "dictionary-order",
    Options.flag "f" "ignore-case", Options.valued "files0-from" "files0-from",
    Options.flag "g" "general-numeric-sort", Options.flag "i" "ignore-nonprinting",
    Options.valued "k" "key", Options.flag "m" "merge", Options.flag "M" "month-sort",
    Options.flag "n" "numeric-sort", Options.flag "h" "human-numeric-sort",
    Options.flag "V" "version-sort", Options.flag "R" "random-sort",
    Options.valued "random-source" "random-source", Options.valued "sort" "sort",
    Options.valued "o" "output", Options.flag "r" "reverse", Options.flag "s" "stable",
    Options.valued "batch-size" "batch-size", Options.valued "S" "buffer-size",
    Options.valued "t" "field-separator", Options.valued "T" "temporary-directory",
    Options.flag "u" "unique", Options.flag "z" "zero-terminated",
    Options.valued "parallel" "parallel"]

/-- Reads all inputs; the first that cannot be read ends the program. -/
def readInputs (ending : Char) : List String → Proc (Except String (List (List (List Char))))
  | [] => return .ok []
  | name :: rest => do
    match ← textOf name with
    | .error (.opening e) => return .error s!"cannot read: {Quoting.named name}: {e.reason}"
    | .error (.reading e) => return .error s!"read failed: {Quoting.named name}: {e.reason}"
    | .ok text =>
      let lines := (Records.split ending text).1.map String.toList
      return (← readInputs ending rest).map (lines :: ·)

/-- The first of the files that cannot be opened. -/
def firstMissing : List String → Proc (Option (String × IoError))
  | [] => return none
  | name :: rest => do
    match ← Proc.openInput name with
    | .error e => return some (name, e)
    | .ok descriptor => do
      Proc.closeInput descriptor
      firstMissing rest

/-- Puts out the sorted lines. -/
def writeLines (command target : String) (ending : Char) (lines : List (List Char)) : Proc Nat := do
  match ← Proc.write Proc.standardOutput (Records.joined ending (lines.map String.ofList)) with
  | .ok () => return 0
  | .error e =>
    complain command s!"fflush failed: {Quoting.named target}: {e.reason}"
    failWith command "write error" 2

/-- Says where lines are out of order. -/
def checkLines (command name : String) (r : Request) (ending : Char) (lines : List (List Char)) :
    Proc Nat := do
  match r.task, r.style.firstDisorder? 1 lines with
  | .check false, some (n, line) => do
    Proc.printError (s!"{command}: {name}:{n}: disorder: " ++ String.ofList line ++
      String.singleton ending)
    return 1
  | _, found => return if found.isSome then 1 else 0

/-- Sorts or merges the inputs. The output is opened before anything is read, so that a file may be
sorted in place. -/
def writeSorted (command : String) (r : Request) (ending : Char) (names : List String) :
    Proc Nat := do
  if let some (name, e) ← firstMissing (names.filter (· != "-")) then
    return ← failWith command s!"cannot read: {Quoting.named name}: {e.reason}" 2
  if let some target := r.output then
    let opened : Except IoError Unit ←
      Proc.request (.openAt 20 (Proc.pathOf target) .append)
    match opened with
    | .ok () => (Proc.request (.close 20) : Proc Unit)
    | .error e => return ← failWith command s!"open failed: {Quoting.named target}: {e.reason}" 2
  match ← readInputs ending names with
  | .error text => failWith command text 2
  | .ok inputs =>
    let lines := match r.task with
      | .merge => r.style.merge inputs
      | _ => r.style.sort inputs.flatten
    match r.output with
    | none => writeLines command "standard output" ending lines
    | some target =>
      let opened : Except IoError Unit ←
        Proc.request (.openAt Proc.standardOutput (Proc.pathOf target) .write)
      match opened with
      | .ok () => writeLines command target ending lines
      | .error e => failWith command s!"open failed: {Quoting.named target}: {e.reason}" 2

/-- The inputs: the operands, or those that a file lists, each with a zero behind it. -/
def inputs (r : Request) (operands : List String) : Proc (Except Fault (List String)) := do
  match r.inputList, operands with
  | none, operands => return .ok (inputNames operands)
  | some _, operand :: _ =>
    return .error (.usage (s!"extra operand {Quoting.always operand}\n" ++
      "file operands cannot be combined with --files0-from"))
  | some file, [] =>
    match ← textOf file with
    | .error r =>
      return .error (.plain s!"open failed: {Quoting.named file}: {r.reason}")
    | .ok text =>
      match (Records.split '\x00' text).1 with
      | [] => return .error (.plain s!"no input from {Quoting.always file}")
      | names => return .ok names

end Sorting

def sort : List String → Proc Nat := fun arguments =>
  withOptions Sorting.flags true 2 arguments fun command given operands => do
    let refuse : Sorting.Fault → Proc Nat
      | .plain text => failWith command text 2
      | .usage text => refuseUse command text 2
    let ending := given.recordEnd
    match Sorting.request given with
    | .error f => refuse f
    | .ok r =>
      match ← Sorting.inputs r operands with
      | .error f => refuse f
      | .ok names =>
        match r.task, names, r.output with
        | .check isQuiet, _ :: extra :: _, _ =>
          let letter := if isQuiet then "C" else "c"
          failWith command s!"extra operand {Quoting.always extra} not allowed with -{letter}" 2
        | .check isQuiet, _, some _ =>
          refuse (Sorting.incompatible [if isQuiet then 'C' else 'c', 'o'])
        | .check _, names, none =>
          match ← Sorting.readInputs ending names with
          | .error text => failWith command text 2
          | .ok inputs => Sorting.checkLines command (names.headD "-") r ending inputs.flatten
        | _, names, _ => Sorting.writeSorted command r ending names

end LinkBench.Host.Utility
