import LinkBench.Container.Alf.Reader

/-!
# Reading by index

A reader that keeps the whole input and an index into it, as an array is read: the bytes left are
the length of the input less the index, and an item is the slice between two indices. Here the
arithmetic is not total. A difference that would be negative or a slice that does not lie in the
input halts the reading, and that is told apart from the errors of the format. Along the way the
reader leaves a trail of the indices it reaches and of the items that its two loops begin and
complete.
-/

namespace LinkBench.Alf

/-- The two loops of a container. -/
inductive Loop where
  | sections
  | symbols
  deriving DecidableEq, Repr

/-- The length of the shortest item of a loop: a section of which nothing is stored, and a symbol
without names. -/
def Loop.least : Loop → Nat
  | .sections => 12
  | .symbols => 24

inductive Mark where
  | reached (position : Nat)
  | begun (loop : Loop) (start : Nat)
  | completed (loop : Loop) (start stop : Nat)
  deriving DecidableEq, Repr

structure Trail where
  position : Nat
  marks : List Mark
  deriving DecidableEq, Repr

/-- Why a reading stops before its end. -/
inductive Halt where
  | error (e : FormatError)
  | outOfRange
  deriving DecidableEq, Repr

/-- A step of reading by index. The trail is kept when it fails. -/
abbrev Indexed := ReaderT Bytes (ExceptT Halt (StateM Trail))

namespace Indexed

variable {α : Type}

def runFrom (r : Indexed α) (input : Bytes) (trail : Trail) : Except Halt α × Trail :=
  (ReaderT.run r input).run.run trail

def fail (e : FormatError) : Indexed α :=
  fun _ trail => (.error (.error e), trail)

def outOfRange : Indexed α :=
  fun _ trail => (.error .outOfRange, trail)

def position : Indexed Nat :=
  fun _ trail => (.ok trail.position, trail)

def inputLength : Indexed Nat :=
  fun input trail => (.ok input.length, trail)

def note (mark : Mark) : Indexed Unit :=
  fun _ trail => (.ok (), { trail with marks := trail.marks ++ [mark] })

def advance (size : Nat) : Indexed Unit :=
  fun _ trail =>
    (.ok (), ⟨trail.position + size, trail.marks ++ [.reached (trail.position + size)]⟩)

def difference (upper lower : Nat) : Indexed Nat :=
  if lower ≤ upper then pure (upper - lower) else outOfRange

/-- The bytes of the input between two indices. -/
def slice (start stop : Nat) : Indexed Bytes :=
  fun input trail =>
    if start ≤ stop ∧ stop ≤ input.length then
      (.ok ((input.drop start).take (stop - start)), trail)
    else
      (.error .outOfRange, trail)

/-- The number of bytes that are left. -/
def remaining : Indexed Nat := do
  let length ← inputLength
  let position ← position
  difference length position

def bytes (size : Nat) : Indexed Bytes := do
  let left ← remaining
  let start ← position
  if size > left then
    fail (.unexpectedEnd start)
  else
    advance size
    let stop ← position
    slice start stop

def word : Indexed UInt32 := do
  let read ← bytes 4
  match read with
  | b₀ :: b₁ :: b₂ :: b₃ :: _ => pure (Word.ofLittleEndian b₀ b₁ b₂ b₃)
  | _ => outOfRange

def lengthPrefixed : Indexed Bytes := do
  let length ← word
  bytes length.toNat

/-- One turn of a loop. -/
def turn (loop : Loop) (item : Indexed α) : Indexed α := do
  let start ← position
  note (.begun loop start)
  let read ← item
  let stop ← position
  note (.completed loop start stop)
  return read

def repeated (loop : Loop) (item : Indexed α) : Nat → Indexed (List α)
  | 0 => pure []
  | count + 1 => do
    let first ← turn loop item
    let others ← repeated loop item count
    return first :: others

def version (raw : UInt32) : Indexed Version :=
  match Version.ofRaw raw with
  | .ok version => pure version
  | .error e => fail e

def storedSection : Indexed StoredSection := do
  let address ← word
  let stored ← word
  let size ← word
  if size = 0 then
    fail (.emptySection address)
  else if stored ≠ 0 ∧ stored ≠ size then
    fail (.storedLengthMismatch address stored size)
  else
    let bytes ← bytes stored.toNat
    return { address, size, bytes }

def symbol (version : Version) : Indexed Symbol := do
  let mangledName ← lengthPrefixed
  let demangledName ← lengthPrefixed
  let address ← word
  let size ← word
  let dataFlag ← word
  let sectionId ← word
  let extra ← (if version.hasSymbolExtra then word else pure 0)
  return { mangledName, demangledName, address, size, isData := dataFlag != 0, sectionId, extra }

def symbolTable (version : Version) : Indexed (List Symbol) := do
  let declared ← word
  let start ← position
  let count ← word
  let symbols ← repeated .symbols (symbol version) count.toNat
  let stop ← position
  let actual ← difference stop start
  if actual = declared.toNat then
    return symbols
  else
    fail (.symbolTableLength declared actual)

def terminator : Indexed Unit := do
  let start ← position
  let first ← word
  if first ≠ 0 then
    fail (.missingTerminator start)
  else
    let second ← word
    if second ≠ 0 then fail (.missingTerminator start)

def endOfInput : Indexed Unit := do
  let left ← remaining
  if left ≠ 0 then fail (.trailingData left)

def file : Indexed File := do
  let mark ← word
  if mark ≠ magic then
    fail (.badMagic mark)
  else
    let raw ← word
    let version ← version raw
    let entryPoint ← word
    let sectionCount ← word
    let sections ← repeated .sections storedSection sectionCount.toNat
    let symbols ← symbolTable version
    terminator
    endOfInput
    return { version, entryPoint, sections, symbols }

/-- What a reading of the whole input ends with. -/
def outcome (r : Indexed α) (input : Bytes) : Except Halt α :=
  (r.runFrom input ⟨0, []⟩).1

/-- The trail that a reading of the whole input leaves, however it ends. -/
def marks (r : Indexed α) (input : Bytes) : List Mark :=
  (r.runFrom input ⟨0, []⟩).2.marks

end Indexed

/-- The number of turns of a loop that a trail shows, the unfinished ones included. -/
def turns (loop : Loop) (marks : List Mark) : Nat :=
  marks.countP fun mark =>
    match mark with
    | .begun other _ => other = loop
    | _ => false

end LinkBench.Alf
