import LinkBench.Container.Alf.Version
/-!
Reading an ALF container. A cursor walks over the input; every item is read or fails as a whole,
and the failure names the position at which the item starts.
-/

namespace LinkBench.Alf

/-- A position in an input and the bytes from there on. -/
structure Cursor where
  position : Nat
  rest : Bytes
  deriving DecidableEq, Repr

/-- A step of reading. -/
abbrev Reader := StateT Cursor (Except FormatError)

namespace Reader

def fail {α : Type} (e : FormatError) : Reader α :=
  fun _ => .error e

def position : Reader Nat :=
  fun c => .ok (c.position, c)

/-- The number of bytes that are left. -/
def remaining : Reader Nat :=
  fun c => .ok (c.rest.length, c)

def word : Reader UInt32 := fun c =>
  match c.rest with
  | b₀ :: b₁ :: b₂ :: b₃ :: rest =>
    .ok (Word.ofLittleEndian b₀ b₁ b₂ b₃, ⟨c.position + 4, rest⟩)
  | _ => .error (.unexpectedEnd c.position)

/-- The next `count` bytes. -/
def bytes (count : Nat) : Reader Bytes := fun c =>
  let taken := c.rest.take count
  if taken.length = count then
    .ok (taken, ⟨c.position + count, c.rest.drop count⟩)
  else
    .error (.unexpectedEnd c.position)

/-- A byte string behind its length. -/
def lengthPrefixed : Reader Bytes := do
  let length ← word
  bytes length.toNat

/-- The same item `count` times. -/
def repeated {α : Type} (item : Reader α) : Nat → Reader (List α)
  | 0 => pure []
  | count + 1 => do
    let first ← item
    let others ← repeated item count
    return first :: others

end Reader

/-- A section as a container stores it. -/
structure StoredSection where
  address : UInt32
  size : UInt32
  bytes : Bytes
  deriving DecidableEq, Repr

/-- A container holds no section of size zero, so one without bytes is zero-initialised. -/
def StoredSection.isZeroed (s : StoredSection) : Bool :=
  s.bytes.isEmpty

/-- The contents of a container. -/
structure File where
  version : Version
  entryPoint : UInt32
  sections : List StoredSection
  symbols : List Symbol
  deriving DecidableEq, Repr

namespace Reader

/-- A section is either stored in full or not at all. -/
def storedSection : Reader StoredSection := do
  let address ← word
  let stored ← word
  let size ← word
  if size = 0 then
    fail (.emptySection address)
  else if stored ≠ 0 ∧ stored ≠ size then
    fail (.storedLengthMismatch address stored size)
  else
    let bytes ← bytes stored.toNat
    return { address, size, bytes }

/-- A symbol; any word but zero in its data flag means data. -/
def symbol (version : Version) : Reader Symbol := do
  let mangledName ← lengthPrefixed
  let demangledName ← lengthPrefixed
  let address ← word
  let size ← word
  let dataFlag ← word
  let sectionId ← word
  let extra ← if version.hasSymbolExtra then word else pure 0
  return { mangledName, demangledName, address, size, isData := dataFlag != 0, sectionId, extra }

/-- The symbol table, whose length field counts the bytes behind itself. -/
def symbolTable (version : Version) : Reader (List Symbol) := do
  let declared ← word
  let start ← position
  let count ← word
  let symbols ← repeated (symbol version) count.toNat
  let stop ← position
  if stop - start = declared.toNat then
    return symbols
  else
    fail (.symbolTableLength declared (stop - start))

/-- Two zero words, the second of which is read only if the first is zero. -/
def terminator : Reader Unit := do
  let start ← position
  let first ← word
  if first ≠ 0 then
    fail (.missingTerminator start)
  else
    let second ← word
    if second ≠ 0 then fail (.missingTerminator start)

/-- The end of the input. -/
def endOfInput : Reader Unit := do
  let count ← remaining
  if count ≠ 0 then fail (.trailingData count)

def file : Reader File := do
  let mark ← word
  if mark ≠ magic then
    fail (.badMagic mark)
  else
    let version ← Version.ofRaw (← word)
    let entryPoint ← word
    let sectionCount ← word
    let sections ← repeated storedSection sectionCount.toNat
    let symbols ← symbolTable version
    terminator
    endOfInput
    return { version, entryPoint, sections, symbols }

end Reader

/-- Reads a container that takes up the whole input. -/
def parse (input : Bytes) : Except FormatError File :=
  Reader.file.run' ⟨0, input⟩

end LinkBench.Alf
