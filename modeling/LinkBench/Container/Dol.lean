import LinkBench.Container.Image
/-!
DOL executables. A 256-byte header of big-endian words lists where each section is stored, where
it is loaded and how long it is; the payloads follow, text sections first, each right after the
one before. A slot of size zero is free, which no section can be mistaken for.
-/

namespace LinkBench.Dol

def headerSize : Nat := 256

/-- Where the header keeps the words of the slots of one kind. -/
structure SlotTable where
  kind : SectionKind
  capacity : Nat
  /-- The byte positions of the first offset, the first address and the first size. -/
  offsets : Nat
  addresses : Nat
  sizes : Nat

def textSlots : SlotTable := ⟨.text, 7, 0x00, 0x48, 0x90⟩

def dataSlots : SlotTable := ⟨.data, 11, 0x1c, 0x64, 0xac⟩

def bssAddressPosition : Nat := 0xd8

def bssSizePosition : Nat := 0xdc

def entryPointPosition : Nat := 0xe0

/-- One slot: where its bytes are in the file, and where in memory. -/
structure Segment where
  offset : UInt32
  address : UInt32
  size : UInt32
  deriving DecidableEq, Repr

/-- What the header of an executable says; the used slots only. -/
structure File where
  text : List Segment
  data : List Segment
  bssAddress : UInt32
  bssSize : UInt32
  entryPoint : UInt32
  deriving DecidableEq, Repr

/-! ### Writing -/

/-- Writes a word over the four bytes at `position`. -/
def putWord (out : Bytes) (position : Nat) (w : UInt32) : Bytes :=
  overwrite out position (Word.toBigEndian w)

/-- Fills in the slot number `index` of a table. -/
def SlotTable.fill (table : SlotTable) (out : Bytes) (index : Nat) (segment : Segment) : Bytes :=
  let out := putWord out (table.offsets + 4 * index) segment.offset
  let out := putWord out (table.addresses + 4 * index) segment.address
  putWord out (table.sizes + 4 * index) segment.size

def checkCapacity (table : SlotTable) (sections : List Section) : Except FormatError Unit :=
  if sections.length ≤ table.capacity then
    .ok ()
  else
    .error (.tooManySections table.kind sections.length table.capacity)

/-- The length of what is written, if it is a word. -/
def lengthWord (out : Bytes) : Except FormatError UInt32 :=
  if out.length < wordLimit then .ok (UInt32.ofNat out.length) else .error .imageTooLarge

/-- Appends the payloads of sections and fills in their slots from number `index` on. -/
def SlotTable.append (table : SlotTable) (out : Bytes) (index : Nat) :
    List Section → Except FormatError Bytes
  | [] => .ok out
  | s :: rest => do
    let offset ← lengthWord out
    let out := out ++ s.bytes
    let _ ← lengthWord out
    table.append (table.fill out index ⟨offset, s.address, s.storedSize⟩) (index + 1) rest

/-- The header before any slot is filled in. -/
def blankHeader (image : Image) : Bytes :=
  let out := List.replicate headerSize 0
  let out := match image.bss with
    | some bss => putWord (putWord out bssAddressPosition bss.address) bssSizePosition bss.size
    | none => out
  putWord out entryPointPosition image.entryPoint

/-- The executable for `image`, unless it has more sections than slots or exceeds 32-bit offsets. -/
def encode (image : Image) : Except FormatError Bytes := do
  checkCapacity textSlots image.text
  checkCapacity dataSlots image.data
  let out ← textSlots.append (blankHeader image) 0 image.text
  dataSlots.append out 0 image.data

/-! ### Reading -/

/-- The big-endian word at a byte position; zero where the input ends before it. -/
def wordAt (input : Bytes) (position : Nat) : UInt32 :=
  match input.drop position with
  | b₀ :: b₁ :: b₂ :: b₃ :: _ => Word.ofBigEndian b₀ b₁ b₂ b₃
  | _ => 0

/-- The slot number `index` of a table. -/
def SlotTable.slot (table : SlotTable) (input : Bytes) (index : Nat) : Segment where
  offset := wordAt input (table.offsets + 4 * index)
  address := wordAt input (table.addresses + 4 * index)
  size := wordAt input (table.sizes + 4 * index)

/-- The used slots of a table with their numbers. -/
def SlotTable.usedSlots (table : SlotTable) (input : Bytes) : List (Nat × Segment) :=
  ((List.range table.capacity).map fun index => (index, table.slot input index)).filter
    fun slot => slot.2.size != 0

/-- The segment lies behind the header and inside a file of `length` bytes. -/
def Segment.InBounds (segment : Segment) (length : Nat) : Prop :=
  headerSize ≤ segment.offset.toNat ∧ segment.offset.toNat + segment.size.toNat ≤ length

instance (segment : Segment) (length : Nat) : Decidable (segment.InBounds length) :=
  inferInstanceAs (Decidable (_ ∧ _))

/-- The used slots of a table, unless one of them points outside the file; the first one counts. -/
def SlotTable.read (table : SlotTable) (input : Bytes) : Except FormatError (List Segment) :=
  let slots := table.usedSlots input
  match slots.find? fun slot => !decide (slot.2.InBounds input.length) with
  | some (index, segment) =>
    .error (.slotOutOfBounds table.kind index segment.offset segment.size)
  | none => .ok (slots.map (·.2))

/-- Reads the header of an executable. -/
def parse (input : Bytes) : Except FormatError File := do
  if input.length < headerSize then
    throw (.unexpectedEnd input.length)
  let text ← textSlots.read input
  let data ← dataSlots.read input
  return {
    text, data
    bssAddress := wordAt input bssAddressPosition
    bssSize := wordAt input bssSizePosition
    entryPoint := wordAt input entryPointPosition
  }

end LinkBench.Dol
