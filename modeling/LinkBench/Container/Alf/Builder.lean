import LinkBench.Container.Alf.Version
/-!
Writing an ALF container piece by piece. A builder is a state machine: sections come first, then
a symbol table is opened with the number of its symbols, then the symbols follow. The length of
the table is not known when it is opened, so its field holds zero until `Builder.finish` fills it
in. A call that fails may still have changed the builder, and the run may go on after it. Sections
and symbols are counted in words, which begin at zero again behind the last one.
-/

namespace LinkBench.Alf

/-- An open symbol table. -/
structure SymbolTable where
  /-- The position of the length field in the bytes written so far. -/
  start : Nat
  declared : UInt32
  /-- The symbols pushed since the table was opened, rejected ones included. -/
  pushed : UInt32
  deriving DecidableEq, Repr

structure Builder where
  version : Version
  /-- The number of sections that the header declares. -/
  sectionCount : UInt32
  bytes : Bytes
  sectionsPushed : UInt32
  table : Option SymbolTable
  deriving DecidableEq, Repr

namespace Builder

/-- A container with its magic word, version, entry point and section count. -/
def start (version : Version) (entryPoint sectionCount : UInt32) : Builder where
  version := version
  sectionCount := sectionCount
  bytes := Word.toLittleEndian magic ++ Word.toLittleEndian version.raw ++
    Word.toLittleEndian entryPoint ++ Word.toLittleEndian sectionCount
  sectionsPushed := 0
  table := none

def append (b : Builder) (bytes : Bytes) : Builder :=
  { b with bytes := b.bytes ++ bytes }

/-- Appends a section; `payload` is absent for a zero-initialised one. No section may follow the
opening of a symbol table. -/
def pushSection (b : Builder) (address size : UInt32) (payload : Option Bytes) :
    Except FormatError Unit × Builder :=
  match b.table with
  | some _ => (.error (.sectionCountMismatch b.sectionCount (b.sectionsPushed + 1)), b)
  | none =>
    let b := { b with sectionsPushed := b.sectionsPushed + 1 }.append (Word.toLittleEndian address)
    let stored := payload.getD []
    if stored.length < wordLimit then
      (.ok (), b.append (Word.toLittleEndian (UInt32.ofNat stored.length) ++
        Word.toLittleEndian size ++ stored))
    else
      (.error .imageTooLarge, b)

/-- Opens a symbol table for `count` symbols, provided that all declared sections are written.
Opening another one leaves the earlier table's bytes where they are. -/
def beginSymbolTable (b : Builder) (count : UInt32) : Except FormatError Unit × Builder :=
  if b.sectionsPushed = b.sectionCount then
    (.ok (), { b with table := some ⟨b.bytes.length, count, 0⟩ }.append
      (Word.toLittleEndian 0 ++ Word.toLittleEndian count))
  else
    (.error (.sectionCountMismatch b.sectionCount b.sectionsPushed), b)

/-- Appends the bytes of a symbol record, up to the first name that is too long. -/
def appendSymbol (b : Builder) (symbol : Symbol) : Except FormatError Unit × Builder :=
  if symbol.mangledName.length < wordLimit then
    let b := b.append (lengthPrefixed symbol.mangledName)
    if symbol.demangledName.length < wordLimit then
      (.ok (), b.append (lengthPrefixed symbol.demangledName ++ symbolTail b.version symbol))
    else
      (.error .imageTooLarge, b)
  else
    (.error .imageTooLarge, b)

/-- Counts a symbol against the open table and appends its record if the table has room for it. -/
def pushSymbolInto (b : Builder) (table : SymbolTable) (symbol : Symbol) :
    Except FormatError Unit × Builder :=
  let table := { table with pushed := table.pushed + 1 }
  let b := { b with table := some table }
  if table.pushed ≤ table.declared then
    b.appendSymbol symbol
  else
    (.error (.symbolCountMismatch table.declared table.pushed), b)

/-- Appends a symbol. Without an open table one for no symbols is opened, which rejects it. -/
def pushSymbol (b : Builder) (symbol : Symbol) : Except FormatError Unit × Builder :=
  match b.table with
  | some table => b.pushSymbolInto table symbol
  | none =>
    match b.beginSymbolTable 0 with
    | (.error e, b) => (.error e, b)
    | (.ok (), b) =>
      match b.table with
      | some table => b.pushSymbolInto table symbol
      | none => (.ok (), b)

/-- The bytes behind the length field of the table that starts at `start`. -/
def tableSpan (b : Builder) (start : Nat) : Nat :=
  b.bytes.length - start - 4

/-- Fills in the length of the open table and appends the terminator. -/
def close (b : Builder) (table : SymbolTable) : Except FormatError Bytes :=
  if table.pushed = table.declared then
    let span := b.tableSpan table.start
    let bytes := overwrite b.bytes table.start (Word.toLittleEndian (UInt32.ofNat span)) ++
      (Word.toLittleEndian 0 ++ Word.toLittleEndian 0)
    if span < wordLimit ∧ bytes.length < wordLimit then .ok bytes else .error .imageTooLarge
  else
    .error (.symbolCountMismatch table.declared table.pushed)

/-- The finished container. Without an open table an empty one is written. -/
def finish (b : Builder) : Except FormatError Bytes :=
  match b.table with
  | some table => b.close table
  | none =>
    match b.beginSymbolTable 0 with
    | (.error e, _) => .error e
    | (.ok (), b) =>
      match b.table with
      | some table => b.close table
      | none => .ok b.bytes

/-- One call on a builder. -/
inductive Call
  | pushSection (address size : UInt32) (payload : Option Bytes)
  | beginSymbolTable (count : UInt32)
  | pushSymbol (symbol : Symbol)
  deriving DecidableEq, Repr

def perform (b : Builder) : Call → Except FormatError Unit × Builder
  | .pushSection address size payload => b.pushSection address size payload
  | .beginSymbolTable count => b.beginSymbolTable count
  | .pushSymbol symbol => b.pushSymbol symbol

/-- Makes all calls, whether or not earlier ones fail. -/
def performAll (b : Builder) (calls : List Call) : Builder :=
  calls.foldl (fun b call => (b.perform call).2) b

/-- Makes the calls up to the first one that fails. -/
def performUntilError (b : Builder) : List Call → Except FormatError Builder
  | [] => .ok b
  | call :: rest =>
    match b.perform call with
    | (.error e, _) => .error e
    | (.ok (), b) => b.performUntilError rest

end Builder

/-- The call that appends a section of an image. -/
def Builder.Call.ofSection (s : Section) : Builder.Call :=
  .pushSection s.address s.size (if s.isZeroed then none else some s.bytes)

/-- The calls that write an image and its symbols: sections by address, then the table. -/
def Builder.callsFor (image : Image) (symbols : List Symbol) : List Builder.Call :=
  image.byAddress.map .ofSection ++
    .beginSymbolTable (UInt32.ofNat symbols.length) :: symbols.map .pushSymbol

/-- The container for an image and its symbols. Sections are in ascending order of address, symbols
in their own order. -/
def encode (version : Version) (image : Image) (symbols : List Symbol) :
    Except FormatError Bytes := do
  if image.byAddress.length ≥ wordLimit ∨ symbols.length ≥ wordLimit then
    throw .imageTooLarge
  let count := UInt32.ofNat image.byAddress.length
  let b ← (Builder.start version image.entryPoint count).performUntilError
    (Builder.callsFor image symbols)
  b.finish

end LinkBench.Alf
