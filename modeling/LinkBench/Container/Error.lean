import LinkBench.Numeral
/-!
What can be wrong with a memory image or with the bytes of a container.
-/

namespace LinkBench

/-- The place of a section in a memory image. -/
inductive SectionKind
  | text
  | data
  | bss
  deriving DecidableEq, Repr

def SectionKind.label : SectionKind → String
  | .text => "text"
  | .data => "data"
  | .bss => "bss"

inductive FormatError
  /-- The section's size is not a whole number of words. -/
  | misalignedSection (address : UInt32) (size : Nat)
  | emptySection (address : UInt32)
  /-- A zero-initialised section where bytes are stored, or stored bytes in the bss. -/
  | sectionKindMismatch (kind : SectionKind) (address : UInt32)
  | tooManySections (kind : SectionKind) (count capacity : Nat)
  /-- A length does not fit in a word. -/
  | imageTooLarge
  | badMagic (magic : UInt32)
  | unsupportedVersion (version : UInt32)
  /-- The input ends inside the item that starts at `offset`. -/
  | unexpectedEnd (offset : Nat)
  | storedLengthMismatch (address stored size : UInt32)
  | sectionCountMismatch (declared actual : UInt32)
  | symbolCountMismatch (declared actual : UInt32)
  | symbolTableLength (declared : UInt32) (actual : Nat)
  | missingTerminator (offset : Nat)
  | trailingData (count : Nat)
  | slotOutOfBounds (kind : SectionKind) (index : Nat) (offset size : UInt32)
  deriving DecidableEq, Repr

open Numeral in
def FormatError.message : FormatError → String
  | .misalignedSection address size =>
    s!"section at {hexWord address} has size {hex size}, which is not a multiple of 4"
  | .emptySection address => s!"section at {hexWord address} is empty"
  | .sectionKindMismatch kind address =>
    s!"{kind.label} section at {hexWord address} cannot be used there"
  | .tooManySections kind count capacity =>
    s!"too many {kind.label} sections: {count} (capacity {capacity})"
  | .imageTooLarge => "container does not fit in 32-bit offsets"
  | .badMagic magic => s!"bad magic: {hexWord magic}"
  | .unsupportedVersion version => s!"unsupported ALF version: {version.toNat}"
  | .unexpectedEnd offset => s!"unexpected end of file at offset {hex offset}"
  | .storedLengthMismatch address stored size =>
    s!"section at {hexWord address} stores {hex stored.toNat} bytes but its size is {hex size.toNat}"
  | .sectionCountMismatch declared actual =>
    s!"header declares {declared.toNat} sections but {actual.toNat} were written"
  | .symbolCountMismatch declared actual =>
    s!"symbol table declares {declared.toNat} symbols but {actual.toNat} were written"
  | .symbolTableLength declared actual =>
    s!"symbol table length field says {hex declared.toNat} bytes but {hex actual} were read"
  | .missingTerminator offset => s!"missing zero terminator at offset {hex offset}"
  | .trailingData count => s!"{count} trailing bytes after the container"
  | .slotOutOfBounds kind index offset size =>
    s!"{kind.label} slot {index} points outside the file (offset {hex offset.toNat}, size {hex size.toNat})"

end LinkBench
