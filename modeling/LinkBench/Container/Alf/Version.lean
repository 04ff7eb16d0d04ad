import LinkBench.Container.Image
/-!
The versions of the ALF container and the records that all of them are made of. Words are
little-endian; names and payloads follow their lengths.
-/

namespace LinkBench.Alf

/-- The word that opens a container. -/
def magic : UInt32 := 0x464f4252

inductive Version
  | v104
  | v105
  deriving DecidableEq, Repr

namespace Version

def all : List Version := [.v104, .v105]

def raw : Version → UInt32
  | .v104 => 104
  | .v105 => 105

/-- The newer version ends each symbol record with one more word. -/
def hasSymbolExtra : Version → Bool
  | .v104 => false
  | .v105 => true

def ofRaw (value : UInt32) : Except FormatError Version :=
  if value = 104 then .ok .v104
  else if value = 105 then .ok .v105
  else .error (.unsupportedVersion value)

end Version

/-- A byte string behind its length. -/
def lengthPrefixed (bytes : Bytes) : Bytes :=
  Word.toLittleEndian (UInt32.ofNat bytes.length) ++ bytes

/-- The part of a symbol record behind the two names. -/
def symbolTail (version : Version) (symbol : Symbol) : Bytes :=
  Word.toLittleEndian symbol.address ++ Word.toLittleEndian symbol.size ++
  Word.toLittleEndian (if symbol.isData then 1 else 0) ++ Word.toLittleEndian symbol.sectionId ++
  if version.hasSymbolExtra then Word.toLittleEndian symbol.extra else []

end LinkBench.Alf
