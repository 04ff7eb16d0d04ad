import LinkBench.Container.Error
/-!
The memory image that both containers serialise: stored text and data sections, at most one
zero-initialised bss, and an entry point. Sections are never empty and hold whole words.
-/

namespace LinkBench

/-- What a section holds: stored bytes, or a number of zero bytes that no container stores. -/
inductive Contents
  | stored (bytes : Bytes)
  | zeroed (size : UInt32)
  deriving DecidableEq, Repr

namespace Contents

/-- The number of bytes in memory. -/
def length : Contents → Nat
  | .stored bytes => bytes.length
  | .zeroed size => size.toNat

/-- The bytes that a container stores. -/
def bytes : Contents → Bytes
  | .stored bytes => bytes
  | .zeroed _ => []

def isZeroed : Contents → Bool
  | .stored _ => false
  | .zeroed _ => true

/-- Sections hold at least one word, whole words only, and fit in 32 bits. -/
structure WellSized (contents : Contents) : Prop where
  pos : 0 < contents.length
  aligned : contents.length % 4 = 0
  fits : contents.length < wordLimit

end Contents

/-- A contiguous range of memory. -/
structure Section where
  address : UInt32
  contents : Contents
  wellSized : contents.WellSized
  deriving DecidableEq

namespace Section

/-- The size in memory. -/
def size (s : Section) : UInt32 :=
  UInt32.ofNat s.contents.length

def bytes (s : Section) : Bytes :=
  s.contents.bytes

def isZeroed (s : Section) : Bool :=
  s.contents.isZeroed

/-- The number of bytes that a container stores: none for a zero-initialised section. -/
def storedSize (s : Section) : UInt32 :=
  if s.isZeroed then 0 else s.size

/-- Checks the size of a section: first that it is not empty, then that it holds whole words. -/
def ofContents (address : UInt32) (contents : Contents) : Except FormatError Section :=
  if hpos : contents.length = 0 then
    .error (.emptySection address)
  else if haligned : contents.length % 4 = 0 then
    if hfits : contents.length < wordLimit then
      .ok ⟨address, contents, ⟨by omega, haligned, hfits⟩⟩
    else
      .error .imageTooLarge
  else
    .error (.misalignedSection address contents.length)

def stored (address : UInt32) (bytes : Bytes) : Except FormatError Section :=
  ofContents address (.stored bytes)

def zeroed (address size : UInt32) : Except FormatError Section :=
  ofContents address (.zeroed size)

@[simp] theorem toNat_size (s : Section) : s.size.toNat = s.contents.length := by
  have h := s.wellSized.fits
  simp only [wordLimit] at h
  simp only [size, UInt32.toNat_ofNat']
  omega

theorem size_ne_zero (s : Section) : s.size ≠ 0 := by
  intro hzero
  have hpos := s.wellSized.pos
  rw [← s.toNat_size, hzero] at hpos
  exact Nat.lt_irrefl 0 hpos

theorem size_mod_four (s : Section) : s.size.toNat % 4 = 0 := by
  rw [s.toNat_size]
  exact s.wellSized.aligned

theorem length_bytes {s : Section} (h : s.isZeroed = false) : s.bytes.length = s.size.toNat := by
  rw [toNat_size]
  obtain ⟨address, contents, hsized⟩ := s
  cases contents with
  | stored bytes => rfl
  | zeroed size => cases h

theorem storedSize_eq {s : Section} (h : s.isZeroed = false) : s.storedSize = s.size := by
  rw [storedSize, h]
  rfl

end Section

/-- A named address. -/
structure Symbol where
  mangledName : Bytes
  demangledName : Bytes
  address : UInt32
  size : UInt32
  isData : Bool
  /-- An index into the section table of the container, which nothing here checks. -/
  sectionId : UInt32
  /-- A word that only the newer container version stores. -/
  extra : UInt32
  deriving DecidableEq, Repr

structure Image where
  entryPoint : UInt32
  text : List Section
  data : List Section
  bss : Option Section
  text_stored : ∀ s ∈ text, s.isZeroed = false
  data_stored : ∀ s ∈ data, s.isZeroed = false
  bss_zeroed : ∀ s ∈ bss, s.isZeroed = true
  deriving DecidableEq

namespace Image

/-- Checks the kind of each section: text first, then data, then the bss. -/
def ofSections (entryPoint : UInt32) (text data : List Section) (bss : Option Section) :
    Except FormatError Image :=
  match htext : text.find? (·.isZeroed) with
  | some s => .error (.sectionKindMismatch .text s.address)
  | none =>
    match hdata : data.find? (·.isZeroed) with
    | some s => .error (.sectionKindMismatch .data s.address)
    | none =>
      match hbss : bss.filter (fun s => !s.isZeroed) with
      | some s => .error (.sectionKindMismatch .bss s.address)
      | none =>
        .ok {
          entryPoint, text, data, bss
          text_stored := by simpa using htext
          data_stored := by simpa using hdata
          bss_zeroed := by simpa [Option.filter_eq_none_iff] using hbss
        }

/-- The sections as listed: text, data, bss. -/
def sections (image : Image) : List Section :=
  image.text ++ image.data ++ image.bss.toList

/-- The sections in ascending order of address; equal addresses keep the order of the lists. -/
def byAddress (image : Image) : List Section :=
  image.sections.mergeSort fun s t => decide (s.address ≤ t.address)

end Image

end LinkBench
