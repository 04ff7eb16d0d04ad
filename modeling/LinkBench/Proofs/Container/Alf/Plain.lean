import LinkBench.Proofs.Container.Alf.RoundTrip

/-!
# A container in one piece

The builder appends piece by piece and fills in a length in the end. What comes out is a plain
concatenation (`encode_eq_plain`): four words, the sections by address, the length of the symbol
block, the block, two zero words.
-/

namespace LinkBench

namespace Section

theorem bytes_of_isZeroed {s : Section} (h : s.isZeroed = true) : s.bytes = [] := by
  obtain ⟨address, contents, hsized⟩ := s
  cases contents with
  | stored bytes => cases h
  | zeroed size => rfl

theorem toNat_storedSize (s : Section) : s.storedSize.toNat = s.bytes.length := by
  cases hzeroed : s.isZeroed with
  | false => rw [storedSize_eq hzeroed, length_bytes hzeroed]
  | true =>
    rw [storedSize, if_pos hzeroed, bytes_of_isZeroed hzeroed]
    rfl

/-- The entry of a section: three words, then the bytes that are stored for it. -/
def entry (s : Section) : Bytes :=
  Word.toLittleEndian s.address ++ Word.toLittleEndian s.storedSize ++
  Word.toLittleEndian s.size ++ s.bytes

theorem length_entry (s : Section) : s.entry.length = 12 + s.storedSize.toNat := by
  simp only [entry, List.length_append, Word.length_toLittleEndian, toNat_storedSize]

end Section

namespace Alf

theorem record_ofSection (s : Section) : (StoredSection.ofSection s).record = s.entry := by
  change Word.toLittleEndian s.address ++ Word.toLittleEndian (UInt32.ofNat s.bytes.length) ++ _ ++ _
    = _
  rw [← Section.toNat_storedSize, UInt32.ofNat_toNat]
  rfl

/-- The symbol block: the number of symbols, then their records in their own order. -/
def symbolBlock (version : Version) (symbols : List Symbol) : Bytes :=
  Word.toLittleEndian (UInt32.ofNat symbols.length) ++
  writtenRecords version symbols

/-- Everything in front of the length of the symbol block. -/
def plainFront (version : Version) (image : Image) : Bytes :=
  Word.toLittleEndian magic ++ Word.toLittleEndian version.raw ++
  Word.toLittleEndian image.entryPoint ++
  Word.toLittleEndian (UInt32.ofNat image.byAddress.length) ++
  image.byAddress.flatMap Section.entry

def plain (version : Version) (image : Image) (symbols : List Symbol) : Bytes :=
  plainFront version image ++
  (Word.toLittleEndian (UInt32.ofNat (symbolBlock version symbols).length) ++
  (symbolBlock version symbols ++ (Word.toLittleEndian 0 ++ Word.toLittleEndian 0)))

/-- Where the length of the symbol block is stored. -/
def blockLengthPosition (image : Image) : Nat :=
  16 + (image.byAddress.map fun s => 12 + s.storedSize.toNat).sum

theorem length_plainFront (version : Version) (image : Image) :
    (plainFront version image).length = blockLengthPosition image := by
  simp only [plainFront, List.length_append, Word.length_toLittleEndian, List.length_flatMap,
    Section.length_entry, blockLengthPosition]

theorem written_ofImage (version : Version) (image : Image) (symbols : List Symbol) :
    (File.ofImage version image symbols).written = plain version image symbols := by
  rw [File.written_eq, plain, symbolBlock, List.length_append, Word.length_toLittleEndian]
  simp only [File.header, File.ofImage, plainFront, writtenRecords, List.length_map,
    List.flatMap_map, record_ofSection, List.append_assoc]

theorem length_plain (version : Version) (image : Image) (symbols : List Symbol) :
    (plain version image symbols).length = containerLength version image symbols := by
  rw [← written_ofImage, length_written_ofImage]

theorem length_written_lt {version : Version} {image : Image} {symbols : List Symbol}
    (hlength : containerLength version image symbols < wordLimit) :
    (File.ofImage version image symbols).written.length < wordLimit := by
  rw [length_written_ofImage]
  exact hlength

theorem encode_ofImage {version : Version} {image : Image} {symbols : List Symbol}
    (hlength : containerLength version image symbols < wordLimit) :
    encode version image symbols = .ok (File.ofImage version image symbols).written := by
  have hwritten := length_written_lt hlength
  have hfits := File.fits_of_length_lt hwritten
  have hsections := hfits.sections_lt
  rw [File.ofImage, List.length_map] at hsections
  exact (encode_eq_rebuild hsections hfits.symbols_lt).trans (File.rebuild_eq hwritten)

theorem parse_ofImage {version : Version} {image : Image} {symbols : List Symbol}
    (hlength : containerLength version image symbols < wordLimit) :
    parse (File.ofImage version image symbols).written =
      .ok (File.ofImage version image symbols).stored := by
  refine File.parse_written (fun s hs => ?_) (length_written_lt hlength)
  obtain ⟨original, -, rfl⟩ := List.mem_map.1 hs
  exact complete_ofSection original

/-- **The container of an image** is the plain concatenation of its parts, if that stays below the
limit of a word. The counts and lengths in it are exact, and the length of the symbol block reaches
from behind its own field to the two zero words. -/
theorem encode_eq_plain {version : Version} {image : Image} {symbols : List Symbol}
    (hlength : (plain version image symbols).length < wordLimit) :
    let block := symbolBlock version symbols
    let position := blockLengthPosition image
    encode version image symbols = .ok (plain version image symbols) ∧
    image.byAddress.length < wordLimit ∧ symbols.length < wordLimit ∧ block.length < wordLimit ∧
    ((plain version image symbols).drop position).take 4 =
      Word.toLittleEndian (UInt32.ofNat block.length) ∧
    ((plain version image symbols).drop (position + 4)).take block.length = block ∧
    (plain version image symbols).length = position + 4 + block.length + 8 ∧
    (plain version image symbols).drop (position + 4 + block.length) =
      Word.toLittleEndian 0 ++ Word.toLittleEndian 0 := by
  intro block position
  have hfront : (plainFront version image).length = position := length_plainFront version image
  have hplain : plain version image symbols = plainFront version image ++
      (Word.toLittleEndian (UInt32.ofNat block.length) ++
      (block ++ (Word.toLittleEndian 0 ++ Word.toLittleEndian 0))) := rfl
  have hlonger : (plainFront version image ++
      Word.toLittleEndian (UInt32.ofNat block.length)).length = position + 4 := by
    rw [List.length_append, hfront, Word.length_toLittleEndian]
  have htotal : (plain version image symbols).length = position + 4 + block.length + 8 := by
    rw [hplain, ← List.append_assoc, List.length_append, hlonger, List.length_append]
    rfl
  have hcontainer : containerLength version image symbols < wordLimit := by
    rw [← length_plain]
    exact hlength
  have hfits := File.fits_of_length_lt (length_written_lt hcontainer)
  have hsections := hfits.sections_lt
  rw [File.ofImage, List.length_map] at hsections
  refine ⟨?_, hsections, hfits.symbols_lt, by omega, ?_, ?_, htotal, ?_⟩
  · rw [encode_ofImage hcontainer, written_ofImage]
  · rw [hplain]
    exact drop_take_append hfront rfl
  · rw [hplain, ← List.append_assoc]
    exact drop_take_append hlonger rfl
  · rw [hplain, ← List.append_assoc, ← List.append_assoc, ← hlonger, ← List.length_append,
      List.drop_left]

theorem encode_eq_plain_of_two_sections :
    let image : Image := {
      entryPoint := 0x80001000
      text := [⟨0x80001000, .stored [1, 2, 3, 4], ⟨by decide, by decide, by decide⟩⟩]
      data := []
      bss := some ⟨0x80000000, .zeroed 8, ⟨by decide, by decide, by decide⟩⟩
      text_stored := by decide
      data_stored := by decide
      bss_zeroed := by decide }
    let symbols : List Symbol := [⟨[102], [102, 40, 41], 0x80001000, 4, true, 1, 7⟩]
    let block := symbolBlock .v105 symbols
    let position := blockLengthPosition image
    (plain .v105 image symbols).length < wordLimit ∧
    encode .v105 image symbols = .ok (plain .v105 image symbols) ∧
    image.byAddress.length < wordLimit ∧ symbols.length < wordLimit ∧ block.length < wordLimit ∧
    ((plain .v105 image symbols).drop position).take 4 =
      Word.toLittleEndian (UInt32.ofNat block.length) ∧
    ((plain .v105 image symbols).drop (position + 4)).take block.length = block ∧
    (plain .v105 image symbols).length = position + 4 + block.length + 8 ∧
    (plain .v105 image symbols).drop (position + 4 + block.length) =
      Word.toLittleEndian 0 ++ Word.toLittleEndian 0 := by
  intro image symbols block position
  have hlength : (plain .v105 image symbols).length < wordLimit := by
    rw [length_plain]
    decide
  exact ⟨hlength, encode_eq_plain hlength⟩

end Alf

end LinkBench
