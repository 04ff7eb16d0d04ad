import LinkBench.Proofs.Container.Alf.Writing

/-!
# An image survives its container

Whatever image and symbols are encoded, reading the container gives their sections in ascending
order of address and the symbols in their own order. The only condition is that the container stays
below the limit of a word, and only the extra word of a symbol is lost, to the older version.
-/

namespace LinkBench.Alf

def StoredSection.ofSection (s : Section) : StoredSection :=
  ⟨s.address, s.size, s.bytes⟩

/-- Sections are never empty, so one without stored bytes is zero-initialised. -/
theorem isZeroed_ofSection (s : Section) : (StoredSection.ofSection s).isZeroed = s.isZeroed := by
  obtain ⟨address, contents, hsized⟩ := s
  cases contents with
  | stored bytes =>
    have hpos := hsized.pos
    cases bytes with
    | nil => exact absurd hpos (Nat.lt_irrefl 0)
    | cons byte rest => rfl
  | zeroed size => rfl

theorem complete_ofSection (s : Section) : (StoredSection.ofSection s).Complete := by
  refine ⟨s.size_ne_zero, ?_⟩
  cases hzeroed : s.isZeroed with
  | false => exact .inr (Section.length_bytes hzeroed)
  | true =>
    left
    rw [← isZeroed_ofSection] at hzeroed
    exact List.isEmpty_iff.1 hzeroed

def File.ofImage (version : Version) (image : Image) (symbols : List Symbol) : File :=
  ⟨version, image.entryPoint, image.byAddress.map .ofSection, symbols⟩

theorem calls_ofImage (version : Version) (image : Image) (symbols : List Symbol) :
    (File.ofImage version image symbols).calls = Builder.callsFor image symbols := by
  have hsections : (fun s => Builder.Call.ofStored (.ofSection s)) = Builder.Call.ofSection := by
    funext s
    rw [Builder.Call.ofStored, isZeroed_ofSection]
    rfl
  simp only [File.calls, File.ofImage, Builder.callsFor, List.map_map, Function.comp_def, hsections]

theorem encode_eq_rebuild {version : Version} {image : Image} {symbols : List Symbol}
    (hsections : image.byAddress.length < wordLimit) (hsymbols : symbols.length < wordLimit) :
    encode version image symbols = (File.ofImage version image symbols).rebuild := by
  rw [encode, if_neg (by omega), File.rebuild, calls_ofImage, File.ofImage, List.length_map]

/-- The number of bytes of the container for an image and its symbols. -/
def containerLength (version : Version) (image : Image) (symbols : List Symbol) : Nat :=
  16 + (image.sections.map fun s => 12 + s.bytes.length).sum + 8 +
  (symbols.map fun y => y.mangledName.length + y.demangledName.length +
    if version.hasSymbolExtra then 28 else 24).sum + 8

theorem length_written_ofImage (version : Version) (image : Image) (symbols : List Symbol) :
    (File.ofImage version image symbols).written.length =
      containerLength version image symbols := by
  have hperm : image.byAddress.Perm image.sections := List.mergeSort_perm _ _
  have hsum := (hperm.map fun s => 12 + s.bytes.length).sum_eq
  rw [File.written_eq]
  simp only [List.length_append, File.length_header, Word.length_toLittleEndian, File.ofImage,
    writtenRecords, List.length_flatMap, List.map_map, Function.comp_def, length_record,
    length_symbolRecord, recordLength, StoredSection.ofSection, containerLength, ← hsum]
  omega

/-- **Round trip.** Every image whose container stays below the limit is encoded, and its container
reads back as its sections by address and its symbols. -/
theorem parse_encode {version : Version} {image : Image} {symbols : List Symbol}
    (hlength : containerLength version image symbols < wordLimit) :
    ∃ bytes file, encode version image symbols = .ok bytes ∧
      bytes.length = containerLength version image symbols ∧ parse bytes = .ok file ∧
      file.version = version ∧ file.entryPoint = image.entryPoint ∧
      List.Forall₂ (fun (stored : StoredSection) (s : Section) => stored.address = s.address ∧
        stored.size = s.size ∧ stored.bytes = s.bytes ∧ stored.isZeroed = s.isZeroed)
        file.sections image.byAddress ∧
      file.symbols = symbols.map version.kept := by
  set file := File.ofImage version image symbols with hfile
  have hwritten : file.written.length < wordLimit := by
    rw [hfile, length_written_ofImage]
    exact hlength
  have hfits := File.fits_of_length_lt hwritten
  have hsections : image.byAddress.length < wordLimit := by
    have h := hfits.sections_lt
    rwa [hfile, File.ofImage, List.length_map] at h
  have hcomplete : ∀ s ∈ file.sections, s.Complete := by
    intro s hs
    obtain ⟨original, -, rfl⟩ := List.mem_map.1 hs
    exact complete_ofSection original
  refine ⟨file.written, file.stored, ?_, length_written_ofImage .., ?_, rfl, rfl, ?_, rfl⟩
  · rw [encode_eq_rebuild hsections (show symbols.length < _ from hfits.symbols_lt)]
    exact File.rebuild_eq hwritten
  · exact File.parse_written hcomplete hwritten
  · change List.Forall₂ _ (image.byAddress.map StoredSection.ofSection) image.byAddress
    rw [List.forall₂_map_left_iff, List.forall₂_same]
    intro s _
    exact ⟨rfl, rfl, rfl, isZeroed_ofSection s⟩

theorem parse_encode_of_three_sections :
    let image : Image := {
      entryPoint := 0x80001000
      text := [⟨0x80001000, .stored [1, 2, 3, 4], ⟨by decide, by decide, by decide⟩⟩]
      data := [⟨0x80000000, .stored [5, 6, 7, 8], ⟨by decide, by decide, by decide⟩⟩]
      bss := some ⟨0x80002000, .zeroed 8, ⟨by decide, by decide, by decide⟩⟩
      text_stored := by decide
      data_stored := by decide
      bss_zeroed := by decide }
    let symbols : List Symbol := [⟨[102], [102, 40, 41], 0x80001000, 4, true, 1, 7⟩]
    containerLength .v104 image symbols < wordLimit ∧
    ∃ bytes file, encode .v104 image symbols = .ok bytes ∧
      bytes.length = containerLength .v104 image symbols ∧ parse bytes = .ok file ∧
      file.version = .v104 ∧ file.entryPoint = image.entryPoint ∧
      List.Forall₂ (fun (stored : StoredSection) (s : Section) => stored.address = s.address ∧
        stored.size = s.size ∧ stored.bytes = s.bytes ∧ stored.isZeroed = s.isZeroed)
        file.sections image.byAddress ∧
      file.symbols = symbols.map Version.v104.kept := by
  intro image symbols
  have hlength : containerLength .v104 image symbols < wordLimit := by decide
  exact ⟨hlength, parse_encode hlength⟩

end LinkBench.Alf
