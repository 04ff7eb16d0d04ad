import LinkBench.Proofs.Container.ByAddress
import LinkBench.Proofs.Container.Alf.Plain
import LinkBench.Proofs.Container.Dol.RoundTrip

/-!
# Two containers, one memory

An executable has its sections in the order of its slots, the other container has them by address.
Both describe the same memory: what the executable loads, sorted by address, are the sections of the
other container.
-/

namespace LinkBench

namespace Dol

/-- What the segment puts into memory. -/
def Segment.load (segment : Segment) (bytes : Bytes) : Alf.StoredSection :=
  ⟨segment.address, segment.size, segment.slice bytes⟩

/-- What an executable puts into memory: text, data, and a bss if it has a size, which stores no
bytes. -/
def File.memory (file : File) (bytes : Bytes) : List Alf.StoredSection :=
  file.text.map (·.load bytes) ++ file.data.map (·.load bytes) ++
  if file.bssSize = 0 then [] else [⟨file.bssAddress, file.bssSize, []⟩]

theorem load_place {sections : List Section} (hstored : ∀ s ∈ sections, s.isZeroed = false)
    {before : Bytes} (hlength : before.length + payloadLength sections < wordLimit) :
    (place before.length sections).map (·.load (before ++ sections.flatMap (·.bytes))) =
      sections.map .ofSection := by
  apply List.ext_getElem
  · rw [List.length_map, List.length_map, length_place]
  · intro i hi hi'
    rw [List.length_map] at hi hi'
    have hstores := stores_of_place hstored hlength (List.getElem?_eq_getElem hi)
      (List.getElem?_eq_getElem hi')
    rw [List.getElem_map, List.getElem_map, Segment.load, hstores.address_eq, hstores.size_eq,
      hstores.slice_eq]
    rfl

/-- The executable of an image puts its sections into memory, in the order of the image. -/
theorem memory_written {image : Image} (hslots : HasSlots image)
    (hlength : headerSize + payloadLength (image.text ++ image.data) < wordLimit) :
    (loaded image).memory (written image) = image.sections.map .ofSection := by
  have hsegments : (loaded image).segments.map (·.load (written image)) =
      (image.text ++ image.data).map .ofSection := by
    have hheader := length_header hslots
    have hload := load_place (fun s hs => stored_of_mem hs)
      (by rw [hheader]; exact hlength)
    rwa [hheader, ← segments_loaded] at hload
  have hbss : (if (loaded image).bssSize = 0 then []
      else [⟨(loaded image).bssAddress, (loaded image).bssSize, []⟩] : List Alf.StoredSection) =
      image.bss.toList.map .ofSection := by
    unfold loaded
    cases hbss : image.bss with
    | none => rfl
    | some bss =>
      have hempty := Section.bytes_of_isZeroed (image.bss_zeroed bss hbss)
      change (if bss.size = 0 then [] else [_]) = [Alf.StoredSection.ofSection bss]
      rw [if_neg bss.size_ne_zero, Alf.StoredSection.ofSection, hempty]
      rfl
  calc (loaded image).memory (written image)
      = (loaded image).segments.map (·.load (written image)) ++
          image.bss.toList.map .ofSection := by
        rw [File.memory, hbss, File.segments, List.map_append]
    _ = (image.text ++ image.data).map .ofSection ++ image.bss.toList.map .ofSection := by
        rw [hsegments]
    _ = image.sections.map .ofSection := List.map_append.symm

end Dol

namespace Alf

/-- **Agreement.** Take an image that is encoded as an executable, and any symbols. If its other
container stays below the limit, it is written and read back with the same entry point, and its
sections are the memory of the executable, stably sorted by address. -/
theorem sections_eq_memory {version : Version} {image : Image} {symbols : List Symbol}
    {executable : Bytes} (hencode : Dol.encode image = .ok executable)
    (hlength : containerLength version image symbols < wordLimit) :
    ∃ header container file, Dol.parse executable = .ok header ∧
      encode version image symbols = .ok container ∧ parse container = .ok file ∧
      file.entryPoint = header.entryPoint ∧
      ∀ sections, StableSort StoredSection.address (header.memory executable) sections ↔
        sections = file.sections := by
  obtain ⟨hslots, hfits, rfl⟩ := Dol.encode_eq_ok_iff.1 hencode
  refine ⟨Dol.loaded image, _, (File.ofImage version image symbols).stored,
    Dol.parse_written hslots hfits, encode_ofImage hlength, parse_ofImage hlength, rfl, ?_⟩
  have hsorted : StableSort StoredSection.address
      ((Dol.loaded image).memory (Dol.written image))
      (image.byAddress.map .ofSection) := by
    rw [Dol.memory_written hslots hfits]
    exact image.stableSort_byAddress.map fun _ => rfl
  intro sections
  constructor
  · intro h
    exact h.unique hsorted
  · rintro rfl
    exact hsorted

theorem sections_eq_memory_of_equal_addresses :
    let image : Image := {
      entryPoint := 0x80001000
      text := [⟨0x80001000, .stored [1, 2, 3, 4], ⟨by decide, by decide, by decide⟩⟩]
      data := [⟨0x80001000, .stored [5, 6, 7, 8], ⟨by decide, by decide, by decide⟩⟩,
        ⟨0x80000000, .stored [9, 10, 11, 12], ⟨by decide, by decide, by decide⟩⟩]
      bss := some ⟨0x80000000, .zeroed 8, ⟨by decide, by decide, by decide⟩⟩
      text_stored := by decide
      data_stored := by decide
      bss_zeroed := by decide }
    let symbols : List Symbol := [⟨[102], [102, 40, 41], 0x80001000, 4, true, 1, 7⟩]
    ∃ executable, Dol.encode image = .ok executable ∧
    containerLength .v105 image symbols < wordLimit ∧
    ∃ header container file, Dol.parse executable = .ok header ∧
      encode .v105 image symbols = .ok container ∧ parse container = .ok file ∧
      file.entryPoint = header.entryPoint ∧
      ∀ sections, StableSort StoredSection.address (header.memory executable) sections ↔
        sections = file.sections := by
  intro image symbols
  have hencode : Dol.encode image = .ok (Dol.written image) :=
    Dol.encode_eq_ok_iff.2 ⟨⟨by decide, by decide⟩, by decide, rfl⟩
  have hlength : containerLength .v105 image symbols < wordLimit := by decide
  exact ⟨_, hencode, hlength, sections_eq_memory hencode hlength⟩

end Alf

end LinkBench
