import LinkBench.Proofs.Container.Dol.Layout

/-!
# An image survives its executable

The words of the header stand apart, so each used slot is read as the segment that was put there;
the free ones were never touched and read as unused. The segments have consecutive ranges that
start right behind the header, hence the reader finds all of them inside the file, and each range
holds the bytes of its section.
-/

namespace LinkBench.Dol

/-! ### Reading slots -/

namespace SlotTable

theorem map_usedSlots (table : SlotTable) (input : Bytes) :
    (table.usedSlots input).map (·.2) =
      ((List.range table.capacity).map (table.slot input)).filter (·.size != 0) := by
  rw [usedSlots, List.filter_map, List.map_map, List.filter_map]
  rfl

/-- The first slots of the table hold these segments, and the others are free. -/
structure Holds (table : SlotTable) (input : Bytes) (segments : List Segment) : Prop where
  length_le : segments.length ≤ table.capacity
  used : ∀ i segment, segments[i]? = some segment → table.slot input i = segment
  free : ∀ i, segments.length ≤ i → i < table.capacity → (table.slot input i).size = 0

/-- A table is read as the segments that it holds, if all of them lie in the file. -/
theorem Holds.read_eq_ok {table : SlotTable} {input : Bytes} {segments : List Segment}
    (h : table.Holds input segments) (hsize : ∀ segment ∈ segments, segment.size ≠ 0)
    (hbounds : ∀ segment ∈ segments, segment.InBounds input.length) :
    table.read input = .ok segments := by
  have hfirst : (List.range segments.length).map (table.slot input) = segments := by
    apply List.ext_getElem (by rw [List.length_map, List.length_range])
    intro i _ hi
    rw [List.getElem_map, List.getElem_range]
    exact h.used i _ (List.getElem?_eq_getElem hi)
  have hslots : (table.usedSlots input).map (·.2) = segments := by
    rw [map_usedSlots, ← Nat.add_sub_cancel' h.length_le, List.range_add, List.map_append, hfirst,
      List.filter_append, List.filter_eq_self.2, List.filter_eq_nil_iff.2, List.append_nil]
    · intro segment hsegment
      simp only [List.map_map, List.mem_map, List.mem_range, Function.comp_apply] at hsegment
      obtain ⟨i, hi, rfl⟩ := hsegment
      simp [h.free (segments.length + i) (Nat.le_add_right _ _) (by omega)]
    · intro segment hsegment
      simpa using hsize segment hsegment
  have hfind : (table.usedSlots input).find? (fun slot => !decide (slot.2.InBounds input.length)) =
      none := by
    rw [List.find?_eq_none]
    intro slot hslot
    have hsegment : slot.2 ∈ segments := by
      rw [← hslots]
      exact List.mem_map_of_mem hslot
    simpa using hbounds _ hsegment
  unfold read
  simp only [hfind, hslots]

end SlotTable

/-! ### Reading the header that was written -/

section Written

variable {image : Image} (hslots : HasSlots image)

include hslots

theorem length_header : (putWords (List.replicate headerSize 0) (headerWords image)).length =
    headerSize := by
  rw [length_putWords (room_headerWords hslots), List.length_replicate]

theorem length_written : (written image).length =
    headerSize + payloadLength (image.text ++ image.data) := by
  rw [written, List.length_append, length_header hslots, payloadLength]

theorem wordAt_written {position : Nat} {w : UInt32} (h : (position, w) ∈ headerWords image) :
    wordAt (written image) position = w := by
  have hroom := le_headerSize_of_mem_headerWords hslots h
  rw [written, wordAt_append (by rw [length_header hslots]; exact hroom),
    wordAt_putWords (room_headerWords hslots) (pairwise_headerWords hslots) h]

theorem wordAt_written_of_apart {position : Nat} (hposition : position + 4 ≤ headerSize)
    (hapart : ∀ word ∈ headerWords image, Apart position word.1) :
    wordAt (written image) position = 0 := by
  rw [written, wordAt_append (by rw [length_header hslots]; exact hposition),
    wordAt_putWords_of_apart (room_headerWords hslots) hapart, wordAt_replicate_zero]

theorem slot_written {table : SlotTable} {segments : List Segment}
    (hwords : ∀ word ∈ table.slotWords 0 segments, word ∈ headerWords image) {i : Nat}
    {segment : Segment} (h : segments[i]? = some segment) :
    table.slot (written image) i = segment := by
  have hslot : ∀ word ∈ table.words i segment, word ∈ headerWords image := by
    intro word hword
    rw [← Nat.zero_add i] at hword
    exact hwords word (SlotTable.mem_slotWords.2 ⟨i, segment, h, hword⟩)
  simp only [SlotTable.words, List.forall_mem_cons] at hslot
  obtain ⟨hoffset, haddress, hsize, -⟩ := hslot
  rw [SlotTable.slot, wordAt_written hslots hoffset, wordAt_written hslots haddress,
    wordAt_written hslots hsize]

/-- A table holds its segments if nothing is put on the sizes of its free slots. -/
theorem holds_written {table : SlotTable} (htable : table.InHeader) {segments : List Segment}
    (hwords : ∀ word ∈ table.slotWords 0 segments, word ∈ headerWords image)
    (hcapacity : segments.length ≤ table.capacity)
    (hfree : ∀ i, segments.length ≤ i → i < table.capacity →
      ∀ word ∈ headerWords image, Apart (table.sizes + 4 * i) word.1) :
    table.Holds (written image) segments where
  length_le := hcapacity
  used i segment hsegment := slot_written hslots hwords hsegment
  free i husedUp hi := by
    have hroom := htable.sizes_le
    exact wordAt_written_of_apart hslots (by omega) (hfree i husedUp hi)

theorem holds_text_written : textSlots.Holds (written image) (textSegments image) := by
  have hcount : (textSegments image).length = image.text.length := length_place _ _
  refine holds_written hslots SlotTable.inHeader_textSlots ?_ ?_ ?_
  · intro word hword
    exact List.mem_append_left _ (List.mem_append_right _ hword)
  · rw [hcount]
    exact hslots.text_le
  · intro i hfree hi word hword
    rw [hcount] at hfree
    have hdata := hslots.data_le
    have hposition := position_of_mem_headerWords hword
    simp only [SlotTable.Position, textSlots, dataSlots, bssAddressPosition, bssSizePosition,
      entryPointPosition] at hi hposition
    simp only [Apart, textSlots]
    omega

theorem holds_data_written : dataSlots.Holds (written image) (dataSegments image) := by
  have hcount : (dataSegments image).length = image.data.length := length_place _ _
  refine holds_written hslots SlotTable.inHeader_dataSlots ?_ ?_ ?_
  · intro word hword
    exact List.mem_append_right _ hword
  · rw [hcount]
    exact hslots.data_le
  · intro i hfree hi word hword
    rw [hcount] at hfree
    have htext := hslots.text_le
    have hposition := position_of_mem_headerWords hword
    simp only [SlotTable.Position, textSlots, dataSlots, bssAddressPosition, bssSizePosition,
      entryPointPosition] at hi hposition
    simp only [Apart, dataSlots]
    omega

end Written

/-! ### Segments and their bytes -/

theorem stored_of_mem {image : Image} {s : Section} (h : s ∈ image.text ++ image.data) :
    s.isZeroed = false := by
  obtain htext | hdata := List.mem_append.1 h
  · exact image.text_stored s htext
  · exact image.data_stored s hdata

def Segment.slice (segment : Segment) (bytes : Bytes) : Bytes :=
  (bytes.drop segment.offset.toNat).take segment.size.toNat

/-- The segment describes a section whose bytes are at `position`. -/
structure Segment.Stores (segment : Segment) (bytes : Bytes) (position : Nat) (s : Section) :
    Prop where
  address_eq : segment.address = s.address
  size_eq : segment.size = s.size
  offset_eq : segment.offset.toNat = position
  slice_eq : segment.slice bytes = s.bytes

section Place

variable {sections : List Section} (hstored : ∀ s ∈ sections, s.isZeroed = false)

include hstored

/-- Placed segments hold the bytes of their sections, each right behind the one before. -/
theorem stores_of_place {before : Bytes}
    (hlength : before.length + payloadLength sections < wordLimit) {i : Nat} {segment : Segment}
    {s : Section} (hsegment : (place before.length sections)[i]? = some segment)
    (hs : sections[i]? = some s) :
    segment.Stores (before ++ sections.flatMap (·.bytes))
      (before.length + payloadLength (sections.take i)) s := by
  induction sections generalizing before i with
  | nil => cases hs
  | cons first rest ih =>
    have hfirst := hstored first List.mem_cons_self
    rw [payloadLength_cons] at hlength
    cases i with
    | zero =>
      obtain rfl := Option.some.inj hs
      obtain rfl := Option.some.inj hsegment
      have hoffset := Word.toNat_ofNat (show before.length < wordLimit by omega)
      refine ⟨rfl, Section.storedSize_eq hfirst, hoffset, ?_⟩
      rw [Segment.slice, hoffset, List.drop_left, Section.storedSize_eq hfirst,
        ← Section.length_bytes hfirst, List.flatMap_cons, List.take_left]
    | succ i =>
      have hnext : (before ++ first.bytes).length = before.length + first.bytes.length :=
        List.length_append
      rw [place, List.getElem?_cons_succ, ← hnext] at hsegment
      have hrest := ih (fun s hs => hstored s (List.mem_cons_of_mem first hs))
        (by rw [hnext]; omega) hsegment hs
      rw [hnext, List.append_assoc, Nat.add_assoc, ← payloadLength_cons] at hrest
      exact hrest

theorem bounds_of_mem_place {start : Nat}
    (hlength : start + payloadLength sections < wordLimit) {segment : Segment}
    (h : segment ∈ place start sections) :
    segment.size ≠ 0 ∧ start ≤ segment.offset.toNat ∧
      segment.offset.toNat + segment.size.toNat ≤ start + payloadLength sections ∧
      segment.offset.toNat % 4 = start % 4 := by
  induction sections generalizing start with
  | nil => cases h
  | cons first rest ih =>
    have hfirst := hstored first List.mem_cons_self
    have hbytes := Section.length_bytes hfirst
    rw [payloadLength_cons] at hlength ⊢
    cases h with
    | head =>
      have hoffset := Word.toNat_ofNat (show start < wordLimit by omega)
      rw [Section.storedSize_eq hfirst]
      refine ⟨first.size_ne_zero, ?_, ?_, ?_⟩ <;> simp only [hoffset] <;> omega
    | tail _ h =>
      have haligned := first.size_mod_four
      obtain ⟨hsize, hstart, hend, hmod⟩ :=
        ih (fun s hs => hstored s (List.mem_cons_of_mem first hs)) (by omega) h
      refine ⟨hsize, ?_, ?_, ?_⟩ <;> omega

theorem pairwise_place {start : Nat} (hlength : start + payloadLength sections < wordLimit) :
    (place start sections).Pairwise fun a b => a.offset.toNat + a.size.toNat ≤ b.offset.toNat := by
  induction sections generalizing start with
  | nil => exact .nil
  | cons first rest ih =>
    have hfirst := hstored first List.mem_cons_self
    have hrest : ∀ s ∈ rest, s.isZeroed = false := fun s hs =>
      hstored s (List.mem_cons_of_mem first hs)
    rw [payloadLength_cons] at hlength
    refine .cons ?_ (ih hrest (by omega))
    intro segment hsegment
    have hoffset := Word.toNat_ofNat (show start < wordLimit by omega)
    obtain ⟨-, hstart, -, -⟩ := bounds_of_mem_place hrest (by omega) hsegment
    rw [hoffset, Section.storedSize_eq hfirst, ← Section.length_bytes hfirst]
    exact hstart

theorem exists_mem_place {start : Nat} (hlength : start + payloadLength sections < wordLimit)
    {p : Nat} (hp : start ≤ p) (hp' : p < start + payloadLength sections) :
    ∃ segment ∈ place start sections,
      segment.offset.toNat ≤ p ∧ p < segment.offset.toNat + segment.size.toNat := by
  induction sections generalizing start with
  | nil => exact absurd hp' (Nat.not_lt.2 hp)
  | cons first rest ih =>
    have hfirst := hstored first List.mem_cons_self
    have hoffset := Word.toNat_ofNat (show start < wordLimit by omega)
    rw [payloadLength_cons] at hlength hp'
    by_cases hhere : p < start + first.bytes.length
    · refine ⟨_, List.mem_cons_self, ?_⟩
      simp only [hoffset, Section.storedSize_eq hfirst, ← Section.length_bytes hfirst]
      exact ⟨hp, hhere⟩
    · obtain ⟨segment, hmem, hsegment⟩ := ih (fun s hs => hstored s (List.mem_cons_of_mem first hs))
        (by omega) (Nat.le_of_not_lt hhere) (by omega)
      exact ⟨segment, List.mem_cons_of_mem _ hmem, hsegment⟩

end Place

/-! ### The whole executable -/

/-- What reading the executable of an image gives. -/
def loaded (image : Image) : File where
  text := textSegments image
  data := dataSegments image
  bssAddress := (image.bss.map (·.address)).getD 0
  bssSize := (image.bss.map (·.size)).getD 0
  entryPoint := image.entryPoint

def File.segments (file : File) : List Segment :=
  file.text ++ file.data

theorem segments_loaded (image : Image) :
    (loaded image).segments = place headerSize (image.text ++ image.data) :=
  (place_append headerSize image.text image.data).symm

theorem size_ne_zero_of_mem_loaded {image : Image}
    (hlength : headerSize + payloadLength (image.text ++ image.data) < wordLimit)
    {segment : Segment} (h : segment ∈ (loaded image).segments) : segment.size ≠ 0 := by
  rw [segments_loaded] at h
  exact (bounds_of_mem_place (fun s hs => stored_of_mem hs) hlength h).1

section Loaded

variable {image : Image} (hslots : HasSlots image)
  (hlength : headerSize + payloadLength (image.text ++ image.data) < wordLimit)

include hslots

theorem bss_written : wordAt (written image) bssAddressPosition = (loaded image).bssAddress ∧
    wordAt (written image) bssSizePosition = (loaded image).bssSize := by
  cases hbss : image.bss with
  | some bss =>
    have hwords : ∀ word ∈ fixedWords image, word ∈ headerWords image := fun word hword =>
      List.mem_append_left _ (List.mem_append_left _ hword)
    simp only [fixedWords, hbss, List.cons_append, List.nil_append, List.forall_mem_cons] at hwords
    obtain ⟨haddress, hsize, -⟩ := hwords
    rw [wordAt_written hslots haddress, wordAt_written hslots hsize, loaded, hbss]
    exact ⟨rfl, rfl⟩
  | none =>
    -- The entry point is then the only word outside the slot tables.
    have hapart : ∀ word ∈ headerWords image,
        Apart bssAddressPosition word.1 ∧ Apart bssSizePosition word.1 := by
      intro word hword
      rw [headerWords, List.mem_append, List.mem_append] at hword
      have hposition : word.1 = entryPointPosition ∨
          textSlots.Position image.text.length word.1 ∨
          dataSlots.Position image.data.length word.1 := by
        obtain (hfixed | htext) | hdata := hword
        · simp only [fixedWords, hbss, List.nil_append, List.mem_singleton] at hfixed
          exact .inl (hfixed ▸ rfl)
        · exact .inr (.inl (position_of_mem_textSegments htext))
        · exact .inr (.inr (position_of_mem_dataSegments hdata))
      obtain ⟨htext, hdata⟩ := hslots
      simp only [Apart, bssAddressPosition, bssSizePosition]
      obtain hentry | ⟨i, hi, hslot⟩ | ⟨i, hi, hslot⟩ := hposition
      · rw [hentry]
        decide
      · simp only [textSlots] at hslot
        omega
      · simp only [dataSlots] at hslot
        omega
    rw [wordAt_written_of_apart hslots (by decide) fun word hword => (hapart word hword).1,
      wordAt_written_of_apart hslots (by decide) fun word hword => (hapart word hword).2, loaded,
      hbss]
    exact ⟨rfl, rfl⟩

include hlength

theorem inBounds_loaded {segment : Segment} (h : segment ∈ (loaded image).segments) :
    segment.InBounds (written image).length := by
  rw [segments_loaded] at h
  obtain ⟨-, hstart, hend, -⟩ := bounds_of_mem_place (fun s hs => stored_of_mem hs) hlength h
  rw [length_written hslots]
  exact ⟨hstart, hend⟩

theorem read_text_written : textSlots.read (written image) = .ok (textSegments image) := by
  have hmem : ∀ segment ∈ textSegments image, segment ∈ (loaded image).segments :=
    fun segment hsegment => List.mem_append_left _ hsegment
  refine (holds_text_written hslots).read_eq_ok ?_ ?_
  · intro segment hsegment
    exact size_ne_zero_of_mem_loaded hlength (hmem segment hsegment)
  · intro segment hsegment
    exact inBounds_loaded hslots hlength (hmem segment hsegment)

theorem read_data_written : dataSlots.read (written image) = .ok (dataSegments image) := by
  have hmem : ∀ segment ∈ dataSegments image, segment ∈ (loaded image).segments :=
    fun segment hsegment => List.mem_append_right _ hsegment
  refine (holds_data_written hslots).read_eq_ok ?_ ?_
  · intro segment hsegment
    exact size_ne_zero_of_mem_loaded hlength (hmem segment hsegment)
  · intro segment hsegment
    exact inBounds_loaded hslots hlength (hmem segment hsegment)

/-- **Reading an executable.** The header of an image that has enough slots is read as it was
meant. -/
theorem parse_written : parse (written image) = .ok (loaded image) := by
  have hentry : wordAt (written image) entryPointPosition = image.entryPoint := by
    apply wordAt_written hslots
    refine List.mem_append_left _ (List.mem_append_left _ (List.mem_append_right _ ?_))
    exact List.mem_singleton_self _
  obtain ⟨hbssAddress, hbssSize⟩ := bss_written hslots
  have hheader : ¬(written image).length < headerSize := by
    rw [length_written hslots]
    omega
  rw [parse, if_neg hheader, read_text_written hslots hlength, read_data_written hslots hlength,
    hentry, hbssAddress, hbssSize]
  rfl

end Loaded

/-! ### What an executable says about its image -/

/-- The byte number `p` belongs to one of the three words of a slot. -/
def SlotTable.Covers (table : SlotTable) (index p : Nat) : Prop :=
  InWord (table.offsets + 4 * index) p ∨ InWord (table.addresses + 4 * index) p ∨
    InWord (table.sizes + 4 * index) p

theorem SlotTable.covers_of_inWord {table : SlotTable} {index position p : Nat}
    (hslot : position = table.offsets + 4 * index ∨ position = table.addresses + 4 * index ∨
      position = table.sizes + 4 * index) (hin : InWord position p) : table.Covers index p := by
  obtain rfl | rfl | rfl := hslot
  · exact .inl hin
  · exact .inr (.inl hin)
  · exact .inr (.inr hin)

/-- The bytes of an executable and what reading them gives, against the image. -/
structure Describes (bytes : Bytes) (file : File) (image : Image) : Prop where
  text_length : file.text.length = image.text.length
  data_length : file.data.length = image.data.length
  stores : ∀ (i : Nat) (segment : Segment) (s : Section), file.segments[i]? = some segment →
    (image.text ++ image.data)[i]? = some s →
    segment.Stores bytes (headerSize + payloadLength ((image.text ++ image.data).take i)) s
  -- The ranges make up the file behind the header.
  aligned : ∀ segment ∈ file.segments, segment.offset.toNat % 4 = 0
  ascending : file.segments.Pairwise fun a b => a.offset < b.offset
  disjoint : file.segments.Pairwise fun a b => a.offset.toNat + a.size.toNat ≤ b.offset.toNat
  inBounds : ∀ segment ∈ file.segments, segment.InBounds bytes.length
  covered : ∀ p, headerSize ≤ p → p < bytes.length → ∃ segment ∈ file.segments,
    segment.offset.toNat ≤ p ∧ p < segment.offset.toNat + segment.size.toNat
  entryPoint_eq : file.entryPoint = image.entryPoint
  bss_eq : ∀ bss ∈ image.bss, file.bssAddress = bss.address ∧ file.bssSize = bss.size
  -- No section has size zero, so zero words say that there is no bss.
  bss_none : image.bss = none ↔ file.bssAddress = 0 ∧ file.bssSize = 0
  rest_zero : ∀ p < headerSize, (∀ i < image.text.length, ¬textSlots.Covers i p) →
    (∀ i < image.data.length, ¬dataSlots.Covers i p) → ¬InWord bssAddressPosition p →
    ¬InWord bssSizePosition p → ¬InWord entryPointPosition p → bytes[p]? = some 0

theorem describes_written {image : Image} (hslots : HasSlots image)
    (hlength : headerSize + payloadLength (image.text ++ image.data) < wordLimit) :
    Describes (written image) (loaded image) image := by
  have hstored : ∀ s ∈ image.text ++ image.data, s.isZeroed = false := fun s hs => stored_of_mem hs
  have hdisjoint : (loaded image).segments.Pairwise
      fun a b => a.offset.toNat + a.size.toNat ≤ b.offset.toNat := by
    rw [segments_loaded]
    exact pairwise_place hstored hlength
  refine {
    text_length := length_place _ _
    data_length := length_place _ _
    stores := ?_
    aligned := ?_
    ascending := ?_
    disjoint := hdisjoint
    inBounds := fun segment hsegment => inBounds_loaded hslots hlength hsegment
    covered := ?_
    entryPoint_eq := rfl
    bss_eq := ?_
    bss_none := ?_
    rest_zero := ?_ }
  · intro i segment s hsegment hs
    have hheader := length_header hslots
    rw [segments_loaded, ← hheader] at hsegment
    have hstores := stores_of_place hstored (by rw [hheader]; exact hlength) hsegment hs
    rwa [hheader] at hstores
  · intro segment hsegment
    rw [segments_loaded] at hsegment
    obtain ⟨-, -, -, hmod⟩ := bounds_of_mem_place hstored hlength hsegment
    exact hmod
  · refine hdisjoint.imp_of_mem ?_
    intro a b ha _ hend
    have hsize : a.size.toNat ≠ 0 := fun hzero =>
      size_ne_zero_of_mem_loaded hlength ha (UInt32.toNat_inj.1 hzero)
    rw [UInt32.lt_iff_toNat_lt]
    omega
  · intro p hp hp'
    rw [length_written hslots] at hp'
    rw [segments_loaded]
    exact exists_mem_place hstored hlength hp hp'
  · intro bss hbss
    rw [Option.mem_def] at hbss
    simp [loaded, hbss]
  · cases hbss : image.bss with
    | none => simp [loaded, hbss]
    | some bss => simp [loaded, hbss, bss.size_ne_zero]
  · intro p hp htext hdata hbssAddress hbssSize hentry
    have houtside : ∀ word ∈ headerWords image, ¬InWord word.1 p := by
      intro word hword hin
      obtain (hfixed | hfixed | hfixed) | ⟨i, hi, hslot⟩ | ⟨i, hi, hslot⟩ :=
        position_of_mem_headerWords hword
      · exact hbssAddress (hfixed ▸ hin)
      · exact hbssSize (hfixed ▸ hin)
      · exact hentry (hfixed ▸ hin)
      · exact htext i hi (SlotTable.covers_of_inWord hslot hin)
      · exact hdata i hi (SlotTable.covers_of_inWord hslot hin)
    rw [written, List.getElem?_append_left (by rw [length_header hslots]; exact hp),
      getElem?_putWords_of_outside (room_headerWords hslots) houtside, List.getElem?_replicate,
      if_pos hp]

/-- **Round trip and layout.** An image with at most seven text and eleven data sections is encoded
if its executable stays below the limit of a word. The executable is read back, it holds the
sections in their order right behind the header, and unused parts of the header are zero. Too many
sections of a kind are reported, text before data. -/
theorem encode_describes (image : Image) :
    (7 < image.text.length →
      encode image = .error (.tooManySections .text image.text.length 7)) ∧
    (image.text.length ≤ 7 → 11 < image.data.length →
      encode image = .error (.tooManySections .data image.data.length 11)) ∧
    (image.text.length ≤ 7 → image.data.length ≤ 11 →
      headerSize + payloadLength (image.text ++ image.data) < wordLimit →
      ∃ bytes file, encode image = .ok bytes ∧
        bytes.length = headerSize + payloadLength (image.text ++ image.data) ∧
        parse bytes = .ok file ∧ Describes bytes file image) := by
  refine ⟨fun htext => ?_, fun htext hdata => ?_, fun htext hdata hlength => ?_⟩
  · rw [encode_eq, if_pos htext]
  · rw [encode_eq, if_neg (Nat.not_lt.2 htext), if_pos hdata]
  · have hslots : HasSlots image := ⟨htext, hdata⟩
    refine ⟨written image, loaded image, ?_, length_written hslots, parse_written hslots hlength,
      describes_written hslots hlength⟩
    rw [encode_eq, if_neg (Nat.not_lt.2 htext), if_neg (Nat.not_lt.2 hdata), if_pos hlength]

theorem encode_describes_four_sections :
    let image : Image := {
      entryPoint := 0x80001000
      text := [⟨0x80001000, .stored [1, 2, 3, 4], ⟨by decide, by decide, by decide⟩⟩,
        ⟨0x80002000, .stored [5, 6, 7, 8, 9, 10, 11, 12], ⟨by decide, by decide, by decide⟩⟩]
      data := [⟨0x80000000, .stored [13, 14, 15, 16], ⟨by decide, by decide, by decide⟩⟩]
      bss := some ⟨0x80003000, .zeroed 8, ⟨by decide, by decide, by decide⟩⟩
      text_stored := by decide
      data_stored := by decide
      bss_zeroed := by decide }
    image.text.length ≤ 7 ∧ image.data.length ≤ 11 ∧
    headerSize + payloadLength (image.text ++ image.data) < wordLimit ∧
    ∃ bytes file, encode image = .ok bytes ∧
      bytes.length = headerSize + payloadLength (image.text ++ image.data) ∧
      parse bytes = .ok file ∧ Describes bytes file image := by
  intro image
  have htext : image.text.length ≤ 7 := by decide
  have hdata : image.data.length ≤ 11 := by decide
  have hlength : headerSize + payloadLength (image.text ++ image.data) < wordLimit := by decide
  exact ⟨htext, hdata, hlength, (encode_describes image).2.2 htext hdata hlength⟩

end LinkBench.Dol
