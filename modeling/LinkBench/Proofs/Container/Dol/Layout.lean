import LinkBench.Proofs.Container.Dol.Header

/-!
# The layout of an executable

The segments of an image follow one another behind the header, text before data. The header holds
their slots, the bss and the entry point, which are words that stand apart; everything else in it is
zero. `encode_eq` says that the writer, which interleaves all this, gives that layout, or which of
the three limits the image exceeds.
-/

namespace LinkBench.Dol

/-! ### Segments -/

def payloadLength (sections : List Section) : Nat :=
  (sections.flatMap (·.bytes)).length

theorem payloadLength_cons (s : Section) (rest : List Section) :
    payloadLength (s :: rest) = s.bytes.length + payloadLength rest := by
  rw [payloadLength, List.flatMap_cons, List.length_append, payloadLength]

theorem payloadLength_append (first second : List Section) :
    payloadLength (first ++ second) = payloadLength first + payloadLength second := by
  rw [payloadLength, List.flatMap_append, List.length_append, payloadLength, payloadLength]

/-- The segments of sections whose bytes follow one another from `start` on. -/
def place (start : Nat) : List Section → List Segment
  | [] => []
  | s :: rest =>
    ⟨UInt32.ofNat start, s.address, s.storedSize⟩ :: place (start + s.bytes.length) rest

theorem length_place (start : Nat) (sections : List Section) :
    (place start sections).length = sections.length := by
  induction sections generalizing start with
  | nil => rfl
  | cons s rest ih => rw [place, List.length_cons, ih, List.length_cons]

theorem place_append (start : Nat) (first second : List Section) :
    place start (first ++ second) =
      place start first ++ place (start + payloadLength first) second := by
  induction first generalizing start with
  | nil => rfl
  | cons s rest ih =>
    rw [List.cons_append, place, place, ih, payloadLength_cons, Nat.add_assoc, List.cons_append]

def textSegments (image : Image) : List Segment :=
  place headerSize image.text

def dataSegments (image : Image) : List Segment :=
  place (headerSize + payloadLength image.text) image.data

/-! ### Header words -/

namespace SlotTable

def words (table : SlotTable) (index : Nat) (segment : Segment) : List (Nat × UInt32) :=
  [(table.offsets + 4 * index, segment.offset), (table.addresses + 4 * index, segment.address),
    (table.sizes + 4 * index, segment.size)]

/-- The words of consecutive slots from number `index` on. -/
def slotWords (table : SlotTable) (index : Nat) : List Segment → List (Nat × UInt32)
  | [] => []
  | segment :: rest => table.words index segment ++ table.slotWords (index + 1) rest

theorem fill_eq_putWords (table : SlotTable) (out : Bytes) (index : Nat) (segment : Segment) :
    table.fill out index segment = putWords out (table.words index segment) :=
  rfl

theorem mem_slotWords {table : SlotTable} {index : Nat} {segments : List Segment}
    {word : Nat × UInt32} : word ∈ table.slotWords index segments ↔
      ∃ i segment, segments[i]? = some segment ∧ word ∈ table.words (index + i) segment := by
  induction segments generalizing index with
  | nil => simp [slotWords]
  | cons first rest ih =>
    rw [slotWords, List.mem_append, ih]
    constructor
    · rintro (hfirst | ⟨i, segment, hsegment, hword⟩)
      · exact ⟨0, first, rfl, hfirst⟩
      · refine ⟨i + 1, segment, hsegment, ?_⟩
        rwa [Nat.add_comm i 1, ← Nat.add_assoc]
    · rintro ⟨i, segment, hsegment, hword⟩
      cases i with
      | zero =>
        obtain rfl := Option.some.inj hsegment
        exact .inl hword
      | succ i =>
        refine .inr ⟨i, segment, hsegment, ?_⟩
        rwa [Nat.add_comm i 1, ← Nat.add_assoc] at hword

/-- Appending sections puts the words of their slots into the header and their bytes behind what
is there, as long as the positions stay within 32 bits. -/
theorem append_eq {table : SlotTable} {header payload : Bytes} {index : Nat}
    {sections : List Section}
    (hroom : ∀ word ∈ table.slotWords index (place (header ++ payload).length sections),
      word.1 + 4 ≤ header.length)
    (hstart : (header ++ payload).length < wordLimit) :
    table.append (header ++ payload) index sections =
      if (header ++ payload).length + payloadLength sections < wordLimit then
        .ok (putWords header (table.slotWords index (place (header ++ payload).length sections)) ++
          (payload ++ sections.flatMap (·.bytes)))
      else .error .imageTooLarge := by
  induction sections generalizing header payload index with
  | nil =>
    rw [append, if_pos (by simpa [payloadLength] using hstart)]
    simp [place, slotWords, putWords]
  | cons s rest ih =>
    -- The new words fall into the header, whatever payload has grown behind it.
    set out := header ++ payload with hout
    set segment : Segment := ⟨UInt32.ofNat out.length, s.address, s.storedSize⟩ with hsegment
    rw [place, slotWords, List.forall_mem_append] at hroom
    have hlength := length_putWords hroom.1
    have hfill : table.fill (out ++ s.bytes) index segment =
        putWords header (table.words index segment) ++ (payload ++ s.bytes) := by
      rw [fill_eq_putWords, hout, List.append_assoc, putWords_append_right hroom.1]
    have hnext : (putWords header (table.words index segment) ++ (payload ++ s.bytes)).length =
        out.length + s.bytes.length := by
      rw [List.length_append, hlength, hout, List.length_append, List.length_append, Nat.add_assoc]
    have hrun : table.append out index (s :: rest) = (do
        let _ ← lengthWord (out ++ s.bytes)
        table.append (table.fill (out ++ s.bytes) index segment) (index + 1) rest) := by
      rw [append, lengthWord, if_pos hstart]
      rfl
    rw [hrun, lengthWord, List.length_append, payloadLength_cons, ← Nat.add_assoc]
    by_cases hfits : out.length + s.bytes.length < wordLimit
    · rw [if_pos hfits]
      change table.append (table.fill (out ++ s.bytes) index segment) (index + 1) rest = _
      rw [hfill, ih (by rw [hnext, hlength]; exact hroom.2) (by rw [hnext]; exact hfits), hnext,
        ← putWords_append, place, slotWords, List.flatMap_cons, List.append_assoc]
    · rw [if_neg hfits, if_neg (by omega)]
      rfl

/-- The columns of the table lie in the header, one behind the other. -/
structure InHeader (table : SlotTable) : Prop where
  offsets_le : table.offsets + 4 * table.capacity ≤ table.addresses
  addresses_le : table.addresses + 4 * table.capacity ≤ table.sizes
  sizes_le : table.sizes + 4 * table.capacity ≤ headerSize

theorem inHeader_textSlots : textSlots.InHeader :=
  ⟨by decide, by decide, by decide⟩

theorem inHeader_dataSlots : dataSlots.InHeader :=
  ⟨by decide, by decide, by decide⟩

/-- The positions in the three columns of a table, up to slot number `used`. -/
def Position (table : SlotTable) (used position : Nat) : Prop :=
  ∃ i < used, position = table.offsets + 4 * i ∨ position = table.addresses + 4 * i ∨
    position = table.sizes + 4 * i

theorem position_of_mem {table : SlotTable} {segments : List Segment} {word : Nat × UInt32}
    (h : word ∈ table.slotWords 0 segments) : table.Position segments.length word.1 := by
  obtain ⟨i, segment, hsegment, hword⟩ := mem_slotWords.1 h
  obtain ⟨hi, -⟩ := List.getElem?_eq_some_iff.1 hsegment
  rw [Nat.zero_add] at hword
  refine ⟨i, hi, ?_⟩
  simp only [words, List.mem_cons, List.not_mem_nil, or_false] at hword
  obtain rfl | rfl | rfl := hword
  · exact .inl rfl
  · exact .inr (.inl rfl)
  · exact .inr (.inr rfl)

theorem InHeader.pairwise_slotWords {table : SlotTable} (htable : table.InHeader) {index : Nat}
    {segments : List Segment} (hroom : index + segments.length ≤ table.capacity) :
    (table.slotWords index segments).Pairwise fun a b => Apart a.1 b.1 := by
  obtain ⟨hoffsets, haddresses, hsizes⟩ := htable
  induction segments generalizing index with
  | nil => exact .nil
  | cons segment rest ih =>
    rw [List.length_cons] at hroom
    rw [slotWords, List.pairwise_append]
    refine ⟨?_, ih (by omega), ?_⟩
    · simp only [words, Apart, List.pairwise_cons, List.mem_cons, List.not_mem_nil, or_false,
        forall_eq_or_imp, forall_eq, List.Pairwise.nil, false_implies, implies_true, and_true]
      omega
    · intro word hword word' hword'
      obtain ⟨i, segment', hsegment', hword'⟩ := mem_slotWords.1 hword'
      obtain ⟨hi, -⟩ := List.getElem?_eq_some_iff.1 hsegment'
      simp only [words, List.mem_cons, List.not_mem_nil, or_false] at hword hword'
      unfold Apart
      obtain rfl | rfl | rfl := hword <;> obtain rfl | rfl | rfl := hword' <;> simp only <;> omega

end SlotTable

/-- The words outside the slot tables; a missing bss leaves its words alone. -/
def fixedWords (image : Image) : List (Nat × UInt32) :=
  (match image.bss with
    | some bss => [(bssAddressPosition, bss.address), (bssSizePosition, bss.size)]
    | none => []) ++ [(entryPointPosition, image.entryPoint)]

/-- Everything that is put into the header, in the order of writing. -/
def headerWords (image : Image) : List (Nat × UInt32) :=
  fixedWords image ++ textSlots.slotWords 0 (textSegments image) ++
    dataSlots.slotWords 0 (dataSegments image)

/-- The executable for an image that has a slot for each of its sections. -/
def written (image : Image) : Bytes :=
  putWords (List.replicate headerSize 0) (headerWords image) ++
    (image.text ++ image.data).flatMap (·.bytes)

structure HasSlots (image : Image) : Prop where
  text_le : image.text.length ≤ 7
  data_le : image.data.length ≤ 11

theorem blankHeader_eq (image : Image) :
    blankHeader image = putWords (List.replicate headerSize 0) (fixedWords image) := by
  unfold blankHeader fixedWords
  cases image.bss <;> rfl

theorem position_of_mem_fixedWords {image : Image} {word : Nat × UInt32}
    (h : word ∈ fixedWords image) : word.1 = bssAddressPosition ∨ word.1 = bssSizePosition ∨
      word.1 = entryPointPosition := by
  unfold fixedWords at h
  cases hbss : image.bss with
  | none =>
    simp only [hbss, List.nil_append, List.mem_singleton] at h
    simp [h]
  | some bss =>
    simp only [hbss, List.mem_append, List.mem_cons, List.not_mem_nil, or_false] at h
    obtain (rfl | rfl) | rfl := h <;> simp

theorem position_of_mem_textSegments {image : Image} {word : Nat × UInt32}
    (h : word ∈ textSlots.slotWords 0 (textSegments image)) :
    textSlots.Position image.text.length word.1 := by
  have hposition := SlotTable.position_of_mem h
  rwa [textSegments, length_place] at hposition

theorem position_of_mem_dataSegments {image : Image} {word : Nat × UInt32}
    (h : word ∈ dataSlots.slotWords 0 (dataSegments image)) :
    dataSlots.Position image.data.length word.1 := by
  have hposition := SlotTable.position_of_mem h
  rwa [dataSegments, length_place] at hposition

theorem position_of_mem_headerWords {image : Image} {word : Nat × UInt32}
    (h : word ∈ headerWords image) :
    (word.1 = bssAddressPosition ∨ word.1 = bssSizePosition ∨ word.1 = entryPointPosition) ∨
      textSlots.Position image.text.length word.1 ∨
      dataSlots.Position image.data.length word.1 := by
  rw [headerWords, List.mem_append, List.mem_append] at h
  obtain (hfixed | htext) | hdata := h
  · exact .inl (position_of_mem_fixedWords hfixed)
  · exact .inr (.inl (position_of_mem_textSegments htext))
  · exact .inr (.inr (position_of_mem_dataSegments hdata))

theorem le_headerSize_of_mem_headerWords {image : Image} (hslots : HasSlots image)
    {word : Nat × UInt32} (h : word ∈ headerWords image) : word.1 + 4 ≤ headerSize := by
  obtain ⟨htext, hdata⟩ := hslots
  have hposition := position_of_mem_headerWords h
  simp only [SlotTable.Position, textSlots, dataSlots, bssAddressPosition, bssSizePosition,
    entryPointPosition] at hposition
  unfold headerSize
  omega

theorem room_headerWords {image : Image} (hslots : HasSlots image) :
    ∀ word ∈ headerWords image, word.1 + 4 ≤ (List.replicate headerSize (0 : UInt8)).length := by
  intro word hword
  rw [List.length_replicate]
  exact le_headerSize_of_mem_headerWords hslots hword

/-- No word of the header is put on another one. -/
theorem pairwise_headerWords {image : Image} (hslots : HasSlots image) :
    (headerWords image).Pairwise fun a b => Apart a.1 b.1 := by
  obtain ⟨htext, hdata⟩ := hslots
  have htextRoom : 0 + (textSegments image).length ≤ textSlots.capacity := by
    rw [Nat.zero_add, textSegments, length_place]
    exact htext
  have hdataRoom : 0 + (dataSegments image).length ≤ dataSlots.capacity := by
    rw [Nat.zero_add, dataSegments, length_place]
    exact hdata
  rw [headerWords, List.pairwise_append, List.pairwise_append]
  refine ⟨⟨?_, SlotTable.inHeader_textSlots.pairwise_slotWords htextRoom, ?_⟩,
    SlotTable.inHeader_dataSlots.pairwise_slotWords hdataRoom, ?_⟩
  · unfold fixedWords
    split <;> simp [Apart, bssAddressPosition, bssSizePosition, entryPointPosition]
  · intro word hword word' hword'
    have hfixed := position_of_mem_fixedWords hword
    have hposition := position_of_mem_textSegments hword'
    simp only [SlotTable.Position, textSlots, bssAddressPosition, bssSizePosition,
      entryPointPosition] at hfixed hposition
    unfold Apart
    omega
  · intro word hword word' hword'
    have hposition := position_of_mem_dataSegments hword'
    unfold Apart
    obtain hword | hword := List.mem_append.1 hword
    · have hfixed := position_of_mem_fixedWords hword
      simp only [SlotTable.Position, dataSlots, bssAddressPosition, bssSizePosition,
        entryPointPosition] at hfixed hposition
      omega
    · have htextPosition := position_of_mem_textSegments hword
      simp only [SlotTable.Position, textSlots, dataSlots] at htextPosition hposition
      omega

theorem length_blankHeader (image : Image) : (blankHeader image).length = headerSize := by
  rw [blankHeader_eq, length_putWords, List.length_replicate]
  intro word hword
  have hfixed := position_of_mem_fixedWords hword
  simp only [bssAddressPosition, bssSizePosition, entryPointPosition] at hfixed
  rw [List.length_replicate, headerSize]
  omega

def textHeader (image : Image) : Bytes :=
  putWords (blankHeader image) (textSlots.slotWords 0 (textSegments image))

theorem length_textHeader {image : Image} (hslots : HasSlots image) :
    (textHeader image).length = headerSize := by
  rw [textHeader, length_putWords, length_blankHeader]
  intro word hword
  rw [length_blankHeader]
  exact le_headerSize_of_mem_headerWords hslots (List.mem_append_left _ (List.mem_append_right _ hword))

theorem append_text_eq {image : Image} (hslots : HasSlots image) :
    textSlots.append (blankHeader image) 0 image.text =
      if headerSize + payloadLength image.text < wordLimit then
        .ok (textHeader image ++ image.text.flatMap (·.bytes))
      else .error .imageTooLarge := by
  have hlength : (blankHeader image ++ []).length = headerSize := by
    rw [List.append_nil, length_blankHeader]
  have hroom : ∀ word ∈ textSlots.slotWords 0 (place (blankHeader image ++ []).length image.text),
      word.1 + 4 ≤ (blankHeader image).length := by
    intro word hword
    rw [hlength] at hword
    rw [length_blankHeader]
    exact le_headerSize_of_mem_headerWords hslots
      (List.mem_append_left _ (List.mem_append_right _ hword))
  have happend := SlotTable.append_eq hroom (by rw [hlength]; decide)
  rwa [hlength, List.append_nil, List.nil_append] at happend

theorem append_data_eq {image : Image} (hslots : HasSlots image)
    (hfits : headerSize + payloadLength image.text < wordLimit) :
    dataSlots.append (textHeader image ++ image.text.flatMap (·.bytes)) 0 image.data =
      if headerSize + payloadLength (image.text ++ image.data) < wordLimit then .ok (written image)
      else .error .imageTooLarge := by
  have hlength : (textHeader image ++ image.text.flatMap (·.bytes)).length =
      headerSize + payloadLength image.text := by
    rw [List.length_append, length_textHeader hslots, payloadLength]
  have hroom : ∀ word ∈ dataSlots.slotWords 0
      (place (textHeader image ++ image.text.flatMap (·.bytes)).length image.data),
      word.1 + 4 ≤ (textHeader image).length := by
    intro word hword
    rw [hlength] at hword
    rw [length_textHeader hslots]
    exact le_headerSize_of_mem_headerWords hslots (List.mem_append_right _ hword)
  have happend := SlotTable.append_eq hroom (by rw [hlength]; exact hfits)
  rw [hlength, Nat.add_assoc, ← payloadLength_append, textHeader, blankHeader_eq,
    ← putWords_append, ← putWords_append, ← List.flatMap_append] at happend
  rw [textHeader, blankHeader_eq, ← putWords_append]
  exact happend

/-- **Writing an executable.** The writer gives the layout of the image, unless there are too many
text sections, else too many data sections, else too many bytes. -/
theorem encode_eq (image : Image) : encode image =
    if 7 < image.text.length then .error (.tooManySections .text image.text.length 7)
    else if 11 < image.data.length then .error (.tooManySections .data image.data.length 11)
    else if headerSize + payloadLength (image.text ++ image.data) < wordLimit then
      .ok (written image)
    else .error .imageTooLarge := by
  have htextCapacity : textSlots.capacity = 7 := rfl
  have hdataCapacity : dataSlots.capacity = 11 := rfl
  rw [encode, checkCapacity, checkCapacity, htextCapacity, hdataCapacity]
  by_cases htext : image.text.length ≤ 7
  · rw [if_pos htext, if_neg (Nat.not_lt.2 htext)]
    by_cases hdata : image.data.length ≤ 11
    · rw [if_pos hdata, if_neg (Nat.not_lt.2 hdata)]
      have hslots : HasSlots image := ⟨htext, hdata⟩
      change ((textSlots.append (blankHeader image) 0 image.text).bind fun out =>
        dataSlots.append out 0 image.data) = _
      rw [append_text_eq hslots]
      by_cases hfits : headerSize + payloadLength image.text < wordLimit
      · rw [if_pos hfits]
        exact append_data_eq hslots hfits
      · rw [if_neg hfits, if_neg (by rw [payloadLength_append]; omega)]
        rfl
    · rw [if_neg hdata, if_pos (Nat.lt_of_not_le hdata)]
      rfl
  · rw [if_neg htext, if_pos (Nat.lt_of_not_le htext)]
    rfl

theorem encode_eq_ok_iff {image : Image} {bytes : Bytes} : encode image = .ok bytes ↔
    HasSlots image ∧ headerSize + payloadLength (image.text ++ image.data) < wordLimit ∧
      bytes = written image := by
  rw [encode_eq]
  constructor
  · intro h
    split_ifs at h with htext hdata hlength
    cases h
    exact ⟨⟨Nat.le_of_not_lt htext, Nat.le_of_not_lt hdata⟩, hlength, rfl⟩
  · rintro ⟨⟨htext, hdata⟩, hlength, rfl⟩
    rw [if_neg (Nat.not_lt.2 htext), if_neg (Nat.not_lt.2 hdata), if_pos hlength]

end LinkBench.Dol
