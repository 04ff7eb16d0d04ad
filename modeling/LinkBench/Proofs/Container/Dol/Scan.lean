import LinkBench.Proofs.Container.Dol.RoundTrip

/-!
# What the reader says of any bytes

The reader goes through the slots of the header, text before data, and stops at the first one that
is used and whose bytes are not all in the file, behind the header (`parse_any`). It does not look
at payloads, so bytes behind an accepted file go unnoticed. But the payloads of an executable reach
to its end, so wherever it is cut off, a slot is left that points outside (`parse_take`).
-/

namespace LinkBench.Dol

/-! ### Slots -/

/-- The slot is used, but not all of its bytes are in a file of `length` bytes, behind the
header. -/
def Segment.Bad (segment : Segment) (length : Nat) : Prop :=
  segment.size ≠ 0 ∧
    (segment.offset.toNat < headerSize ∨ length < segment.offset.toNat + segment.size.toNat)

instance (segment : Segment) (length : Nat) : Decidable (segment.Bad length) :=
  inferInstanceAs (Decidable (_ ∧ _))

theorem Segment.bad_iff {segment : Segment} {length : Nat} :
    segment.Bad length ↔ segment.size ≠ 0 ∧ ¬segment.InBounds length := by
  rw [Bad, InBounds, not_and_or, Nat.not_le, Nat.not_le]

/-- A slot of a header, by its kind and its number. -/
structure Slot where
  kind : SectionKind
  index : Nat
  segment : Segment

def Slot.refusal (slot : Slot) : FormatError :=
  .slotOutOfBounds slot.kind slot.index slot.segment.offset slot.segment.size

namespace SlotTable

def all (table : SlotTable) (input : Bytes) : List Slot :=
  (List.range table.capacity).map fun index => ⟨table.kind, index, table.slot input index⟩

def firstBad (table : SlotTable) (input : Bytes) : Option Slot :=
  (table.all input).find? fun slot => slot.segment.Bad input.length

/-- The used slots of the table, in their order. -/
def used (table : SlotTable) (input : Bytes) : List Segment :=
  ((table.all input).map (·.segment)).filter (·.size != 0)

end SlotTable

/-- The slots of a header in the order in which they are looked at. -/
def slots (input : Bytes) : List Slot :=
  textSlots.all input ++ dataSlots.all input

/-- What the header says, wherever its slots point to. -/
def header (input : Bytes) : File where
  text := textSlots.used input
  data := dataSlots.used input
  bssAddress := wordAt input bssAddressPosition
  bssSize := wordAt input bssSizePosition
  entryPoint := wordAt input entryPointPosition

/-! ### Reading -/

theorem toBigEndian_wordAt {input : Bytes} {position : Nat} (h : position + 4 ≤ input.length) :
    (input.drop position).take 4 = Word.toBigEndian (wordAt input position) := by
  have hlength : 4 ≤ (input.drop position).length := by
    rw [List.length_drop]
    omega
  unfold wordAt
  match input.drop position, hlength with
  | b₀ :: b₁ :: b₂ :: b₃ :: rest, _ =>
    have hword := congrArg List.reverse (Word.toLittleEndian_ofLittleEndian b₃ b₂ b₁ b₀)
    exact hword.symm

namespace SlotTable

theorem firstBad_eq (table : SlotTable) (input : Bytes) : table.firstBad input =
    ((List.range table.capacity).find? fun i => (table.slot input i).Bad input.length).map
      fun i => ⟨table.kind, i, table.slot input i⟩ := by
  rw [firstBad, all, List.find?_map]
  rfl

/-- Reading a table reports the first bad slot, or gives the used ones. -/
theorem read_eq (table : SlotTable) (input : Bytes) : table.read input =
    match table.firstBad input with
    | some slot => .error slot.refusal
    | none => .ok (table.used input) := by
  have hbad : ∀ segment : Segment, (segment.size != 0) = true ∧
      (!decide (segment.InBounds input.length)) = true ↔ segment.Bad input.length := by
    intro segment
    simp only [Segment.bad_iff, bne_iff_ne, Bool.not_eq_true', decide_eq_false_iff_not]
  have hfind : (table.usedSlots input).find? (fun slot => !decide (slot.2.InBounds input.length)) =
      ((List.range table.capacity).find? fun i => (table.slot input i).Bad input.length).map
        fun i => (i, table.slot input i) := by
    rw [usedSlots, List.find?_filter, List.find?_map]
    simp only [Function.comp_def, hbad]
  have hused : (table.usedSlots input).map (·.2) = table.used input := by
    rw [map_usedSlots, used, all, List.map_map]
    rfl
  rw [read, hfind, hused, firstBad_eq]
  cases (List.range table.capacity).find? fun i => (table.slot input i).Bad input.length <;> rfl

end SlotTable

theorem find_slots (input : Bytes) :
    ((slots input).find? fun slot => slot.segment.Bad input.length) =
      (textSlots.firstBad input).or (dataSlots.firstBad input) :=
  List.find?_append

theorem parse_eq (input : Bytes) : parse input =
    if input.length < headerSize then .error (.unexpectedEnd input.length)
    else match (slots input).find? fun slot => slot.segment.Bad input.length with
      | some slot => .error slot.refusal
      | none => .ok (header input) := by
  rw [find_slots]
  unfold parse
  split
  · rfl
  · rw [SlotTable.read_eq, SlotTable.read_eq]
    cases textSlots.firstBad input with
    | some slot => rfl
    | none => cases dataSlots.firstBad input <;> rfl

theorem parse_eq_ok_iff {input : Bytes} {file : File} : parse input = .ok file ↔
    headerSize ≤ input.length ∧ (∀ slot ∈ slots input, ¬slot.segment.Bad input.length) ∧
      file = header input := by
  have hnone : ((slots input).find? fun slot => slot.segment.Bad input.length) = none ↔
      ∀ slot ∈ slots input, ¬slot.segment.Bad input.length := by
    simp only [List.find?_eq_none, decide_eq_true_eq]
  rw [parse_eq, ← hnone, ← Nat.not_lt]
  split
  · simp [*]
  · cases (slots input).find? fun slot => slot.segment.Bad input.length with
    | some slot => simp
    | none => simp [*, eq_comm]

theorem mem_all_of_mem_used {table : SlotTable} {input : Bytes} {segment : Segment}
    (h : segment ∈ table.used input) :
    segment.size ≠ 0 ∧ ∃ slot ∈ table.all input, slot.segment = segment := by
  rw [SlotTable.used, List.mem_filter, List.mem_map, bne_iff_ne] at h
  exact h.symm

theorem inBounds_of_mem_header {input : Bytes} {segment : Segment}
    (hbad : ∀ slot ∈ slots input, ¬slot.segment.Bad input.length)
    (h : segment ∈ (header input).segments) : segment.size ≠ 0 ∧ segment.InBounds input.length := by
  have hslot : segment.size ≠ 0 ∧ ∃ slot ∈ slots input, slot.segment = segment := by
    obtain htext | hdata := List.mem_append.1 h
    · obtain ⟨hused, slot, hslot, heq⟩ := mem_all_of_mem_used htext
      exact ⟨hused, slot, List.mem_append_left _ hslot, heq⟩
    · obtain ⟨hused, slot, hslot, heq⟩ := mem_all_of_mem_used hdata
      exact ⟨hused, slot, List.mem_append_right _ hslot, heq⟩
  obtain ⟨hused, slot, hslot, rfl⟩ := hslot
  have hgood := hbad slot hslot
  rw [Segment.bad_iff, not_and_not_right] at hgood
  exact ⟨hused, hgood hused⟩

theorem length_slice {input : Bytes} {segment : Segment} (h : segment.InBounds input.length) :
    (segment.slice input).length = segment.size.toNat := by
  have hend := h.2
  rw [Segment.slice, List.length_take, List.length_drop]
  omega

/-! ### Longer files -/

section Append

variable {input : Bytes} (hinput : headerSize ≤ input.length) (more : Bytes)

include hinput

theorem wordAt_header_append {position : Nat} (h : position + 4 ≤ headerSize) :
    wordAt (input ++ more) position = wordAt input position :=
  wordAt_append (h.trans hinput) more

theorem slot_append {table : SlotTable} (htable : table.InHeader) {index : Nat}
    (hindex : index < table.capacity) :
    table.slot (input ++ more) index = table.slot input index := by
  obtain ⟨hoffsets, haddresses, hsizes⟩ := htable
  rw [SlotTable.slot, wordAt_header_append hinput more (by omega),
    wordAt_header_append hinput more (by omega), wordAt_header_append hinput more (by omega)]
  rfl

theorem all_append {table : SlotTable} (htable : table.InHeader) :
    table.all (input ++ more) = table.all input := by
  refine List.map_congr_left fun index hindex => ?_
  rw [slot_append hinput more htable (List.mem_range.1 hindex)]

theorem header_append : header (input ++ more) = header input := by
  rw [header, SlotTable.used, SlotTable.used, all_append hinput more SlotTable.inHeader_textSlots,
    all_append hinput more SlotTable.inHeader_dataSlots,
    wordAt_header_append hinput more (by decide), wordAt_header_append hinput more (by decide),
    wordAt_header_append hinput more (by decide)]
  rfl

theorem slots_append : slots (input ++ more) = slots input := by
  rw [slots, all_append hinput more SlotTable.inHeader_textSlots,
    all_append hinput more SlotTable.inHeader_dataSlots, slots]

end Append

theorem parse_append_of_ok {input : Bytes} {file : File} (h : parse input = .ok file)
    (more : Bytes) : parse (input ++ more) = .ok file := by
  obtain ⟨hinput, hbad, rfl⟩ := parse_eq_ok_iff.1 h
  refine parse_eq_ok_iff.2 ⟨?_, ?_, (header_append hinput more).symm⟩
  · rw [List.length_append]
    omega
  · intro slot hslot hworse
    rw [slots_append hinput more] at hslot
    refine hbad slot hslot ⟨hworse.1, hworse.2.imp_right fun hend => ?_⟩
    rw [List.length_append] at hend
    omega

/-- **Any bytes.** Input that is shorter than a header has ended too early. Of a longer one, the
first bad slot is reported. If there is none, the header is read as it is: the used slots in their
order, the bss and the entry point. Each segment is then a slice of the file behind its header, and
what follows the file makes no difference. -/
theorem parse_any (input : Bytes) :
    (∀ n, parse input = .error (.unexpectedEnd n) ↔ n = input.length ∧ input.length < headerSize) ∧
    (headerSize ≤ input.length →
      (∀ position, position + 4 ≤ headerSize →
        (input.drop position).take 4 = Word.toBigEndian (wordAt input position)) ∧
      ((∃ slot ∈ slots input, slot.segment.Bad input.length) →
        ∃ (before : List Slot) (slot : Slot) (after : List Slot),
          slots input = before ++ slot :: after ∧
          (∀ earlier ∈ before, ¬earlier.segment.Bad input.length) ∧
          slot.segment.Bad input.length ∧
          parse input = .error
            (.slotOutOfBounds slot.kind slot.index slot.segment.offset slot.segment.size)) ∧
      ((∀ slot ∈ slots input, ¬slot.segment.Bad input.length) → parse input = .ok (header input))) ∧
    ∀ file, parse input = .ok file →
      (∀ segment ∈ file.segments, segment.InBounds input.length ∧
        (segment.slice input).length = segment.size.toNat ∧ 0 < (segment.slice input).length) ∧
      ∀ more, parse (input ++ more) = .ok file := by
  refine ⟨fun n => ?_, fun hinput => ⟨fun position hposition => ?_, ?_, fun hbad => ?_⟩,
    fun file hparse => ⟨fun segment hsegment => ?_, fun more => parse_append_of_ok hparse more⟩⟩
  · rw [parse_eq]
    split
    · simp [*, eq_comm]
    · cases (slots input).find? fun slot => slot.segment.Bad input.length with
      | some slot => simp [Slot.refusal, *]
      | none => simp [*]
  · exact toBigEndian_wordAt (hposition.trans hinput)
  · rintro ⟨bad, hmem, hbad⟩
    have hsome : ((slots input).find? fun slot => slot.segment.Bad input.length).isSome :=
      List.find?_isSome.2 ⟨bad, hmem, decide_eq_true hbad⟩
    obtain ⟨slot, hfind⟩ := Option.isSome_iff_exists.1 hsome
    obtain ⟨hslot, before, after, hsplit, hbefore⟩ := List.find?_eq_some_iff_append.1 hfind
    refine ⟨before, slot, after, hsplit, fun earlier hearlier => ?_, of_decide_eq_true hslot, ?_⟩
    · simpa using hbefore earlier hearlier
    · rw [parse_eq, if_neg (Nat.not_lt.2 hinput), hfind]
      rfl
  · exact parse_eq_ok_iff.2 ⟨hinput, hbad, rfl⟩
  · obtain ⟨-, hbad, rfl⟩ := parse_eq_ok_iff.1 hparse
    obtain ⟨hused, hbounds⟩ := inBounds_of_mem_header hbad hsegment
    have hlength := length_slice hbounds
    refine ⟨hbounds, hlength, ?_⟩
    rw [hlength]
    exact Nat.pos_of_ne_zero fun hzero => hused (UInt32.toNat_inj.1 hzero)

/-- One file with a free slot in front of the used one, and one with two bad slots. -/
theorem parse_any_with_free_slots :
    let good : Bytes := putWords (List.replicate headerSize 0)
      [(0x04, 256), (0x4c, 0x80001000), (0x94, 4), (0xe0, 0x80001000)] ++ [1, 2, 3, 4]
    let file : File := ⟨[⟨256, 0x80001000, 4⟩], [], 0, 0, 0x80001000⟩
    let bad : Bytes := putWords (List.replicate headerSize 0)
      [(0x0c, 0xfffffffc), (0x9c, 8), (0x1c, 4), (0xac, 4)]
    headerSize ≤ good.length ∧ (∀ slot ∈ slots good, ¬slot.segment.Bad good.length) ∧
    parse good = .ok (header good) ∧ parse good = .ok file ∧
    (∀ segment ∈ file.segments, segment.InBounds good.length ∧
      (segment.slice good).length = segment.size.toNat ∧ 0 < (segment.slice good).length) ∧
    parse (good ++ [5]) = .ok file ∧
    headerSize ≤ bad.length ∧ (∃ slot ∈ slots bad, slot.segment.Bad bad.length) ∧
    ∃ (before : List Slot) (slot : Slot) (after : List Slot), slots bad = before ++ slot :: after ∧
      (∀ earlier ∈ before, ¬earlier.segment.Bad bad.length) ∧ slot.segment.Bad bad.length ∧
      parse bad = .error
        (.slotOutOfBounds slot.kind slot.index slot.segment.offset slot.segment.size) := by
  intro good file bad
  have hgood : headerSize ≤ good.length := by decide +kernel
  have hfine : ∀ slot ∈ slots good, ¬slot.segment.Bad good.length := by decide +kernel
  have hfile : parse good = .ok file := by decide +kernel
  have hbad : headerSize ≤ bad.length := by decide +kernel
  have hexists : ∃ slot ∈ slots bad, slot.segment.Bad bad.length := by decide +kernel
  obtain ⟨-, hread, haccepted⟩ := parse_any good
  obtain ⟨hslices, hmore⟩ := haccepted file hfile
  exact ⟨hgood, hfine, (hread hgood).2.2 hfine, hfile, hslices, hmore [5], hbad, hexists,
    ((parse_any bad).2.1 hbad).2.1 hexists⟩

/-! ### Shorter files -/

/-- The byte number `n` of an executable that reads as `file` belongs to segment number `i`, the
first one that does not end in front of it. -/
structure File.CutAt (file : File) (n i : Nat) (segment : Segment) : Prop where
  segment_eq : file.segments[i]? = some segment
  offset_le : segment.offset.toNat ≤ n
  lt_end : n < segment.offset.toNat + segment.size.toNat
  earlier : ∀ j < i, ∀ other, file.segments[j]? = some other →
    other.offset.toNat + other.size.toNat ≤ n

/-- The kind and the number of section number `i` of an image, text before data. -/
def slotOf (image : Image) (i : Nat) : SectionKind × Nat :=
  if i < image.text.length then (.text, i) else (.data, i - image.text.length)

theorem Describes.exists_cutAt {bytes : Bytes} {file : File} {image : Image}
    (h : Describes bytes file image) {n : Nat} (hn : headerSize ≤ n) (hn' : n < bytes.length) :
    ∃ i segment, file.CutAt n i segment := by
  obtain ⟨segment, hsegment, hstart, hend⟩ := h.covered n hn hn'
  obtain ⟨i, hi⟩ := List.getElem?_of_mem hsegment
  refine ⟨i, segment, hi, hstart, hend, fun j hj other hother => ?_⟩
  obtain ⟨hilt, rfl⟩ := List.getElem?_eq_some_iff.1 hi
  obtain ⟨hjlt, rfl⟩ := List.getElem?_eq_some_iff.1 hother
  exact (List.pairwise_iff_getElem.1 h.disjoint j i hjlt hilt hj).trans hstart

namespace SlotTable.Holds

variable {table : SlotTable} {input : Bytes} {segments : List Segment}

theorem take (h : table.Holds input segments) (htable : table.InHeader) {n : Nat}
    (hn : headerSize ≤ n) (hn' : n ≤ input.length) : table.Holds (input.take n) segments := by
  have hlength : headerSize ≤ (input.take n).length := by
    rw [List.length_take_of_le hn']
    exact hn
  have hslot : ∀ i < table.capacity, table.slot (input.take n) i = table.slot input i := by
    intro i hi
    rw [← slot_append hlength (input.drop n) htable hi, List.take_append_drop]
  refine ⟨h.length_le, fun i segment hsegment => ?_, fun i hfree hi => ?_⟩
  · have hi := (List.getElem?_eq_some_iff.1 hsegment).1
    rw [hslot i (hi.trans_le h.length_le), h.used i segment hsegment]
  · rw [hslot i hi, h.free i hfree hi]

variable (h : table.Holds input segments)
  (hsegments : ∀ segment ∈ segments, segment.size ≠ 0 ∧ headerSize ≤ segment.offset.toNat)

include h hsegments

/-- Only a segment that ends behind the file makes a slot bad. -/
theorem bad_iff {i : Nat} (hi : i < table.capacity) : (table.slot input i).Bad input.length ↔
    ∃ segment, segments[i]? = some segment ∧
      input.length < segment.offset.toNat + segment.size.toNat := by
  cases hsegment : segments[i]? with
  | none =>
    have hfree := h.free i (List.getElem?_eq_none_iff.1 hsegment) hi
    simp [Segment.Bad, hfree]
  | some segment =>
    obtain ⟨hsize, hoffset⟩ := hsegments segment (List.mem_of_getElem? hsegment)
    rw [h.used i segment hsegment]
    simp [Segment.Bad, hsize, Nat.not_lt.2 hoffset]

theorem firstBad_eq_some {i : Nat} {segment : Segment} (hsegment : segments[i]? = some segment)
    (hend : input.length < segment.offset.toNat + segment.size.toNat)
    (hearlier : ∀ j < i, ∀ other, segments[j]? = some other →
      other.offset.toNat + other.size.toNat ≤ input.length) :
    table.firstBad input = some ⟨table.kind, i, segment⟩ := by
  have hi : i < table.capacity :=
    (List.getElem?_eq_some_iff.1 hsegment).1.trans_le h.length_le
  have hfind : ((List.range table.capacity).find? fun i => (table.slot input i).Bad input.length) =
      some i := by
    rw [List.find?_range_eq_some]
    refine ⟨?_, List.mem_range.2 hi, fun j hj => ?_⟩
    · rw [decide_eq_true_eq, h.bad_iff hsegments hi]
      exact ⟨segment, hsegment, hend⟩
    · rw [Bool.not_eq_true', decide_eq_false_iff_not, h.bad_iff hsegments (hj.trans hi)]
      rintro ⟨other, hother, hbehind⟩
      exact absurd hbehind (Nat.not_lt.2 (hearlier j hj other hother))
  rw [firstBad_eq, hfind, Option.map_some, h.used i segment hsegment]

theorem firstBad_eq_none (hends : ∀ segment ∈ segments,
    segment.offset.toNat + segment.size.toNat ≤ input.length) : table.firstBad input = none := by
  rw [firstBad_eq, Option.map_eq_none_iff, List.find?_range_eq_none]
  intro i hi
  rw [Bool.not_eq_true', decide_eq_false_iff_not, h.bad_iff hsegments hi]
  rintro ⟨segment, hsegment, hbehind⟩
  exact absurd hbehind (Nat.not_lt.2 (hends segment (List.mem_of_getElem? hsegment)))

end SlotTable.Holds

/-- The first bad slot of an executable that is cut off is the one of the segment that the cut goes
through. -/
theorem find_slots_take {image : Image} (hslots : HasSlots image)
    (hlength : headerSize + payloadLength (image.text ++ image.data) < wordLimit) {n : Nat}
    (hn : headerSize ≤ n) (hn' : n < (written image).length) {i : Nat} {segment : Segment}
    (hcut : (loaded image).CutAt n i segment) :
    ((slots ((written image).take n)).find? fun slot =>
      slot.segment.Bad ((written image).take n).length) =
        some ⟨(slotOf image i).1, (slotOf image i).2, segment⟩ := by
  have htaken : ((written image).take n).length = n := List.length_take_of_le hn'.le
  have htext := (holds_text_written hslots).take SlotTable.inHeader_textSlots hn hn'.le
  have hdata := (holds_data_written hslots).take SlotTable.inHeader_dataSlots hn hn'.le
  have hsegments : ∀ segment ∈ (loaded image).segments,
      segment.size ≠ 0 ∧ headerSize ≤ segment.offset.toNat := fun segment hsegment =>
    ⟨size_ne_zero_of_mem_loaded hlength hsegment, (inBounds_loaded hslots hlength hsegment).1⟩
  have hcount : (textSegments image).length = image.text.length := length_place _ _
  have hsplit : (loaded image).segments = textSegments image ++ dataSegments image := rfl
  rw [hsplit, List.forall_mem_append] at hsegments
  obtain ⟨hsegment, -, hend, hearlier⟩ := hcut
  rw [hsplit] at hsegment
  rw [find_slots]
  -- Data slots are only looked at if all text ends in front of the cut.
  by_cases hi : i < image.text.length
  · rw [List.getElem?_append_left (by omega)] at hsegment
    rw [htext.firstBad_eq_some hsegments.1 hsegment (by rwa [htaken]), Option.some_or, slotOf,
      if_pos hi]
    · rfl
    · intro j hj other hother
      rw [htaken]
      apply hearlier j hj
      rw [hsplit, List.getElem?_append_left (by omega), hother]
  · rw [List.getElem?_append_right (by omega), hcount] at hsegment
    have hends : ∀ segment ∈ textSegments image,
        segment.offset.toNat + segment.size.toNat ≤ ((written image).take n).length := by
      intro other hother
      obtain ⟨j, hj⟩ := List.getElem?_of_mem hother
      have hjlt := (List.getElem?_eq_some_iff.1 hj).1
      rw [htaken]
      apply hearlier j (by omega)
      rw [hsplit, List.getElem?_append_left hjlt, hj]
    rw [htext.firstBad_eq_none hsegments.1 hends, Option.none_or,
      hdata.firstBad_eq_some hsegments.2 hsegment (by rwa [htaken]), slotOf, if_neg hi]
    · rfl
    · intro j hj other hother
      rw [htaken]
      apply hearlier (image.text.length + j) (by omega)
      rw [hsplit, List.getElem?_append_right (by omega), hcount, Nat.add_sub_cancel_left, hother]

/-- **An executable that is cut off** anywhere is refused. Inside the header it has ended too early.
Behind the header, the slot of the first section that does not end in front of the cut is
reported. -/
theorem parse_take {image : Image} {bytes : Bytes} (hencode : encode image = .ok bytes) {n : Nat}
    (hn : n < bytes.length) :
    (n < headerSize → parse (bytes.take n) = .error (.unexpectedEnd n)) ∧
    (headerSize ≤ n → ∃ file i segment s, parse bytes = .ok file ∧ file.CutAt n i segment ∧
      (image.text ++ image.data)[i]? = some s ∧
      segment.Stores bytes (headerSize + payloadLength ((image.text ++ image.data).take i)) s ∧
      parse (bytes.take n) = .error (.slotOutOfBounds (slotOf image i).1 (slotOf image i).2
        segment.offset segment.size)) := by
  obtain ⟨hslots, hlength, rfl⟩ := encode_eq_ok_iff.1 hencode
  have htaken : ((written image).take n).length = n := List.length_take_of_le hn.le
  constructor
  · intro hheader
    rw [parse_eq, htaken, if_pos hheader]
  · intro hheader
    have hdescribes := describes_written hslots hlength
    obtain ⟨i, segment, hcut⟩ := hdescribes.exists_cutAt hheader hn
    have hsections : (loaded image).segments.length = (image.text ++ image.data).length := by
      rw [segments_loaded, length_place]
    have hi : i < (image.text ++ image.data).length := by
      rw [← hsections]
      exact (List.getElem?_eq_some_iff.1 hcut.segment_eq).1
    have hs := List.getElem?_eq_getElem hi
    refine ⟨loaded image, i, segment, _, parse_written hslots hlength, hcut, hs,
      hdescribes.stores i segment _ hcut.segment_eq hs, ?_⟩
    have hfind := find_slots_take hslots hlength hheader hn hcut
    rw [parse_eq, hfind, htaken, if_neg (Nat.not_lt.2 hheader)]
    rfl

theorem parse_take_of_three_sections :
    let image : Image := {
      entryPoint := 0x80001000
      text := [⟨0x80001000, .stored [1, 2, 3, 4], ⟨by decide, by decide, by decide⟩⟩,
        ⟨0x80002000, .stored [5, 6, 7, 8, 9, 10, 11, 12], ⟨by decide, by decide, by decide⟩⟩]
      data := [⟨0x80000000, .stored [13, 14, 15, 16], ⟨by decide, by decide, by decide⟩⟩]
      bss := some ⟨0x80003000, .zeroed 8, ⟨by decide, by decide, by decide⟩⟩
      text_stored := by decide
      data_stored := by decide
      bss_zeroed := by decide }
    ∃ bytes, encode image = .ok bytes ∧ 271 < bytes.length ∧
    parse (bytes.take 255) = .error (.unexpectedEnd 255) ∧
    ∀ n ∈ [256, 267, 271], ∃ file i segment s, parse bytes = .ok file ∧ file.CutAt n i segment ∧
      (image.text ++ image.data)[i]? = some s ∧
      segment.Stores bytes (headerSize + payloadLength ((image.text ++ image.data).take i)) s ∧
      parse (bytes.take n) = .error (.slotOutOfBounds (slotOf image i).1 (slotOf image i).2
        segment.offset segment.size) := by
  intro image
  have hslots : HasSlots image := ⟨by decide, by decide⟩
  have hencode : encode image = .ok (written image) :=
    encode_eq_ok_iff.2 ⟨hslots, by decide, rfl⟩
  have hlength : 271 < (written image).length := by
    rw [length_written hslots]
    decide
  refine ⟨_, hencode, hlength, (parse_take hencode (by omega)).1 (by decide), fun n hn => ?_⟩
  have hbounds : headerSize ≤ n ∧ n ≤ 271 := by
    revert n
    decide
  exact (parse_take hencode (by omega)).2 hbounds.1

end LinkBench.Dol
