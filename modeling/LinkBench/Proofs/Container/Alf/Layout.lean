import LinkBench.Proofs.Container.Alf.Reading

/-!
# The layout of a container

The bytes of a container, said in one piece: header, sections, the symbol table behind its length,
two zero words. The only freedom is in the data flags, where a reader takes any word and a writer
knows two. `parse_eq_ok_iff` says that the reader accepts these layouts and nothing else.
-/

namespace LinkBench.Alf

/-! ### Records -/

def StoredSection.record (s : StoredSection) : Bytes :=
  Word.toLittleEndian s.address ++ Word.toLittleEndian (UInt32.ofNat s.bytes.length) ++
  Word.toLittleEndian s.size ++ s.bytes

/-- The section takes up memory, and it is stored in full or not at all. -/
structure StoredSection.Complete (s : StoredSection) : Prop where
  size_ne : s.size ≠ 0
  bytes_eq : s.bytes = [] ∨ s.bytes.length = s.size.toNat

def symbolHead (symbol : Symbol) : Bytes :=
  lengthPrefixed symbol.mangledName ++ lengthPrefixed symbol.demangledName ++
  Word.toLittleEndian symbol.address ++ Word.toLittleEndian symbol.size

def symbolRest (version : Version) (symbol : Symbol) : Bytes :=
  Word.toLittleEndian symbol.sectionId ++
  if version.hasSymbolExtra then Word.toLittleEndian symbol.extra else []

/-- The record of a symbol with `flag` for its data flag. -/
def symbolRecord (version : Version) (symbol : Symbol) (flag : UInt32) : Bytes :=
  symbolHead symbol ++ (Word.toLittleEndian flag ++ symbolRest version symbol)

def symbolRecords (version : Version) : List Symbol → List UInt32 → Bytes
  | symbol :: symbols, flag :: flags =>
    symbolRecord version symbol flag ++ symbolRecords version symbols flags
  | _, _ => []

def dataFlag (symbol : Symbol) : UInt32 :=
  if symbol.isData then 1 else 0

/-- What a container keeps of a symbol: everything, but for the extra word in the older version. -/
def Version.kept (version : Version) (symbol : Symbol) : Symbol :=
  if version.hasSymbolExtra then symbol else { symbol with extra := 0 }

def tableBytes (version : Version) (symbols : List Symbol) (flags : List UInt32) : Bytes :=
  Word.toLittleEndian (UInt32.ofNat symbols.length) ++ symbolRecords version symbols flags

theorem length_tableBytes (version : Version) (symbols : List Symbol) (flags : List UInt32) :
    (tableBytes version symbols flags).length =
      4 + (symbolRecords version symbols flags).length := by
  rw [tableBytes, List.length_append, Word.length_toLittleEndian]

/-- The symbol can be read back from its record with the data flag `flag`. -/
structure Readable (version : Version) (symbol : Symbol) (flag : UInt32) : Prop where
  mangled_lt : symbol.mangledName.length < wordLimit
  demangled_lt : symbol.demangledName.length < wordLimit
  isData_eq : symbol.isData = (flag != 0)
  kept_eq : version.kept symbol = symbol

structure ReadableTable (version : Version) (symbols : List Symbol) (flags : List UInt32) :
    Prop where
  symbols_lt : symbols.length < wordLimit
  bytes_lt : (tableBytes version symbols flags).length < wordLimit
  readable : List.Forall₂ (Readable version) symbols flags

/-! ### Files -/

namespace File

def header (file : File) : Bytes :=
  Word.toLittleEndian magic ++ Word.toLittleEndian file.version.raw ++
  Word.toLittleEndian file.entryPoint ++ Word.toLittleEndian (UInt32.ofNat file.sections.length)

/-- The bytes of the container that holds the file, with the given data flags. -/
def layout (file : File) (flags : List UInt32) : Bytes :=
  file.header ++ (file.sections.flatMap StoredSection.record ++
  (Word.toLittleEndian (UInt32.ofNat (tableBytes file.version file.symbols flags).length) ++
  tableBytes file.version file.symbols flags ++
  (Word.toLittleEndian 0 ++ Word.toLittleEndian 0)))

/-- The layout with these data flags reads as the file. -/
structure SpelledBy (file : File) (flags : List UInt32) : Prop where
  sections_lt : file.sections.length < wordLimit
  complete : ∀ s ∈ file.sections, s.Complete
  table : ReadableTable file.version file.symbols flags

end File

/-! ### Reading a layout -/

namespace Reader

theorem takes_storedSection :
    storedSection.Takes fun s taken => s.Complete ∧ taken = s.record := by
  refine (takes_bind takes_word fun address => takes_bind takes_word fun stored =>
    takes_bind takes_word fun size => takes_ite (takes_fail _) (takes_ite (takes_fail _)
      (takes_bind (takes_bytes stored.toNat) fun bytes =>
        takes_pure (⟨address, size, bytes⟩ : StoredSection)))).congr fun s taken => ?_
  simp only [and_false, false_or]
  constructor
  · rintro ⟨address, _, _, rfl, ⟨stored, _, _, rfl, ⟨size, _, _, rfl, ⟨hsize, hstored,
      bytes, _, _, ⟨rfl, hlength⟩, ⟨rfl, rfl⟩, rfl⟩, rfl⟩, rfl⟩, rfl⟩
    refine ⟨⟨hsize, ?_⟩, ?_⟩
    · by_cases hzero : stored = 0
      · left
        rw [hzero] at hlength
        exact List.eq_nil_of_length_eq_zero hlength
      · right
        have heq : stored = size := by
          by_contra hne
          exact hstored ⟨hzero, hne⟩
        rw [hlength, heq]
    · rw [StoredSection.record, hlength, UInt32.ofNat_toNat]
      simp only [List.append_nil, List.append_assoc]
  · rintro ⟨⟨hsize, hbytes⟩, rfl⟩
    obtain ⟨address, size, bytes⟩ := s
    have hlength : (UInt32.ofNat bytes.length).toNat = bytes.length := by
      apply Word.toNat_ofNat
      obtain hnil | hfull := hbytes
      · rw [show bytes = [] from hnil]
        decide
      · rw [show bytes.length = size.toNat from hfull]
        exact Word.toNat_lt_wordLimit size
    refine ⟨address, _, _, rfl, ⟨UInt32.ofNat bytes.length, _, _, rfl, ⟨size, _, _, rfl,
      ⟨hsize, ?_, bytes, _, _, ⟨rfl, hlength.symm⟩, ⟨rfl, rfl⟩, rfl⟩, rfl⟩, rfl⟩, ?_⟩
    · rintro ⟨hzero, hne⟩
      obtain hnil | hfull := hbytes
      · exact hzero (by rw [show bytes = [] from hnil]; rfl)
      · exact hne (by rw [show bytes.length = size.toNat from hfull, UInt32.ofNat_toNat])
    · simp only [StoredSection.record, List.append_nil, List.append_assoc]

theorem takes_extra (version : Version) :
    Takes (if version.hasSymbolExtra then word else pure 0) fun extra taken =>
      (version.hasSymbolExtra = false → extra = 0) ∧
      taken = if version.hasSymbolExtra then Word.toLittleEndian extra else [] := by
  refine (takes_ite takes_word (takes_pure 0)).congr fun extra taken => ?_
  cases version <;> simp [Version.hasSymbolExtra]

theorem kept_eq_self_iff {version : Version} {symbol : Symbol} :
    version.kept symbol = symbol ↔ (version.hasSymbolExtra = false → symbol.extra = 0) := by
  cases version <;> cases symbol <;> simp [Version.kept, Version.hasSymbolExtra, eq_comm]

/-- The word that only some versions store, read in one place. -/
theorem symbol_eq (version : Version) : symbol version = (do
    let mangledName ← Reader.lengthPrefixed
    let demangledName ← Reader.lengthPrefixed
    let address ← word
    let size ← word
    let dataFlag ← word
    let sectionId ← word
    let extra ← (if version.hasSymbolExtra then word else pure 0)
    pure { mangledName, demangledName, address, size, isData := dataFlag != 0, sectionId,
           extra }) := by
  unfold symbol
  cases h : version.hasSymbolExtra
  · simp only [Bool.false_eq_true, if_false]
  · simp only [if_true]

theorem takes_symbol (version : Version) : (symbol version).Takes fun y taken =>
    ∃ flag, Readable version y flag ∧ taken = symbolRecord version y flag := by
  rw [symbol_eq]
  refine (takes_bind takes_lengthPrefixed fun mangledName =>
    takes_bind takes_lengthPrefixed fun demangledName => takes_bind takes_word fun address =>
    takes_bind takes_word fun size => takes_bind takes_word fun dataFlag =>
    takes_bind takes_word fun sectionId => takes_bind (takes_extra version) fun extra =>
    takes_pure (⟨mangledName, demangledName, address, size, dataFlag != 0, sectionId, extra⟩ :
      Symbol)).congr fun y taken => ?_
  constructor
  · rintro ⟨mangledName, _, _, ⟨hmangled, rfl⟩, ⟨demangledName, _, _, ⟨hdemangled, rfl⟩,
      ⟨address, _, _, rfl, ⟨size, _, _, rfl, ⟨flag, _, _, rfl, ⟨sectionId, _, _, rfl,
      ⟨extra, _, _, ⟨hextra, rfl⟩, ⟨rfl, rfl⟩, rfl⟩, rfl⟩, rfl⟩, rfl⟩, rfl⟩, rfl⟩, rfl⟩
    refine ⟨flag, ⟨hmangled, hdemangled, rfl, kept_eq_self_iff.2 hextra⟩, ?_⟩
    simp only [symbolRecord, symbolHead, symbolRest, List.append_nil, List.append_assoc]
  · rintro ⟨flag, ⟨hmangled, hdemangled, hdata, hkept⟩, rfl⟩
    obtain ⟨mangledName, demangledName, address, size, isData, sectionId, extra⟩ := y
    simp only at hdata
    rw [hdata]
    refine ⟨mangledName, _, _, ⟨hmangled, rfl⟩, ⟨demangledName, _, _, ⟨hdemangled, rfl⟩,
      ⟨address, _, _, rfl, ⟨size, _, _, rfl, ⟨flag, _, _, rfl, ⟨sectionId, _, _, rfl,
      ⟨extra, _, _, ⟨kept_eq_self_iff.1 hkept, rfl⟩, ⟨rfl, rfl⟩, rfl⟩, rfl⟩, rfl⟩, rfl⟩, rfl⟩,
      rfl⟩, ?_⟩
    simp only [symbolRecord, symbolHead, symbolRest, List.append_nil, List.append_assoc]

theorem sequence_symbols_iff {version : Version} {symbols : List Symbol} {taken : Bytes} :
    Sequence (fun y part => ∃ flag, Readable version y flag ∧ part = symbolRecord version y flag)
        symbols taken ↔
      ∃ flags, List.Forall₂ (Readable version) symbols flags ∧
        taken = symbolRecords version symbols flags := by
  induction symbols generalizing taken with
  | nil => simp [Sequence, symbolRecords]
  | cons y rest ih =>
    simp only [Sequence, ih]
    constructor
    · rintro ⟨_, _, ⟨flag, hflag, rfl⟩, ⟨flags, hflags, rfl⟩, rfl⟩
      exact ⟨flag :: flags, .cons hflag hflags, rfl⟩
    · rintro ⟨flags, hreadable, rfl⟩
      cases hreadable with
      | cons hflag hflags => exact ⟨_, _, ⟨_, hflag, rfl⟩, ⟨_, hflags, rfl⟩, rfl⟩

theorem takes_sections (count : Nat) : (repeated storedSection count).Takes fun sections taken =>
    sections.length = count ∧ (∀ s ∈ sections, s.Complete) ∧
    taken = sections.flatMap StoredSection.record :=
  (takes_repeated takes_storedSection count).congr fun _ _ =>
    and_congr_right fun _ => sequence_eq_iff

/-- The length field holds exactly the number of bytes that the table takes up behind it. -/
theorem takes_symbolTable (version : Version) : (symbolTable version).Takes fun symbols taken =>
    ∃ flags, ReadableTable version symbols flags ∧
      taken = Word.toLittleEndian (UInt32.ofNat (tableBytes version symbols flags).length) ++
        tableBytes version symbols flags := by
  have hrecords := fun count : UInt32 =>
    (takes_repeated (takes_symbol version) count.toNat).congr
      fun _ _ => and_congr_right fun _ => sequence_symbols_iff
  intro c c' symbols
  unfold symbolTable
  simp only [run_bind_eq_ok, run_position]
  constructor
  · rintro ⟨declared, _, hdeclared, start, _, hstart, count, _, hcount, ys, _, hys, stop, _, hstop,
      hrun⟩
    obtain ⟨_, rfl, hrest₁, hposition₁⟩ := (takes_word _ _ _).1 hdeclared
    cases hstart
    obtain ⟨_, rfl, hrest₂, hposition₂⟩ := (takes_word _ _ _).1 hcount
    obtain ⟨_, ⟨hlength, flags, hreadable, rfl⟩, hrest₃, hposition₃⟩ := (hrecords count _ _ _).1 hys
    cases hstop
    split at hrun
    · rename_i hspan
      cases hrun
      have hcounted : UInt32.ofNat symbols.length = count := by rw [hlength, UInt32.ofNat_toNat]
      have hspanned : (tableBytes version symbols flags).length = declared.toNat := by
        rw [← hspan, hposition₃, hposition₂, length_tableBytes, Word.length_toLittleEndian]
        omega
      refine ⟨_, ⟨flags, ⟨?_, ?_, hreadable⟩, rfl⟩, ?_, ?_⟩
      · rw [hlength]
        exact Word.toNat_lt_wordLimit count
      · rw [hspanned]
        exact Word.toNat_lt_wordLimit declared
      · rw [hrest₁, hrest₂, hrest₃, hspanned, UInt32.ofNat_toNat, tableBytes, hcounted]
        simp only [List.append_assoc]
      · rw [hposition₃, hposition₂, hposition₁, List.length_append, length_tableBytes]
        simp only [Word.length_toLittleEndian]
        omega
    · cases hrun
  · rintro ⟨_, ⟨flags, ⟨hsymbols, hbytes, hreadable⟩, rfl⟩, hrest, hposition⟩
    have hlength := length_tableBytes version symbols flags
    set span := (tableBytes version symbols flags).length with hspan
    set records := symbolRecords version symbols flags
    have htable : tableBytes version symbols flags =
        Word.toLittleEndian (UInt32.ofNat symbols.length) ++ records := rfl
    rw [htable, List.append_assoc, List.append_assoc] at hrest
    rw [List.length_append, Word.length_toLittleEndian, ← hspan] at hposition
    -- The cursors behind the length field and behind the count.
    let c₁ : Cursor :=
      ⟨c.position + 4, Word.toLittleEndian (UInt32.ofNat symbols.length) ++ (records ++ c'.rest)⟩
    let c₂ : Cursor := ⟨c₁.position + 4, records ++ c'.rest⟩
    refine ⟨UInt32.ofNat span, c₁, ?_, c₁.position, c₁, rfl, UInt32.ofNat symbols.length, c₂, ?_,
      symbols, c', ?_, c'.position, c', rfl, ?_⟩
    · exact (takes_word _ _ _).2 ⟨_, rfl, hrest, rfl⟩
    · exact (takes_word _ _ _).2 ⟨_, rfl, rfl, rfl⟩
    · refine (hrecords _ _ _ _).2
        ⟨records, ⟨(Word.toNat_ofNat hsymbols).symm, flags, hreadable, rfl⟩, rfl, ?_⟩
      simp only [c₂, c₁]
      omega
    · rw [Word.toNat_ofNat hbytes, if_pos (by simp only [c₁]; omega)]
      rfl

theorem takes_terminator : terminator.Takes fun _ taken =>
    taken = Word.toLittleEndian 0 ++ Word.toLittleEndian 0 := by
  refine takes_position_bind fun start => (takes_bind takes_word fun first =>
    takes_ite (takes_fail _) (takes_bind takes_word fun second =>
      takes_ite (takes_fail _) (takes_pure ()))).congr fun _ taken => ?_
  simp only [and_false, false_or, not_not]
  constructor
  · rintro ⟨first, _, _, rfl, ⟨rfl, second, _, _, rfl, ⟨rfl, -, rfl⟩, rfl⟩, rfl⟩
    rw [List.append_nil]
  · rintro rfl
    exact ⟨0, _, _, rfl, ⟨rfl, 0, _, _, rfl, ⟨rfl, trivial, rfl⟩, rfl⟩, by rw [List.append_nil]⟩

end Reader

theorem Version.ofRaw_eq_ok_iff {w : UInt32} {version : Version} :
    Version.ofRaw w = .ok version ↔ w = version.raw := by
  unfold Version.ofRaw
  constructor
  · intro h
    split at h
    · cases h
      assumption
    · split at h
      · cases h
        assumption
      · cases h
  · rintro rfl
    cases version <;> rfl

theorem Version.raw_injective {v w : Version} (h : v.raw = w.raw) : v = w := by
  have hv := Version.ofRaw_eq_ok_iff.2 (rfl : v.raw = v.raw)
  rw [h, Version.ofRaw_eq_ok_iff.2 rfl] at hv
  exact (Except.ok.inj hv).symm

namespace Reader

theorem takes_version (w : UInt32) : Takes (liftM (Version.ofRaw w) : Reader Version)
    fun version taken => w = version.raw ∧ taken = [] := by
  intro c c' version
  change ((Version.ofRaw w).bind fun v => .ok (v, c)) = _ ↔ _
  constructor
  · intro h
    cases hversion : Version.ofRaw w with
    | error e =>
      rw [hversion] at h
      cases h
    | ok v =>
      rw [hversion] at h
      cases h
      exact ⟨[], ⟨Version.ofRaw_eq_ok_iff.1 hversion, rfl⟩, rfl, rfl⟩
  · rintro ⟨_, ⟨hraw, rfl⟩, hrest, hposition⟩
    obtain ⟨position, rest⟩ := c
    obtain ⟨position', rest'⟩ := c'
    simp only [List.nil_append, List.length_nil, Nat.add_zero] at hrest hposition
    rw [Version.ofRaw_eq_ok_iff.2 hraw, hrest, hposition]
    rfl

theorem takesAll_file : Reader.file.TakesAll fun file input =>
    ∃ flags, file.SpelledBy flags ∧ input = file.layout flags := by
  refine (takesAll_bind takes_word fun mark => takesAll_ite (takesAll_fail _)
    (takesAll_bind takes_word fun raw => takesAll_bind (takes_version raw) fun version =>
      takesAll_bind takes_word fun entryPoint => takesAll_bind takes_word fun count =>
      takesAll_bind (takes_sections count.toNat) fun sections =>
      takesAll_bind (takes_symbolTable version) fun symbols =>
      takesAll_bind takes_terminator fun _ =>
      takesAll_endOfInput (⟨version, entryPoint, sections, symbols⟩ : File))).congr
    fun file input => ?_
  simp only [and_false, false_or, not_not]
  constructor
  · rintro ⟨mark, _, _, rfl, ⟨rfl, raw, _, _, rfl, ⟨version, _, _, ⟨rfl, rfl⟩, ⟨entryPoint, _, _,
      rfl, ⟨count, _, _, rfl, ⟨sections, _, _, ⟨hcount, hcomplete, rfl⟩, ⟨symbols, _, _,
      ⟨flags, htable, rfl⟩, ⟨_, _, _, rfl, ⟨rfl, rfl⟩, rfl⟩, rfl⟩, rfl⟩, rfl⟩, rfl⟩, rfl⟩, rfl⟩,
      rfl⟩
    refine ⟨flags, ⟨?_, hcomplete, htable⟩, ?_⟩
    · rw [hcount]
      exact Word.toNat_lt_wordLimit count
    · simp only [File.layout, File.header, hcount, UInt32.ofNat_toNat, List.append_assoc,
        List.nil_append, List.append_nil]
  · rintro ⟨flags, ⟨hsections, hcomplete, htable⟩, rfl⟩
    obtain ⟨version, entryPoint, sections, symbols⟩ := file
    refine ⟨magic, _, _, rfl, ⟨rfl, version.raw, _, _, rfl, ⟨version, _, _, ⟨rfl, rfl⟩,
      ⟨entryPoint, _, _, rfl, ⟨UInt32.ofNat sections.length, _, _, rfl, ⟨sections, _, _,
      ⟨(Word.toNat_ofNat hsections).symm, hcomplete, rfl⟩, ⟨symbols, _, _, ⟨flags, htable, rfl⟩,
      ⟨(), _, _, rfl, ⟨rfl, rfl⟩, rfl⟩, rfl⟩, rfl⟩, rfl⟩, rfl⟩, rfl⟩, rfl⟩, ?_⟩
    simp only [File.layout, File.header, List.append_assoc, List.nil_append, List.append_nil]

end Reader

theorem parse_eq_ok {input : Bytes} {file : File} :
    parse input = .ok file ↔ ∃ c', Reader.file.run ⟨0, input⟩ = .ok (file, c') := by
  rw [parse, StateT.run'_eq]
  cases h : Reader.file.run ⟨0, input⟩ with
  | error e => simp [Functor.map, Except.map]
  | ok read => simp [Functor.map, Except.map, Prod.ext_iff]

/-- **Reading a container.** The reader accepts the layouts of files and nothing else. -/
theorem parse_eq_ok_iff {input : Bytes} {file : File} :
    parse input = .ok file ↔ ∃ flags, file.SpelledBy flags ∧ input = file.layout flags := by
  rw [parse_eq_ok, Reader.takesAll_file ⟨0, input⟩ file]

end LinkBench.Alf
