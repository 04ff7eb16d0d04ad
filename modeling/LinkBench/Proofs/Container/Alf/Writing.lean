import LinkBench.Container.Alf.Builder
import LinkBench.Proofs.Container.Alf.Layout

/-!
# What the calls of a builder write

One lemma for each call says what it appends, and `close_eq_ok_iff` says what filling in the length
of the open table makes of the bytes. From these, pushing the contents of a file one by one gives
its layout with the data flags that a writer knows (`rebuild_eq`), which reads back as the file
(`parse_written`).
-/

namespace LinkBench.Alf

/-! ### The bytes that a writer gives a file -/

def writtenRecords (version : Version) (symbols : List Symbol) : Bytes :=
  symbols.flatMap fun symbol => symbolRecord version symbol (dataFlag symbol)

theorem symbolRecords_dataFlag (version : Version) (symbols : List Symbol) :
    symbolRecords version symbols (symbols.map dataFlag) = writtenRecords version symbols := by
  induction symbols with
  | nil => rfl
  | cons symbol rest ih =>
    rw [List.map_cons, symbolRecords, ih]
    rfl

namespace File

def written (file : File) : Bytes :=
  file.layout (file.symbols.map dataFlag)

/-- The file as its container gives it back. -/
def stored (file : File) : File :=
  { file with symbols := file.symbols.map file.version.kept }

theorem written_eq (file : File) : file.written =
    file.header ++ (file.sections.flatMap StoredSection.record ++
    (Word.toLittleEndian (UInt32.ofNat (4 + (writtenRecords file.version file.symbols).length)) ++
    (Word.toLittleEndian (UInt32.ofNat file.symbols.length) ++
      writtenRecords file.version file.symbols) ++
    (Word.toLittleEndian 0 ++ Word.toLittleEndian 0))) := by
  rw [written, layout, length_tableBytes, tableBytes, symbolRecords_dataFlag]

theorem length_header (file : File) : file.header.length = 16 :=
  rfl

end File

theorem length_record (s : StoredSection) : s.record.length = 12 + s.bytes.length := by
  simp only [StoredSection.record, List.length_append, Word.length_toLittleEndian]

theorem length_lengthPrefixed (bytes : Bytes) : (lengthPrefixed bytes).length = 4 + bytes.length := by
  rw [lengthPrefixed, List.length_append, Word.length_toLittleEndian]

theorem length_symbolRest (version : Version) (symbol : Symbol) :
    (symbolRest version symbol).length = if version.hasSymbolExtra then 8 else 4 := by
  cases version <;> rfl

def recordLength (version : Version) (symbol : Symbol) : Nat :=
  symbol.mangledName.length + symbol.demangledName.length +
    if version.hasSymbolExtra then 28 else 24

theorem le_recordLength (version : Version) (symbol : Symbol) :
    symbol.mangledName.length + symbol.demangledName.length + 24 ≤ recordLength version symbol := by
  unfold recordLength
  split <;> omega

theorem length_symbolRecord (version : Version) (symbol : Symbol) (flag : UInt32) :
    (symbolRecord version symbol flag).length = recordLength version symbol := by
  simp only [symbolRecord, symbolHead, recordLength, List.length_append, length_lengthPrefixed,
    length_symbolRest, Word.length_toLittleEndian]
  split <;> omega

/-- The data flags of a table make no difference to its length. -/
theorem length_symbolRecords {version : Version} {symbols : List Symbol} {flags : List UInt32}
    (h : flags.length = symbols.length) : (symbolRecords version symbols flags).length =
      (symbols.map (recordLength version)).sum := by
  induction symbols generalizing flags with
  | nil => cases flags <;> rfl
  | cons symbol rest ih =>
    cases flags with
    | nil => cases h
    | cons flag flags =>
      rw [symbolRecords, List.length_append, length_symbolRecord, ih (Nat.succ.inj h),
        List.map_cons, List.sum_cons]

theorem length_writtenRecords (version : Version) (symbols : List Symbol) :
    (writtenRecords version symbols).length = (symbols.map (recordLength version)).sum := by
  rw [← symbolRecords_dataFlag, length_symbolRecords (List.length_map _)]

theorem length_le_length_flatMap {α : Type} {f : α → Bytes} {values : List α}
    (h : ∀ a ∈ values, 0 < (f a).length) : values.length ≤ (values.flatMap f).length := by
  rw [List.length_flatMap, ← List.length_map (fun a => (f a).length)]
  apply List.length_le_sum_of_one_le
  intro n hn
  obtain ⟨a, ha, rfl⟩ := List.mem_map.1 hn
  exact h a ha

theorem length_le_sectionRecords (sections : List StoredSection) :
    sections.length ≤ (sections.flatMap StoredSection.record).length :=
  length_le_length_flatMap fun s _ => by rw [length_record]; omega

theorem length_le_of_mem_flatMap {α : Type} {f : α → Bytes} {values : List α} {a : α}
    (h : a ∈ values) : (f a).length ≤ (values.flatMap f).length := by
  have hle := ((List.singleton_sublist.2 h).flatMap f).length_le
  rwa [List.flatMap_singleton] at hle

theorem kept_kept (version : Version) (symbol : Symbol) :
    version.kept (version.kept symbol) = version.kept symbol := by
  cases version <;> rfl

theorem symbolRecord_kept (version : Version) (symbol : Symbol) :
    symbolRecord version (version.kept symbol) (dataFlag (version.kept symbol)) =
      symbolRecord version symbol (dataFlag symbol) := by
  cases version <;> rfl

theorem writtenRecords_kept (version : Version) (symbols : List Symbol) :
    writtenRecords version (symbols.map version.kept) = writtenRecords version symbols := by
  simp only [writtenRecords, List.flatMap_map, symbolRecord_kept]

theorem File.written_stored (file : File) : file.stored.written = file.written := by
  simp only [File.written_eq, File.stored, File.header, writtenRecords_kept, List.length_map]

theorem isData_eq_dataFlag (symbol : Symbol) : symbol.isData = (dataFlag symbol != 0) := by
  unfold dataFlag
  cases symbol.isData <;> decide

theorem readable_kept {version : Version} {symbol : Symbol}
    (hmangled : symbol.mangledName.length < wordLimit)
    (hdemangled : symbol.demangledName.length < wordLimit) :
    Readable version (version.kept symbol) (dataFlag (version.kept symbol)) where
  mangled_lt := by cases version <;> exact hmangled
  demangled_lt := by cases version <;> exact hdemangled
  isData_eq := isData_eq_dataFlag _
  kept_eq := kept_kept version symbol

structure File.Fits (file : File) : Prop where
  sections_lt : file.sections.length < wordLimit
  payload_lt : ∀ s ∈ file.sections, s.bytes.length < wordLimit
  symbols_lt : file.symbols.length < wordLimit
  names_lt : ∀ y ∈ file.symbols,
    y.mangledName.length < wordLimit ∧ y.demangledName.length < wordLimit
  table_lt : 4 + (writtenRecords file.version file.symbols).length < wordLimit

theorem File.fits_of_length_lt {file : File} (hlength : file.written.length < wordLimit) :
    file.Fits := by
  have hparts : (writtenRecords file.version file.symbols).length + 32 +
      (file.sections.flatMap StoredSection.record).length < wordLimit := by
    rw [written_eq] at hlength
    simp only [List.length_append, length_header, Word.length_toLittleEndian] at hlength
    omega
  refine ⟨?_, fun s hs => ?_, ?_, fun y hy => ?_, by omega⟩
  · have hle := length_le_sectionRecords file.sections
    omega
  · have hrecord := length_le_of_mem_flatMap (f := StoredSection.record) hs
    rw [length_record] at hrecord
    omega
  · have hle : file.symbols.length ≤ (writtenRecords file.version file.symbols).length :=
      length_le_length_flatMap fun y _ => by
        have := le_recordLength file.version y
        rw [length_symbolRecord]
        omega
    omega
  · have hrecord := length_le_of_mem_flatMap
      (f := fun symbol => symbolRecord file.version symbol (dataFlag symbol)) hy
    rw [length_symbolRecord] at hrecord
    change _ ≤ (writtenRecords file.version file.symbols).length at hrecord
    have := le_recordLength file.version y
    constructor <;> omega

theorem File.spelledBy_stored {file : File} (hcomplete : ∀ s ∈ file.sections, s.Complete)
    (hfits : file.Fits) : file.stored.SpelledBy (file.stored.symbols.map dataFlag) := by
  have hsame : symbolRecords file.version (file.symbols.map file.version.kept)
      ((file.symbols.map file.version.kept).map dataFlag) =
        writtenRecords file.version file.symbols := by
    rw [symbolRecords_dataFlag, writtenRecords_kept]
  refine ⟨hfits.sections_lt, hcomplete, ⟨?_, ?_, ?_⟩⟩
  · simp only [stored, List.length_map]
    exact hfits.symbols_lt
  · simp only [stored, length_tableBytes, hsame]
    exact hfits.table_lt
  · simp only [stored, List.map_map, List.forall₂_map_left_iff, List.forall₂_map_right_iff,
      List.forall₂_same, Function.comp_apply]
    intro symbol hsymbol
    exact readable_kept (hfits.names_lt symbol hsymbol).1 (hfits.names_lt symbol hsymbol).2

/-- What a writer gives a file reads back as the file. -/
theorem File.parse_written {file : File} (hcomplete : ∀ s ∈ file.sections, s.Complete)
    (hlength : file.written.length < wordLimit) : parse file.written = .ok file.stored := by
  refine parse_eq_ok_iff.2 ⟨_, file.spelledBy_stored hcomplete (fits_of_length_lt hlength), ?_⟩
  rw [← file.written_stored]
  rfl

/-! ### The calls of a builder -/

theorem symbolRecord_eq (version : Version) (symbol : Symbol) :
    symbolRecord version symbol (dataFlag symbol) =
      lengthPrefixed symbol.mangledName ++
        (lengthPrefixed symbol.demangledName ++ symbolTail version symbol) := by
  simp only [symbolRecord, symbolHead, symbolRest, symbolTail, dataFlag, List.append_assoc]

theorem overwrite_append {before old rest patch : Bytes} (h : old.length = patch.length) :
    overwrite (before ++ (old ++ rest)) before.length patch =
      before ++ (patch ++ rest) := by
  have hdrop : (before ++ (old ++ rest)).drop (before.length + patch.length) = rest := by
    rw [← h, ← List.length_append, ← List.append_assoc, List.drop_left]
  rw [overwrite, List.take_left, hdrop, List.append_assoc]

theorem drop_take_append {before piece rest : Bytes} {position count : Nat}
    (hposition : before.length = position) (hcount : piece.length = count) :
    ((before ++ (piece ++ rest)).drop position).take count = piece := by
  rw [← hposition, ← hcount, List.drop_left, List.take_left]

namespace Builder

theorem pushSection_eq {b : Builder} {address size : UInt32} {payload : Option Bytes}
    (htable : b.table = none) (hpayload : (payload.getD []).length < wordLimit) :
    b.pushSection address size payload = (.ok (), { b with
      bytes := b.bytes ++ StoredSection.record ⟨address, size, payload.getD []⟩
      sectionsPushed := b.sectionsPushed + 1 }) := by
  unfold pushSection
  rw [htable]
  simp only [append, if_pos hpayload, StoredSection.record, List.append_assoc]

theorem pushSection_of_table {b : Builder} {table : SymbolTable} (h : b.table = some table)
    (address size : UInt32) (payload : Option Bytes) :
    b.pushSection address size payload =
      (.error (.sectionCountMismatch b.sectionCount (b.sectionsPushed + 1)), b) := by
  unfold pushSection
  rw [h]

theorem beginSymbolTable_eq {b : Builder} (h : b.sectionsPushed = b.sectionCount)
    (count : UInt32) :
    b.beginSymbolTable count = (.ok (), { b with
      bytes := b.bytes ++ (Word.toLittleEndian 0 ++ Word.toLittleEndian count)
      table := some ⟨b.bytes.length, count, 0⟩ }) := by
  rw [beginSymbolTable, if_pos h]
  rfl

theorem beginSymbolTable_of_ne {b : Builder} (h : b.sectionsPushed ≠ b.sectionCount)
    (count : UInt32) :
    b.beginSymbolTable count = (.error (.sectionCountMismatch b.sectionCount b.sectionsPushed), b) :=
  if_neg h

theorem appendSymbol_eq {b : Builder} {symbol : Symbol}
    (hmangled : symbol.mangledName.length < wordLimit)
    (hdemangled : symbol.demangledName.length < wordLimit) :
    b.appendSymbol symbol =
      (.ok (), b.append (symbolRecord b.version symbol (dataFlag symbol))) := by
  unfold appendSymbol
  rw [if_pos hmangled]
  simp only [if_pos hdemangled, append, symbolRecord_eq, List.append_assoc]

/-- What is written of a symbol whose names do not both fit: the first one, if that does. -/
def brokenRecord (symbol : Symbol) : Bytes :=
  if symbol.mangledName.length < wordLimit then lengthPrefixed symbol.mangledName else []

theorem appendSymbol_of_not_lt {b : Builder} {symbol : Symbol}
    (h : ¬(symbol.mangledName.length < wordLimit ∧ symbol.demangledName.length < wordLimit)) :
    b.appendSymbol symbol = (.error .imageTooLarge, b.append (brokenRecord symbol)) := by
  unfold appendSymbol brokenRecord
  by_cases hmangled : symbol.mangledName.length < wordLimit
  · have hdemangled : ¬symbol.demangledName.length < wordLimit := fun hlt => h ⟨hmangled, hlt⟩
    rw [if_pos hmangled, if_pos hmangled]
    simp only [if_neg hdemangled]
  · rw [if_neg hmangled, if_neg hmangled]
    simp only [append, List.append_nil]

/-- The position of the open table splits the bytes into those before its length field, the field
itself, which still holds zero, and those behind it. -/
structure OpenAt (b : Builder) (table : SymbolTable) (before behind : Bytes) : Prop where
  table_eq : b.table = some table
  bytes_eq : b.bytes = before ++ (Word.toLittleEndian 0 ++ behind)
  start_eq : table.start = before.length

variable {b : Builder} {table : SymbolTable} {before behind : Bytes}

theorem OpenAt.append (h : b.OpenAt table before behind) (piece : Bytes) :
    (b.append piece).OpenAt table before (behind ++ piece) := by
  refine ⟨h.table_eq, ?_, h.start_eq⟩
  rw [Builder.append, h.bytes_eq]
  simp only [List.append_assoc]

theorem OpenAt.tableSpan_eq (h : b.OpenAt table before behind) :
    b.tableSpan table.start = behind.length := by
  rw [tableSpan, h.bytes_eq, h.start_eq, List.length_append, List.length_append,
    Word.length_toLittleEndian]
  omega

/-- Closing puts the length of what is behind the field into it and ends the container, provided
that all declared symbols are counted and everything fits. -/
theorem OpenAt.close_eq_ok_iff (h : b.OpenAt table before behind) {bytes : Bytes} :
    b.close table = .ok bytes ↔ table.pushed = table.declared ∧
      bytes = before ++ (Word.toLittleEndian (UInt32.ofNat behind.length) ++ behind ++
        (Word.toLittleEndian 0 ++ Word.toLittleEndian 0)) ∧ bytes.length < wordLimit := by
  have hfield : (Word.toLittleEndian 0).length =
      (Word.toLittleEndian (UInt32.ofNat behind.length)).length := rfl
  have hpatched : overwrite b.bytes table.start
      (Word.toLittleEndian (UInt32.ofNat behind.length)) ++
        (Word.toLittleEndian 0 ++ Word.toLittleEndian 0) =
      before ++ (Word.toLittleEndian (UInt32.ofNat behind.length) ++ behind ++
        (Word.toLittleEndian 0 ++ Word.toLittleEndian 0)) := by
    rw [h.bytes_eq, h.start_eq, overwrite_append hfield, List.append_assoc]
  unfold close
  simp only [h.tableSpan_eq, hpatched]
  constructor
  · intro hclose
    split at hclose
    · rename_i hpushed
      split at hclose
      · rename_i hlength
        cases hclose
        exact ⟨hpushed, rfl, hlength.2⟩
      · cases hclose
    · cases hclose
  · rintro ⟨hpushed, rfl, hlength⟩
    have hspan : behind.length < wordLimit := by
      simp only [List.length_append] at hlength
      omega
    rw [if_pos hpushed, if_pos ⟨hspan, hlength⟩]

theorem OpenAt.finish_eq (h : b.OpenAt table before behind) : b.finish = b.close table := by
  rw [finish, h.table_eq]

theorem finish_of_none (htable : b.table = none) :
    b.finish = if b.sectionsPushed = b.sectionCount then (b.beginSymbolTable 0).2.finish
      else .error (.sectionCountMismatch b.sectionCount b.sectionsPushed) := by
  by_cases h : b.sectionsPushed = b.sectionCount
  · rw [if_pos h]
    unfold finish
    rw [htable, beginSymbolTable_eq h]
  · rw [if_neg h]
    unfold finish
    rw [htable, beginSymbolTable_of_ne h]

theorem openAt_beginSymbolTable (h : b.sectionsPushed = b.sectionCount) (count : UInt32) :
    (b.beginSymbolTable count).2.OpenAt ⟨b.bytes.length, count, 0⟩ b.bytes
      (Word.toLittleEndian count) := by
  rw [beginSymbolTable_eq h]
  exact ⟨rfl, rfl, rfl⟩

/-! ### Writing a file call by call -/

theorem performUntilError_append (b : Builder) (first second : List Call) :
    b.performUntilError (first ++ second) =
      (b.performUntilError first).bind fun b => b.performUntilError second := by
  induction first generalizing b with
  | nil => rfl
  | cons call rest ih =>
    rw [List.cons_append, performUntilError, performUntilError]
    split
    · rfl
    · rw [ih]

theorem performUntilError_cons_of_ok {b b' : Builder} {call : Call} (rest : List Call)
    (h : b.perform call = (.ok (), b')) :
    b.performUntilError (call :: rest) = b'.performUntilError rest := by
  rw [performUntilError, h]

def Call.ofStored (s : StoredSection) : Call :=
  .pushSection s.address s.size (if s.isZeroed then none else some s.bytes)

theorem payload_ofStored (s : StoredSection) :
    (if s.isZeroed then none else some s.bytes).getD [] = s.bytes := by
  unfold StoredSection.isZeroed
  cases s.bytes <;> rfl

theorem performUntilError_sections {b : Builder} {sections : List StoredSection}
    (htable : b.table = none) (hsections : ∀ s ∈ sections, s.bytes.length < wordLimit) :
    b.performUntilError (sections.map .ofStored) = .ok { b with
      bytes := b.bytes ++ sections.flatMap StoredSection.record
      sectionsPushed := b.sectionsPushed + UInt32.ofNat sections.length } := by
  induction sections generalizing b with
  | nil => simp [performUntilError]
  | cons s rest ih =>
    have hpush : b.perform (.ofStored s) = (.ok (), { b with
        bytes := b.bytes ++ s.record
        sectionsPushed := b.sectionsPushed + 1 }) := by
      rw [Call.ofStored, perform, pushSection_eq htable, payload_ofStored]
      rw [payload_ofStored]
      exact hsections s List.mem_cons_self
    rw [List.map_cons, performUntilError_cons_of_ok _ hpush]
    refine (ih (b := { b with
      bytes := b.bytes ++ s.record
      sectionsPushed := b.sectionsPushed + 1 }) htable
      fun t ht => hsections t (List.mem_cons_of_mem s ht)).trans ?_
    simp only [List.flatMap_cons, List.append_assoc, List.length_cons, Word.add_ofNat_succ]

theorem performUntilError_symbols {symbols : List Symbol} {b : Builder} {table : SymbolTable}
    (htable : b.table = some table)
    (hroom : table.pushed.toNat + symbols.length ≤ table.declared.toNat)
    (hnames : ∀ y ∈ symbols,
      y.mangledName.length < wordLimit ∧ y.demangledName.length < wordLimit) :
    b.performUntilError (symbols.map .pushSymbol) = .ok { b with
      bytes := b.bytes ++ writtenRecords b.version symbols
      table := some { table with pushed := table.pushed + UInt32.ofNat symbols.length } } := by
  induction symbols generalizing b table with
  | nil => simp [performUntilError, writtenRecords, ← htable]
  | cons symbol rest ih =>
    rw [List.length_cons] at hroom
    have hnext : (table.pushed + 1).toNat = table.pushed.toNat + 1 :=
      Word.toNat_add_one (Nat.lt_of_le_of_lt (by omega) (Word.toNat_lt_wordLimit table.declared))
    have hfits : table.pushed + 1 ≤ table.declared := UInt32.le_iff_toNat_le.2 (by omega)
    have hnames' := hnames symbol List.mem_cons_self
    have hpush : b.perform (.pushSymbol symbol) = (.ok (), { b with
        bytes := b.bytes ++ symbolRecord b.version symbol (dataFlag symbol)
        table := some { table with pushed := table.pushed + 1 } }) := by
      rw [perform, pushSymbol]
      rw [htable]
      simp only [pushSymbolInto]
      rw [if_pos hfits, appendSymbol_eq hnames'.1 hnames'.2]
      rfl
    rw [List.map_cons, performUntilError_cons_of_ok _ hpush]
    refine (ih rfl (by simp only [hnext]; omega)
      fun y hy => hnames y (List.mem_cons_of_mem symbol hy)).trans ?_
    simp only [writtenRecords, List.flatMap_cons, List.append_assoc, List.length_cons,
      Word.add_ofNat_succ]

/-- The calls for a whole symbol table leave it open, with everything behind its length field. -/
theorem performUntilError_table {b : Builder} (hfull : b.sectionsPushed = b.sectionCount)
    {symbols : List Symbol} (hsymbols : symbols.length < wordLimit)
    (hnames : ∀ y ∈ symbols,
      y.mangledName.length < wordLimit ∧ y.demangledName.length < wordLimit) :
    ∃ b', b.performUntilError
        (.beginSymbolTable (UInt32.ofNat symbols.length) :: symbols.map .pushSymbol) = .ok b' ∧
      b'.OpenAt ⟨b.bytes.length, UInt32.ofNat symbols.length, 0 + UInt32.ofNat symbols.length⟩ b.bytes
        (Word.toLittleEndian (UInt32.ofNat symbols.length) ++ writtenRecords b.version symbols) := by
  have hopenAt := openAt_beginSymbolTable hfull (UInt32.ofNat symbols.length)
  set opened := (b.beginSymbolTable (UInt32.ofNat symbols.length)).2 with hopened
  have hbegin : b.perform (.beginSymbolTable (UInt32.ofNat symbols.length)) = (.ok (), opened) := by
    rw [hopened, perform, beginSymbolTable_eq hfull]
  have hversion : opened.version = b.version := by
    rw [hopened, beginSymbolTable_eq hfull]
  have hpushed := performUntilError_symbols hopenAt.table_eq
    (by rw [Word.toNat_ofNat hsymbols, UInt32.toNat_zero, Nat.zero_add]) hnames
  refine ⟨_, (performUntilError_cons_of_ok _ hbegin).trans hpushed, rfl, ?_, rfl⟩
  change opened.bytes ++ writtenRecords opened.version symbols = _
  rw [hopenAt.bytes_eq, hversion]
  simp only [List.append_assoc]

end Builder

namespace File

/-- The calls that push everything in the file: its sections, then a table of its symbols. -/
def calls (file : File) : List Builder.Call :=
  file.sections.map .ofStored ++
    .beginSymbolTable (UInt32.ofNat file.symbols.length) :: file.symbols.map .pushSymbol

def rebuild (file : File) : Except FormatError Bytes := do
  let b ← (Builder.start file.version file.entryPoint
    (UInt32.ofNat file.sections.length)).performUntilError file.calls
  b.finish

/-- **Writing a file.** Pushing its contents call by call gives its layout. -/
theorem rebuild_eq {file : File} (hlength : file.written.length < wordLimit) :
    file.rebuild = .ok file.written := by
  have hfits := fits_of_length_lt hlength
  let started := Builder.start file.version file.entryPoint (UInt32.ofNat file.sections.length)
  let listed : Builder := { started with
    bytes := started.bytes ++ file.sections.flatMap StoredSection.record
    sectionsPushed := 0 + UInt32.ofNat file.sections.length }
  have hlisted : started.performUntilError (file.sections.map .ofStored) = .ok listed :=
    Builder.performUntilError_sections rfl hfits.payload_lt
  have hfull : listed.sectionsPushed = listed.sectionCount := UInt32.zero_add _
  obtain ⟨filled, hfilled, hopenAt⟩ :=
    Builder.performUntilError_table hfull hfits.symbols_lt hfits.names_lt
  have hrun : file.rebuild = filled.finish := by
    calc file.rebuild
        = (started.performUntilError file.calls).bind fun b => b.finish := rfl
      _ = ((started.performUntilError (file.sections.map .ofStored)).bind fun b =>
            b.performUntilError _).bind fun b => b.finish := by
          rw [calls, Builder.performUntilError_append]
      _ = (listed.performUntilError _).bind fun b => b.finish := by
          rw [hlisted]
          rfl
      _ = filled.finish := by
          rw [hfilled]
          rfl
  rw [hrun, hopenAt.finish_eq, hopenAt.close_eq_ok_iff]
  refine ⟨UInt32.zero_add _, ?_, hlength⟩
  rw [written_eq, ← List.append_assoc, List.length_append, Word.length_toLittleEndian]
  rfl

end File

end LinkBench.Alf
