import LinkBench.Proofs.Container.Alf.Writing

/-!
# Whatever is read can be written again

The reader checks enough to lose nothing: writing the file that was read gives back the input, byte
for byte, but for the data flags. There the reader takes every word and the writer knows two, so a
word that is not zero comes back as one.
-/

namespace LinkBench.Alf

/-- Where the data flags of symbols stand whose first record begins at `start`: behind the two names
with their lengths and two words. -/
def flagPositions (version : Version) (start : Nat) : List Symbol → List Nat
  | [] => []
  | symbol :: rest =>
    (start + symbol.mangledName.length + symbol.demangledName.length + 16) ::
      flagPositions version (start + recordLength version symbol) rest

def File.flagPositions (file : File) : List Nat :=
  Alf.flagPositions file.version
    (16 + (file.sections.map fun s => 12 + s.bytes.length).sum + 8) file.symbols

theorem length_symbolHead (symbol : Symbol) : (symbolHead symbol).length =
    symbol.mangledName.length + symbol.demangledName.length + 16 := by
  simp only [symbolHead, List.length_append, length_lengthPrefixed, Word.length_toLittleEndian]
  omega

/-! ### Bytes outside the data flags -/

theorem getElem?_append_congr {before before' : Bytes} {p : Nat}
    (hlength : before.length = before'.length) (hp : before[p]? = before'[p]?) (rest : Bytes) :
    (before ++ rest)[p]? = (before' ++ rest)[p]? := by
  simp only [List.getElem?_append, hp, hlength]

/-- Putting another word between the same bytes changes no position outside the word. -/
theorem getElem?_outside_word {before before' word word' : Bytes} {p : Nat} (behind : Bytes)
    (hlength : before.length = before'.length) (hp : before[p]? = before'[p]?)
    (hword : word.length = 4) (hword' : word'.length = 4)
    (houtside : p < before.length ∨ before.length + 4 ≤ p) :
    (before ++ (word ++ behind))[p]? = (before' ++ (word' ++ behind))[p]? := by
  simp only [List.getElem?_append, hp, ← hlength, hword, hword']
  obtain hbefore | hbehind := houtside
  · rw [if_pos hbefore, if_pos hbefore]
  · have hnot : ¬p - before.length < 4 := by omega
    rw [if_neg hnot, if_neg hnot]

theorem getElem?_symbolRecords {version : Version} {symbols : List Symbol}
    {flags flags' : List UInt32} {before before' : Bytes} {p : Nat}
    (hflags : flags.length = symbols.length) (hflags' : flags'.length = symbols.length)
    (hlength : before.length = before'.length) (hp : before[p]? = before'[p]?)
    (houtside : ∀ q ∈ flagPositions version before.length symbols, p < q ∨ q + 4 ≤ p) :
    (before ++ symbolRecords version symbols flags)[p]? =
      (before' ++ symbolRecords version symbols flags')[p]? := by
  induction symbols generalizing flags flags' before before' with
  | nil =>
    rw [List.eq_nil_of_length_eq_zero hflags, List.eq_nil_of_length_eq_zero hflags']
    exact getElem?_append_congr hlength hp []
  | cons symbol rest ih =>
    cases flags with
    | nil => cases hflags
    | cons flag flags =>
      cases flags' with
      | nil => cases hflags'
      | cons flag' flags' =>
        rw [flagPositions, List.forall_mem_cons] at houtside
        have hrecord : (before ++ symbolRecord version symbol flag)[p]? =
            (before' ++ symbolRecord version symbol flag')[p]? := by
          simp only [symbolRecord, ← List.append_assoc]
          rw [List.append_assoc, List.append_assoc (before' ++ _)]
          refine getElem?_outside_word _ ?_ (getElem?_append_congr hlength hp _) rfl rfl ?_
          · rw [List.length_append, List.length_append, hlength]
          · rw [List.length_append, length_symbolHead]
            omega
        rw [symbolRecords, symbolRecords, ← List.append_assoc, ← List.append_assoc]
        refine ih (Nat.succ.inj hflags) (Nat.succ.inj hflags') ?_ hrecord ?_
        · simp only [List.length_append, length_symbolRecord, hlength]
        · rw [List.length_append, length_symbolRecord]
          exact houtside.2

/-! ### The data flags -/

/-- At each data flag the layout holds the word that was put there. -/
theorem flagWords_symbolRecords {version : Version} {symbols : List Symbol} {flags : List UInt32}
    (hreadable : List.Forall₂ (Readable version) symbols flags) {before before' : Bytes}
    (hlength : before.length = before'.length) (rest rest' : Bytes) :
    ∀ q ∈ flagPositions version before.length symbols, ∃ flag,
      ((before ++ symbolRecords version symbols flags ++ rest).drop q).take 4 =
        Word.toLittleEndian flag ∧
      ((before' ++ symbolRecords version symbols (symbols.map dataFlag) ++ rest').drop q).take 4 =
        Word.toLittleEndian (if flag = 0 then 0 else 1) := by
  induction hreadable generalizing before before' with
  | nil => simp [flagPositions]
  | @cons symbol flag symbols flags hflag _ ih =>
    rw [flagPositions, List.forall_mem_cons]
    constructor
    · have hposition : before.length + symbol.mangledName.length + symbol.demangledName.length + 16 =
          (before ++ symbolHead symbol).length := by
        rw [List.length_append, length_symbolHead]
        omega
      have hposition' : (before ++ symbolHead symbol).length =
          (before' ++ symbolHead symbol).length := by
        rw [List.length_append, List.length_append, hlength]
      have hdata : dataFlag symbol = if flag = 0 then 0 else 1 := by
        rw [dataFlag, hflag.isData_eq]
        by_cases hzero : flag = 0 <;> simp [hzero]
      refine ⟨flag, ?_, ?_⟩
      · rw [hposition]
        simp only [symbolRecords, symbolRecord, ← List.append_assoc]
        rw [List.append_assoc, List.append_assoc, List.append_assoc]
        exact drop_take_append rfl rfl
      · rw [hposition, hposition', ← hdata]
        simp only [List.map_cons, symbolRecords, symbolRecord, ← List.append_assoc]
        rw [List.append_assoc, List.append_assoc, List.append_assoc]
        exact drop_take_append rfl rfl
    · have hlengths : (before ++ symbolRecord version symbol flag).length =
          (before' ++ symbolRecord version symbol (dataFlag symbol)).length := by
        simp only [List.length_append, length_symbolRecord, hlength]
      have hrest := ih hlengths
      rw [List.length_append, length_symbolRecord] at hrest
      simp only [List.map_cons, symbolRecords, ← List.append_assoc]
      exact hrest

/-! ### The whole container -/

namespace File

def front (file : File) : Bytes :=
  file.header ++ (file.sections.flatMap StoredSection.record ++
  (Word.toLittleEndian
    (UInt32.ofNat (4 + (file.symbols.map (recordLength file.version)).sum)) ++
  Word.toLittleEndian (UInt32.ofNat file.symbols.length)))

theorem layout_eq_front {file : File} {flags : List UInt32}
    (h : flags.length = file.symbols.length) :
    file.layout flags = file.front ++ symbolRecords file.version file.symbols flags ++
      (Word.toLittleEndian 0 ++ Word.toLittleEndian 0) := by
  rw [layout, length_tableBytes, length_symbolRecords h, tableBytes]
  simp only [front, List.append_assoc]

theorem length_front (file : File) : file.front.length =
    16 + (file.sections.map fun s => 12 + s.bytes.length).sum + 8 := by
  simp only [front, List.length_append, length_header, Word.length_toLittleEndian,
    List.length_flatMap, length_record]
  omega

theorem length_layout {file : File} {flags : List UInt32}
    (h : flags.length = file.symbols.length) : (file.layout flags).length =
      file.front.length + (file.symbols.map (recordLength file.version)).sum + 8 := by
  rw [layout_eq_front h, List.length_append, List.length_append, length_symbolRecords h]
  rfl

/-- **Canonical form.** Writing a file that was read gives back the input, but for the data flags:
there zero stays, and every other word becomes one. -/
theorem rebuild_of_parse {input : Bytes} {file : File} (hlength : input.length < wordLimit)
    (hparse : parse input = .ok file) :
    ∃ bytes, file.rebuild = .ok bytes ∧ bytes.length = input.length ∧
      (∀ p, (∀ q ∈ file.flagPositions, p < q ∨ q + 4 ≤ p) → bytes[p]? = input[p]?) ∧
      ∀ q ∈ file.flagPositions, ∃ flag,
        (input.drop q).take 4 = Word.toLittleEndian flag ∧
        (bytes.drop q).take 4 = Word.toLittleEndian (if flag = 0 then 0 else 1) := by
  obtain ⟨flags, hspelled, rfl⟩ := parse_eq_ok_iff.1 hparse
  have hreadable := hspelled.table.readable
  have hflags : flags.length = file.symbols.length := hreadable.length_eq.symm
  have hflags' : (file.symbols.map dataFlag).length = file.symbols.length := List.length_map _
  have hlengths : file.written.length = (file.layout flags).length := by
    rw [written, length_layout hflags, length_layout hflags']
  refine ⟨file.written, rebuild_eq (hlengths ▸ hlength), hlengths, ?_, ?_⟩
  · intro p houtside
    rw [written, layout_eq_front hflags, layout_eq_front hflags']
    refine getElem?_append_congr ?_ ?_ _
    · rw [List.length_append, List.length_append, length_symbolRecords hflags,
        length_symbolRecords hflags']
    · refine getElem?_symbolRecords hflags' hflags rfl rfl ?_
      rw [length_front]
      exact houtside
  · rw [written, layout_eq_front hflags, layout_eq_front hflags', flagPositions, ← length_front]
    exact flagWords_symbolRecords hreadable rfl _ _

end File

theorem File.rebuild_of_parse_of_flag_two :
    let input : Bytes := [82, 66, 79, 70, 104, 0, 0, 0, 0, 0, 0, 128, 1, 0, 0, 0,
      0, 0, 0, 128, 0, 0, 0, 0, 8, 0, 0, 0,
      30, 0, 0, 0, 1, 0, 0, 0, 1, 0, 0, 0, 102, 1, 0, 0, 0, 103,
      0, 0, 0, 128, 4, 0, 0, 0, 2, 0, 0, 0, 0, 0, 0, 0, 0, 0, 0, 0, 0, 0, 0, 0]
    let file : File := ⟨.v104, 0x80000000, [⟨0x80000000, 8, []⟩],
      [⟨[102], [103], 0x80000000, 4, true, 0, 0⟩]⟩
    input.length < wordLimit ∧ parse input = .ok file ∧
    ∃ bytes, file.rebuild = .ok bytes ∧ bytes.length = input.length ∧
      (∀ p, (∀ q ∈ file.flagPositions, p < q ∨ q + 4 ≤ p) → bytes[p]? = input[p]?) ∧
      ∀ q ∈ file.flagPositions, ∃ flag,
        (input.drop q).take 4 = Word.toLittleEndian flag ∧
        (bytes.drop q).take 4 = Word.toLittleEndian (if flag = 0 then 0 else 1) := by
  intro input file
  have hlength : input.length < wordLimit := by decide
  have hparse : parse input = .ok file := by rfl
  exact ⟨hlength, hparse, File.rebuild_of_parse hlength hparse⟩

end LinkBench.Alf
