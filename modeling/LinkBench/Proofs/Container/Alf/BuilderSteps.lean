import LinkBench.Proofs.Container.Alf.BuilderRuns

/-!
# What a call does to a builder

`Performs` lists what a call can do, failing ones included, and `performs` says that it does nothing
else; what every call keeps is a case analysis on it. The first thing kept is where an open table
stands (`Anchored`): all sections are in front of it, its length field still holds zero, and the
number of its symbols follows. This makes it safe to fill in the length at the end
(`finish_patches_length`).
-/

namespace LinkBench.Alf.Builder

/-- The builder after a call, and what the call returns. -/
inductive Performs (b : Builder) : Call → Except FormatError Unit → Builder → Prop
  | sectionPushed {address size payload} (htable : b.table = none)
      (hlength : (payload.getD []).length < wordLimit) :
      Performs b (.pushSection address size payload) (.ok ()) { b with
        bytes := b.bytes ++ StoredSection.record ⟨address, size, payload.getD []⟩
        sectionsPushed := b.sectionsPushed + 1 }
  -- The section is counted, although its payload has no length word.
  | sectionCut {address size payload} (htable : b.table = none)
      (hlength : ¬(payload.getD []).length < wordLimit) :
      Performs b (.pushSection address size payload) (.error .imageTooLarge) { b with
        bytes := b.bytes ++ Word.toLittleEndian address
        sectionsPushed := b.sectionsPushed + 1 }
  | sectionRefused {address size payload table} (htable : b.table = some table) :
      Performs b (.pushSection address size payload)
        (.error (.sectionCountMismatch b.sectionCount (b.sectionsPushed + 1))) b
  | tableOpened {declared} (hfull : b.sectionsPushed = b.sectionCount) :
      Performs b (.beginSymbolTable declared) (.ok ()) { b with
        bytes := b.bytes ++ (Word.toLittleEndian 0 ++ Word.toLittleEndian declared)
        table := some ⟨b.bytes.length, declared, 0⟩ }
  | tableRefused {declared} (hfew : b.sectionsPushed ≠ b.sectionCount) :
      Performs b (.beginSymbolTable declared)
        (.error (.sectionCountMismatch b.sectionCount b.sectionsPushed)) b
  | symbolPushed {symbol table} (htable : b.table = some table)
      (hroom : table.pushed + 1 ≤ table.declared) :
      Performs b (.pushSymbol symbol) (.ok ())
        (b.counted table (symbolRecord b.version symbol (dataFlag symbol)))
  | symbolCut {symbol table} (htable : b.table = some table)
      (hroom : table.pushed + 1 ≤ table.declared)
      (hnames : ¬(symbol.mangledName.length < wordLimit ∧
        symbol.demangledName.length < wordLimit)) :
      Performs b (.pushSymbol symbol) (.error .imageTooLarge)
        (b.counted table (brokenRecord symbol))
  | symbolOver {symbol table} (htable : b.table = some table)
      (hover : ¬table.pushed + 1 ≤ table.declared) :
      Performs b (.pushSymbol symbol)
        (.error (.symbolCountMismatch table.declared (table.pushed + 1))) (b.counted table [])
  -- A symbol that finds no table opens one for no symbols, which has no room for it.
  | symbolAlone {symbol} (htable : b.table = none)
      (hfull : b.sectionsPushed = b.sectionCount) :
      Performs b (.pushSymbol symbol) (.error (.symbolCountMismatch 0 1)) { b with
        bytes := b.bytes ++ (Word.toLittleEndian 0 ++ Word.toLittleEndian 0)
        table := some ⟨b.bytes.length, 0, 1⟩ }
  | symbolRefused {symbol} (htable : b.table = none)
      (hfew : b.sectionsPushed ≠ b.sectionCount) :
      Performs b (.pushSymbol symbol)
        (.error (.sectionCountMismatch b.sectionCount b.sectionsPushed)) b

variable {b b' : Builder} {call : Call} {result : Except FormatError Unit}

theorem performs_pushSection (b : Builder) (address size : UInt32) (payload : Option Bytes) :
    Performs b (.pushSection address size payload) (b.pushSection address size payload).1
      (b.pushSection address size payload).2 := by
  cases htable : b.table with
  | some table =>
    rw [pushSection_of_table htable]
    exact .sectionRefused htable
  | none =>
    by_cases hlength : (payload.getD []).length < wordLimit
    · rw [pushSection_eq htable hlength]
      exact .sectionPushed htable hlength
    · have heq : b.pushSection address size payload = (.error .imageTooLarge, { b with
          bytes := b.bytes ++ Word.toLittleEndian address
          sectionsPushed := b.sectionsPushed + 1 }) := by
        unfold pushSection
        rw [htable]
        simp only [append, if_neg hlength]
      rw [heq]
      exact .sectionCut htable hlength

theorem performs_pushSymbol (b : Builder) (symbol : Symbol) :
    Performs b (.pushSymbol symbol) (b.pushSymbol symbol).1 (b.pushSymbol symbol).2 := by
  cases htable : b.table with
  | some table =>
    rw [pushSymbol_of_table htable]
    obtain ⟨hroom, heq⟩ | ⟨hroom, hnames, heq⟩ | ⟨hover, heq⟩ := pushSymbolInto_cases b table symbol
    · rw [heq]
      exact .symbolPushed htable hroom
    · rw [heq]
      exact .symbolCut htable hroom hnames
    · rw [heq]
      exact .symbolOver htable hover
  | none =>
    by_cases hfull : b.sectionsPushed = b.sectionCount
    · rw [pushSymbol_of_none htable hfull, beginSymbolTable_eq hfull]
      exact .symbolAlone htable hfull
    · rw [pushSymbol_of_ne htable hfull]
      exact .symbolRefused htable hfull

/-- **A call does one of these things.** -/
theorem performs (b : Builder) (call : Call) :
    Performs b call (b.perform call).1 (b.perform call).2 := by
  cases call with
  | pushSection address size payload => exact performs_pushSection b address size payload
  | beginSymbolTable declared =>
    by_cases hfull : b.sectionsPushed = b.sectionCount
    · rw [perform, beginSymbolTable_eq hfull]
      exact .tableOpened hfull
    · rw [perform, beginSymbolTable_of_ne hfull]
      exact .tableRefused hfull
  | pushSymbol symbol => exact performs_pushSymbol b symbol

theorem Performs.version_eq (h : Performs b call result b') : b'.version = b.version := by
  cases h <;> rfl

/-! ### Where an open table stands -/

/-- If a table is open, all sections are written, and its position splits the bytes into those
before the table, a zero word for its length, the number that it declares, and the rest. -/
def Anchored (b : Builder) : Prop :=
  ∀ table, b.table = some table → b.sectionsPushed = b.sectionCount ∧
    ∃ before body, b.OpenAt table before (Word.toLittleEndian table.declared ++ body)

theorem anchored_of_none (htable : b.table = none) : b.Anchored := by
  intro table h
  rw [htable] at h
  cases h

theorem Anchored.counted (h : b.Anchored) {table : SymbolTable} (htable : b.table = some table)
    (piece : Bytes) : (b.counted table piece).Anchored := by
  rintro _ ⟨⟩
  obtain ⟨hfull, before, body, hopen⟩ := h table htable
  have hcounted := hopen.counted piece
  rw [List.append_assoc] at hcounted
  exact ⟨hfull, before, body ++ piece, hcounted⟩

theorem Anchored.step (h : b.Anchored) (hstep : Performs b call result b') : b'.Anchored := by
  cases hstep with
  | sectionPushed htable _ | sectionCut htable _ => exact anchored_of_none htable
  | sectionRefused _ | tableRefused _ | symbolRefused _ _ => exact h
  | tableOpened hfull =>
    rintro _ ⟨⟩
    exact ⟨hfull, b.bytes, [], rfl, by rw [List.append_nil], rfl⟩
  | symbolAlone _ hfull =>
    rintro _ ⟨⟩
    exact ⟨hfull, b.bytes, [], rfl, by rw [List.append_nil], rfl⟩
  | symbolPushed htable _ | symbolCut htable _ _ | symbolOver htable _ => exact h.counted htable _

/-- **Every run keeps** where an open table stands. -/
theorem Anchored.performAll (h : b.Anchored) (calls : List Call) : (b.performAll calls).Anchored := by
  induction calls generalizing b with
  | nil => exact h
  | cons call rest ih => exact ih (h.step (performs b call))

theorem anchored_performAll (version : Version) (entryPoint count : UInt32) (calls : List Call) :
    ((start version entryPoint count).performAll calls).Anchored :=
  (anchored_of_none rfl).performAll calls

/-! ### Filling in the length of a table

The position of an open table is an index into bytes that go on growing. Calls only append, so the
eight bytes from there on stay what the opening has written, and the length that is filled in at the
end replaces nothing but the zeros.
-/

section Finish

variable {table : SymbolTable} {before behind bytes : Bytes}

theorem OpenAt.length_eq (h : b.OpenAt table before behind) :
    b.bytes.length = table.start + 4 + behind.length := by
  rw [h.bytes_eq, h.start_eq]
  simp only [List.length_append, Word.length_toLittleEndian, Nat.add_assoc]

theorem OpenAt.take_start (h : b.OpenAt table before behind) : b.bytes.take table.start = before := by
  rw [h.bytes_eq, h.start_eq, List.take_left]

theorem OpenAt.drop_start (h : b.OpenAt table before behind) :
    b.bytes.drop table.start = Word.toLittleEndian 0 ++ behind := by
  rw [h.bytes_eq, h.start_eq, List.drop_left]

theorem OpenAt.drop_field (h : b.OpenAt table before behind) :
    b.bytes.drop (table.start + 4) = behind := by
  rw [← List.drop_drop, h.drop_start]
  rfl

/-- Finishing replaces the zeros of the length field and appends the terminator. -/
theorem OpenAt.finish_eq_ok (h : b.OpenAt table before behind) (hfinish : b.finish = .ok bytes) :
    ∃ span : UInt32, span.toNat = b.bytes.length - table.start - 4 ∧
      bytes = b.bytes.take table.start ++ Word.toLittleEndian span ++
        b.bytes.drop (table.start + 4) ++ List.replicate 8 0 := by
  rw [h.finish_eq] at hfinish
  obtain ⟨-, hbytes, hlength⟩ := h.close_eq_ok_iff.1 hfinish
  have hspan : behind.length < wordLimit := by
    rw [hbytes] at hlength
    simp only [List.length_append] at hlength
    omega
  refine ⟨UInt32.ofNat behind.length, ?_, ?_⟩
  · rw [Word.toNat_ofNat hspan, h.length_eq]
    omega
  · rw [h.take_start, h.drop_field, hbytes]
    simp only [List.append_assoc]
    rfl

/-- Without an open table, finishing first opens one for no symbols. -/
theorem finish_eq_ok_of_none (htable : b.table = none) (hfinish : b.finish = .ok bytes) :
    (b.beginSymbolTable 0).2.OpenAt ⟨b.bytes.length, 0, 0⟩ b.bytes (Word.toLittleEndian 0) ∧
      (b.beginSymbolTable 0).2.finish = .ok bytes := by
  rw [finish_of_none htable] at hfinish
  split at hfinish
  · rename_i hfull
    exact ⟨openAt_beginSymbolTable hfull 0, hfinish⟩
  · cases hfinish

/-- **Filling in the length is safe and local.** Whatever calls have been made, the zero word of an open
table and the number of its symbols stand at its position. A finished container is the bytes so far with
that word replaced by the number of bytes behind it, and the terminator; an empty table comes in between
if none is open. -/
theorem finish_patches_length (version : Version) (entryPoint count : UInt32) (calls : List Call) :
    let b := (start version entryPoint count).performAll calls
    (∀ table, b.table = some table →
      table.start + 8 ≤ b.bytes.length ∧
      (b.bytes.drop table.start).take 4 = [0, 0, 0, 0] ∧
      (b.bytes.drop (table.start + 4)).take 4 = Word.toLittleEndian table.declared ∧
      ∀ bytes, b.finish = .ok bytes → ∃ span : UInt32,
        span.toNat = b.bytes.length - table.start - 4 ∧
        bytes = b.bytes.take table.start ++ Word.toLittleEndian span ++
          b.bytes.drop (table.start + 4) ++ List.replicate 8 0) ∧
    (b.table = none → ∀ bytes, b.finish = .ok bytes →
      bytes = b.bytes ++ Word.toLittleEndian 4 ++ Word.toLittleEndian 0 ++ List.replicate 8 0) := by
  intro b
  have hanchored : b.Anchored := anchored_performAll version entryPoint count calls
  refine ⟨fun table htable => ?_, fun htable bytes hfinish => ?_⟩
  · obtain ⟨-, before, body, hopen⟩ := hanchored table htable
    have hlength := hopen.length_eq
    rw [List.length_append, Word.length_toLittleEndian] at hlength
    refine ⟨by omega, ?_, ?_, fun bytes => hopen.finish_eq_ok⟩
    · rw [hopen.drop_start]
      rfl
    · rw [hopen.drop_field]
      exact List.take_left' (Word.length_toLittleEndian table.declared)
  · obtain ⟨hopen, hfinish⟩ := finish_eq_ok_of_none htable hfinish
    obtain ⟨span, hspan, rfl⟩ := hopen.finish_eq_ok hfinish
    have hfour : span.toNat = 4 := by
      rw [hspan, hopen.length_eq, Word.length_toLittleEndian]
      dsimp only
      omega
    obtain rfl : span = 4 := UInt32.toNat_inj.1 hfour
    rw [hopen.take_start, hopen.drop_field]

/-- A section that comes too late and a symbol that is one too many fail, and the table is opened anew:
the first one keeps its zeros. -/
theorem finish_patches_length_of_reopened_table :
    let symbol : Symbol := ⟨[102], [103], 0x80000000, 4, true, 0, 7⟩
    let calls : List Call := [.pushSection 0x80000000 4 (some [1, 2, 3, 4]), .beginSymbolTable 0,
      .pushSection 0x80000004 4 none, .pushSymbol symbol, .beginSymbolTable 1, .pushSymbol symbol]
    let b := (start .v104 0x80000000 1).performAll calls
    ∃ bytes, b.table = some ⟨40, 1, 1⟩ ∧ b.finish = .ok bytes ∧ 48 ≤ b.bytes.length ∧
      (b.bytes.drop 40).take 4 = [0, 0, 0, 0] ∧
      (b.bytes.drop 44).take 4 = Word.toLittleEndian 1 ∧
      ∃ span : UInt32, span.toNat = b.bytes.length - 44 ∧
        bytes = b.bytes.take 40 ++ Word.toLittleEndian span ++ b.bytes.drop 44 ++ List.replicate 8 0 := by
  intro symbol calls b
  have htable : b.table = some ⟨40, 1, 1⟩ := rfl
  have hfinish : ∃ bytes, b.finish = .ok bytes := ⟨_, rfl⟩
  obtain ⟨bytes, hfinish⟩ := hfinish
  obtain ⟨hinside, hzeros, hdeclared, hpatched⟩ :=
    (finish_patches_length .v104 0x80000000 1 calls).1 _ htable
  exact ⟨bytes, htable, hfinish, hinside, hzeros, hdeclared, hpatched bytes hfinish⟩

end Finish

end LinkBench.Alf.Builder
