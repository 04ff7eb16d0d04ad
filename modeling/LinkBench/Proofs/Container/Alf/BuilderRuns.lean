import LinkBench.Proofs.Container.Alf.Writing

/-!
# Runs of a builder

Calls come in any order, some fail, and the run goes on. What a run has written is told from its
outcomes: the sections and symbols that were accepted, the symbols whose record was cut off, and how
often a table was opened. `Stage` ties the state of the builder to these, each call keeps it, and
at the end it says which containers can be read back. They are those of the runs that open one
table, accept as many symbols as it declares and cut no record off. A second opening leaves the
length of the first table zero. The number of accepted symbols is not what the builder compares: its
counter counts other symbols too, and wraps around.
-/

namespace LinkBench.Alf.Builder

/-! ### What a run has done -/

def outcomes (b : Builder) : List Call → List (Call × Except FormatError Unit)
  | [] => []
  | call :: rest => (call, (b.perform call).1) :: (b.perform call).2.outcomes rest

def acceptedSection? : Call × Except FormatError Unit → Option StoredSection
  | (.pushSection address size payload, .ok ()) => some ⟨address, size, payload.getD []⟩
  | _ => none

def acceptedSymbol? : Call × Except FormatError Unit → Option Symbol
  | (.pushSymbol symbol, .ok ()) => some symbol
  | _ => none

/-- The symbol whose record ends behind its first name, since the second one has no length word. -/
def cutSymbol? : Call × Except FormatError Unit → Option Symbol
  | (.pushSymbol symbol, .error .imageTooLarge) =>
    if symbol.mangledName.length < wordLimit then some symbol else none
  | _ => none

def acceptedSections (b : Builder) (calls : List Call) : List StoredSection :=
  (b.outcomes calls).filterMap acceptedSection?

def acceptedSymbols (b : Builder) (calls : List Call) : List Symbol :=
  (b.outcomes calls).filterMap acceptedSymbol?

def cutSymbols (b : Builder) (calls : List Call) : List Symbol :=
  (b.outcomes calls).filterMap cutSymbol?

/-- The call opens a symbol table, by itself or because a symbol needs one. -/
def opens (b : Builder) : Call → Bool
  | .pushSection .. => false
  | .beginSymbolTable _ => b.sectionsPushed = b.sectionCount
  | .pushSymbol _ => b.table.isNone ∧ b.sectionsPushed = b.sectionCount

def openings (b : Builder) : List Call → Nat
  | [] => 0
  | call :: rest => (if b.opens call then 1 else 0) + (b.perform call).2.openings rest

/-- A section of the call has a size, and a payload of that size if any. -/
def Call.WellSized : Call → Prop
  | .pushSection _ size payload => size ≠ 0 ∧ ∀ bytes ∈ payload, bytes.length = size.toNat
  | _ => True

instance : DecidablePred Call.WellSized
  | .pushSection _ size payload =>
    inferInstanceAs (Decidable (size ≠ 0 ∧ ∀ bytes ∈ payload, bytes.length = size.toNat))
  | .beginSymbolTable _ | .pushSymbol _ => inferInstanceAs (Decidable True)

theorem filterMap_outcomes_cons {α : Type} (f : Call × Except FormatError Unit → Option α)
    (b : Builder) (call : Call) (rest : List Call) :
    (b.outcomes (call :: rest)).filterMap f = (f (call, (b.perform call).1)).toList ++
      ((b.perform call).2.outcomes rest).filterMap f := by
  rw [outcomes, List.filterMap_cons]
  cases f (call, (b.perform call).1) <;> rfl

theorem Call.WellSized.complete {address size : UInt32} {payload : Option Bytes}
    (h : (Call.pushSection address size payload).WellSized) :
    StoredSection.Complete ⟨address, size, payload.getD []⟩ := by
  refine ⟨h.1, ?_⟩
  cases payload with
  | none => exact .inl rfl
  | some bytes => exact .inr (h.2 bytes rfl)

/-! ### One symbol -/

def counted (b : Builder) (table : SymbolTable) (piece : Bytes) : Builder :=
  { b with
    bytes := b.bytes ++ piece
    table := some { table with pushed := table.pushed + 1 } }

theorem OpenAt.counted {b : Builder} {table : SymbolTable} {before behind : Bytes}
    (h : b.OpenAt table before behind) (piece : Bytes) :
    (b.counted table piece).OpenAt { table with pushed := table.pushed + 1 } before
      (behind ++ piece) :=
  ⟨rfl, (h.append piece).bytes_eq, h.start_eq⟩

/-- A symbol is counted in any case. Its record is appended, or cut off, or there is no room for
it. -/
theorem pushSymbolInto_cases (b : Builder) (table : SymbolTable) (symbol : Symbol) :
    (table.pushed + 1 ≤ table.declared ∧ b.pushSymbolInto table symbol =
      (.ok (), b.counted table (symbolRecord b.version symbol (dataFlag symbol)))) ∨
    (table.pushed + 1 ≤ table.declared ∧
      ¬(symbol.mangledName.length < wordLimit ∧ symbol.demangledName.length < wordLimit) ∧
      b.pushSymbolInto table symbol =
        (.error .imageTooLarge, b.counted table (brokenRecord symbol))) ∨
    (¬table.pushed + 1 ≤ table.declared ∧ b.pushSymbolInto table symbol =
      (.error (.symbolCountMismatch table.declared (table.pushed + 1)), b.counted table [])) := by
  unfold pushSymbolInto
  by_cases hroom : table.pushed + 1 ≤ table.declared
  · simp only [if_pos hroom]
    by_cases hnames :
        symbol.mangledName.length < wordLimit ∧ symbol.demangledName.length < wordLimit
    · exact .inl ⟨hroom, appendSymbol_eq hnames.1 hnames.2⟩
    · exact .inr (.inl ⟨hroom, hnames, appendSymbol_of_not_lt hnames⟩)
  · refine .inr (.inr ⟨hroom, ?_⟩)
    simp only [if_neg hroom, counted, List.append_nil]

theorem pushSymbol_of_table {b : Builder} {table : SymbolTable} (h : b.table = some table)
    (symbol : Symbol) : b.pushSymbol symbol = b.pushSymbolInto table symbol := by
  rw [pushSymbol, h]

theorem pushSymbol_of_none {b : Builder} (htable : b.table = none)
    (hfull : b.sectionsPushed = b.sectionCount) (symbol : Symbol) :
    b.pushSymbol symbol =
      (b.beginSymbolTable 0).2.pushSymbolInto ⟨b.bytes.length, 0, 0⟩ symbol := by
  rw [pushSymbol, htable, beginSymbolTable_eq hfull]

theorem pushSymbol_of_ne {b : Builder} (htable : b.table = none)
    (h : b.sectionsPushed ≠ b.sectionCount) (symbol : Symbol) :
    b.pushSymbol symbol = (.error (.sectionCountMismatch b.sectionCount b.sectionsPushed), b) := by
  rw [pushSymbol, htable, beginSymbolTable_of_ne h]

/-! ### The stages of a run -/

/-- What every stage of a run knows: the builder has not changed its head, and the sections that
it counts are the accepted ones. -/
structure Lists (b : Builder) (version : Version) (count : UInt32)
    (sections : List StoredSection) : Prop where
  version_eq : b.version = version
  sectionCount_eq : b.sectionCount = count
  pushed_eq : b.sectionsPushed = UInt32.ofNat sections.length
  complete : ∀ s ∈ sections, s.Complete

def listed (version : Version) (entryPoint count : UInt32) (sections : List StoredSection) :
    Bytes :=
  (start version entryPoint count).bytes ++ sections.flatMap StoredSection.record

/-- How far a run has come: it lists sections, it fills its only table, or it has opened a table
again. The table that it fills holds at least the records of the accepted symbols and a part of each
record that was cut off, and just the former if there are none of the latter. -/
inductive Stage (version : Version) (entryPoint count : UInt32) :
    Builder → List StoredSection → List Symbol → List Symbol → Nat → Prop
  | listing {b sections} (hlists : b.Lists version count sections) (htable : b.table = none)
      (hbytes : b.bytes = listed version entryPoint count sections) :
      Stage version entryPoint count b sections [] [] 0
  | filling {b sections symbols cut table body} (hlists : b.Lists version count sections)
      (hfull : UInt32.ofNat sections.length = count)
      (hopen : b.OpenAt table (listed version entryPoint count sections)
        (Word.toLittleEndian table.declared ++ body))
      (hlength : (writtenRecords version symbols).length + cut.length ≤ body.length)
      (hbody : cut = [] → body = writtenRecords version symbols) :
      Stage version entryPoint count b sections symbols cut 1
  | reopened {b sections symbols cut table abandoned behind n}
      (hlists : b.Lists version count sections) (hfull : UInt32.ofNat sections.length = count)
      (hopen : b.OpenAt table (listed version entryPoint count sections ++
        (Word.toLittleEndian 0 ++ abandoned)) behind) (htwice : 2 ≤ n) :
      Stage version entryPoint count b sections symbols cut n

variable {version : Version} {entryPoint count : UInt32} {b : Builder}
  {sections : List StoredSection} {symbols cut : List Symbol} {n : Nat}

theorem stage_start (version : Version) (entryPoint count : UInt32) :
    Stage version entryPoint count (start version entryPoint count) [] [] [] 0 :=
  .listing ⟨rfl, rfl, rfl, fun _ h => absurd h List.not_mem_nil⟩ rfl (List.append_nil _).symm

theorem Stage.pushSection (h : Stage version entryPoint count b sections symbols cut n)
    {address size : UInt32} {payload : Option Bytes}
    (hsized : (Call.pushSection address size payload).WellSized) :
    Stage version entryPoint count (b.pushSection address size payload).2
      (sections ++ (acceptedSection? (.pushSection address size payload,
        (b.pushSection address size payload).1)).toList) symbols cut n := by
  cases h with
  | listing hlists htable hbytes =>
    have hcomplete := hsized.complete
    have hlength : (payload.getD []).length < wordLimit := by
      obtain hnil | hfull := hcomplete.bytes_eq
      · rw [show payload.getD [] = [] from hnil]
        decide
      · rw [show (payload.getD []).length = size.toNat from hfull]
        exact Word.toNat_lt_wordLimit size
    rw [pushSection_eq htable hlength]
    refine .listing ⟨hlists.version_eq, hlists.sectionCount_eq, ?_, ?_⟩ htable ?_
    · rw [hlists.pushed_eq, List.length_append, UInt32.ofNat_add]
      rfl
    · intro s hs
      obtain hs | hs := List.mem_append.1 hs
      · exact hlists.complete s hs
      · rw [List.mem_singleton.1 hs]
        exact hcomplete
    · simp [acceptedSection?, hbytes, listed]
  | filling hlists hfull hopen hlength hbody =>
    rw [pushSection_of_table hopen.table_eq]
    simp only [acceptedSection?, Option.toList_none, List.append_nil]
    exact .filling hlists hfull hopen hlength hbody
  | reopened hlists hfull hopen htwice =>
    rw [pushSection_of_table hopen.table_eq]
    simp only [acceptedSection?, Option.toList_none, List.append_nil]
    exact .reopened hlists hfull hopen htwice

/-- The first opening starts to fill a table. Every later one leaves the length of the first
table zero, however many there are. -/
theorem Stage.beginSymbolTable (h : Stage version entryPoint count b sections symbols cut n)
    (hfull : b.sectionsPushed = b.sectionCount) (declared : UInt32) :
    Stage version entryPoint count (b.beginSymbolTable declared).2 sections symbols cut (n + 1) := by
  have hnew := openAt_beginSymbolTable hfull declared
  have hkeeps : ∀ {sections}, b.Lists version count sections →
      (b.beginSymbolTable declared).2.Lists version count sections := by
    intro sections hlists
    rw [beginSymbolTable_eq hfull]
    exact ⟨hlists.version_eq, hlists.sectionCount_eq, hlists.pushed_eq, hlists.complete⟩
  cases h with
  | listing hlists htable hbytes =>
    have hcount : UInt32.ofNat sections.length = count := by
      rw [← hlists.pushed_eq, hfull, hlists.sectionCount_eq]
    rw [hbytes, ← List.append_nil (Word.toLittleEndian declared)] at hnew
    exact .filling (hkeeps hlists) hcount hnew (Nat.le_refl 0) fun _ => rfl
  | filling hlists hcount hopen hlength hbody =>
    rw [hopen.bytes_eq] at hnew
    exact .reopened (hkeeps hlists) hcount hnew (Nat.le_refl 2)
  | reopened hlists hcount hopen htwice =>
    rw [hopen.bytes_eq, List.append_assoc, List.append_assoc] at hnew
    exact .reopened (hkeeps hlists) hcount hnew (Nat.le_succ_of_le htwice)

theorem Lists.counted (h : b.Lists version count sections) (table : SymbolTable) (piece : Bytes) :
    (b.counted table piece).Lists version count sections :=
  ⟨h.version_eq, h.sectionCount_eq, h.pushed_eq, h.complete⟩

theorem writtenRecords_concat (version : Version) (symbols : List Symbol) (symbol : Symbol) :
    writtenRecords version (symbols ++ [symbol]) =
      writtenRecords version symbols ++ symbolRecord version symbol (dataFlag symbol) := by
  rw [writtenRecords, List.flatMap_append, List.flatMap_singleton, writtenRecords]

/-- A symbol counts as cut exactly if a part of its record was written. -/
theorem brokenRecord_cases (symbol : Symbol) :
    (cutSymbol? (.pushSymbol symbol, .error .imageTooLarge) = some symbol ∧
      1 ≤ (brokenRecord symbol).length) ∨
    (cutSymbol? (.pushSymbol symbol, .error .imageTooLarge) = none ∧ brokenRecord symbol = []) := by
  unfold brokenRecord cutSymbol?
  by_cases hmangled : symbol.mangledName.length < wordLimit
  · refine .inl ⟨if_pos hmangled, ?_⟩
    rw [if_pos hmangled, length_lengthPrefixed]
    omega
  · exact .inr ⟨if_neg hmangled, if_neg hmangled⟩

theorem Stage.pushSymbolInto (h : Stage version entryPoint count b sections symbols cut n)
    {table : SymbolTable} (htable : b.table = some table) (symbol : Symbol) :
    let pushed := b.pushSymbolInto table symbol
    Stage version entryPoint count pushed.2 sections
      (symbols ++ (acceptedSymbol? (.pushSymbol symbol, pushed.1)).toList)
      (cut ++ (cutSymbol? (.pushSymbol symbol, pushed.1)).toList) n := by
  cases h with
  | listing hlists hnone hbytes =>
    rw [htable] at hnone
    cases hnone
  | reopened hlists hfull hopen htwice =>
    obtain rfl := Option.some.inj (htable.symm.trans hopen.table_eq)
    obtain ⟨-, heq⟩ | ⟨-, -, heq⟩ | ⟨-, heq⟩ := pushSymbolInto_cases b table symbol
    all_goals
      rw [heq]
      exact .reopened (hlists.counted _ _) hfull (hopen.counted _) htwice
  | filling hlists hfull hopen hlength hbody =>
    obtain rfl := Option.some.inj (htable.symm.trans hopen.table_eq)
    have hopen' := fun piece => hopen.counted piece
    simp only [List.append_assoc] at hopen'
    have hunwritten : Stage version entryPoint count (b.counted table []) sections symbols cut 1 := by
      have hsame := hopen' []
      rw [List.append_nil] at hsame
      exact .filling (hlists.counted _ _) hfull hsame hlength hbody
    -- The symbol is accepted, cut off or turned away.
    obtain ⟨-, heq⟩ | ⟨-, -, heq⟩ | ⟨-, heq⟩ := pushSymbolInto_cases b table symbol
    · rw [heq, hlists.version_eq]
      simp only [acceptedSymbol?, cutSymbol?, Option.toList_some, Option.toList_none, List.append_nil]
      refine .filling (hlists.counted _ _) hfull (hopen' _) ?_ fun hcut => ?_
      · rw [writtenRecords_concat, List.length_append, List.length_append]
        omega
      · rw [writtenRecords_concat, hbody hcut]
    · rw [heq]
      simp only [acceptedSymbol?, Option.toList_none, List.append_nil]
      obtain ⟨hcut, hsome⟩ | ⟨hcut, hnone⟩ := brokenRecord_cases symbol
      · rw [hcut, Option.toList_some]
        refine .filling (hlists.counted _ _) hfull (hopen' _) ?_ fun hnil => ?_
        · rw [List.length_append, List.length_append, List.length_singleton]
          omega
        · exact absurd (List.append_eq_nil_iff.1 hnil).2 (List.cons_ne_nil _ _)
      · rw [hcut, hnone, Option.toList_none, List.append_nil]
        exact hunwritten
    · rw [heq]
      simp only [acceptedSymbol?, cutSymbol?, Option.toList_none, List.append_nil]
      exact hunwritten

theorem Stage.pushSymbol (h : Stage version entryPoint count b sections symbols cut n)
    (symbol : Symbol) :
    let pushed := b.pushSymbol symbol
    Stage version entryPoint count pushed.2 sections
      (symbols ++ (acceptedSymbol? (.pushSymbol symbol, pushed.1)).toList)
      (cut ++ (cutSymbol? (.pushSymbol symbol, pushed.1)).toList)
      (n + if b.opens (.pushSymbol symbol) then 1 else 0) := by
  cases htable : b.table with
  | some table =>
    have hclosed : b.opens (.pushSymbol symbol) = false := by simp [opens, htable]
    rw [pushSymbol_of_table htable, hclosed]
    exact h.pushSymbolInto htable symbol
  | none =>
    by_cases hfull : b.sectionsPushed = b.sectionCount
    · have hopens : b.opens (.pushSymbol symbol) = true := by simp [opens, htable, hfull]
      rw [hopens, pushSymbol_of_none htable hfull]
      exact (h.beginSymbolTable hfull 0).pushSymbolInto
        (openAt_beginSymbolTable hfull 0).table_eq symbol
    · have hcloses : b.opens (.pushSymbol symbol) = false := by simp [opens, hfull]
      rw [pushSymbol_of_ne htable hfull, hcloses]
      simpa [acceptedSymbol?, cutSymbol?] using h

/-- **A call keeps the account of its run.** -/
theorem Stage.perform (h : Stage version entryPoint count b sections symbols cut n) {call : Call}
    (hsized : call.WellSized) :
    let outcome := (call, (b.perform call).1)
    Stage version entryPoint count (b.perform call).2
      (sections ++ (acceptedSection? outcome).toList) (symbols ++ (acceptedSymbol? outcome).toList)
      (cut ++ (cutSymbol? outcome).toList) (n + if b.opens call then 1 else 0) := by
  cases call with
  | pushSection address size payload =>
    simp only [acceptedSymbol?, cutSymbol?, Option.toList_none, List.append_nil]
    exact h.pushSection hsized
  | beginSymbolTable declared =>
    simp only [acceptedSection?, acceptedSymbol?, cutSymbol?, Option.toList_none, List.append_nil]
    by_cases hfull : b.sectionsPushed = b.sectionCount
    · have hopens : b.opens (.beginSymbolTable declared) = true := by simp [opens, hfull]
      rw [hopens]
      exact h.beginSymbolTable hfull declared
    · have hcloses : b.opens (.beginSymbolTable declared) = false := by simp [opens, hfull]
      rw [hcloses, Builder.perform, beginSymbolTable_of_ne hfull]
      exact h
  | pushSymbol symbol =>
    simp only [acceptedSection?, Option.toList_none, List.append_nil]
    exact h.pushSymbol symbol

/-- **A run keeps its account**, whichever of its calls fail. -/
theorem Stage.performAll {calls : List Call}
    (h : Stage version entryPoint count b sections symbols cut n)
    (hsized : ∀ call ∈ calls, call.WellSized) :
    Stage version entryPoint count (b.performAll calls) (sections ++ b.acceptedSections calls)
      (symbols ++ b.acceptedSymbols calls) (cut ++ b.cutSymbols calls) (n + b.openings calls) := by
  induction calls generalizing b sections symbols cut n with
  | nil => simpa [Builder.performAll, acceptedSections, acceptedSymbols, cutSymbols, outcomes,
      openings] using h
  | cons call rest ih =>
    have hrest := ih (h.perform (hsized call List.mem_cons_self))
      fun later hlater => hsized later (List.mem_cons_of_mem call hlater)
    rw [acceptedSections, acceptedSymbols, cutSymbols, filterMap_outcomes_cons,
      filterMap_outcomes_cons, filterMap_outcomes_cons, openings, ← List.append_assoc,
      ← List.append_assoc, ← List.append_assoc, ← Nat.add_assoc]
    exact hrest

/-! ### What a finished run reads back as -/

/-- A container with this header and these sections can only be read as a file that has them. -/
theorem eq_of_layout_eq_listed {file : File} {flags : List UInt32} {rest : Bytes}
    (hspelled : file.SpelledBy flags) (hcomplete : ∀ s ∈ sections, s.Complete)
    (hfull : sections.length = count.toNat)
    (hlayout : file.layout flags = listed version entryPoint count sections ++ rest) :
    file.version = version ∧ file.entryPoint = entryPoint ∧ file.sections = sections ∧
      rest = Word.toLittleEndian
          (UInt32.ofNat (tableBytes file.version file.symbols flags).length) ++
        (tableBytes file.version file.symbols flags ++
          (Word.toLittleEndian 0 ++ Word.toLittleEndian 0)) := by
  simp only [File.layout, File.header, listed, start, List.append_assoc] at hlayout
  obtain ⟨-, hlayout⟩ := Reader.takes_word.unique rfl rfl hlayout
  obtain ⟨hversion, hlayout⟩ := Reader.takes_word.unique rfl rfl hlayout
  obtain ⟨hentry, hlayout⟩ := Reader.takes_word.unique rfl rfl hlayout
  obtain ⟨hcount, hlayout⟩ := Reader.takes_word.unique rfl rfl hlayout
  have hlength : file.sections.length = count.toNat := by
    rw [← hcount, Word.toNat_ofNat hspelled.sections_lt]
  obtain ⟨hsections, hrest⟩ := (Reader.takes_sections count.toNat).unique
    ⟨hlength, hspelled.complete, rfl⟩ ⟨hfull, hcomplete, rfl⟩ hlayout
  exact ⟨Version.raw_injective hversion, hentry, hsections, hrest.symm⟩

/-- The length of a symbol table counts its own first word, so it is never zero. -/
theorem not_parse_of_length_zero {rest : Bytes} (hcomplete : ∀ s ∈ sections, s.Complete)
    (hfull : sections.length = count.toNat) :
    ∃ e, parse (listed version entryPoint count sections ++ (Word.toLittleEndian 0 ++ rest)) =
      .error e := by
  cases hparse : parse (listed version entryPoint count sections ++
      (Word.toLittleEndian 0 ++ rest)) with
  | error e => exact ⟨e, rfl⟩
  | ok file =>
    obtain ⟨flags, hspelled, hlayout⟩ := parse_eq_ok_iff.1 hparse
    obtain ⟨-, -, -, hrest⟩ := eq_of_layout_eq_listed hspelled hcomplete hfull hlayout.symm
    obtain ⟨hzero, -⟩ := Reader.takes_word.unique rfl rfl hrest
    have hlength := Word.toNat_ofNat hspelled.table.bytes_lt
    rw [← hzero, length_tableBytes, UInt32.toNat_zero] at hlength
    omega

/-- A container has no room for so many sections that their counter begins anew. -/
theorem length_sections_eq {rest : Bytes} (hcount : UInt32.ofNat sections.length = count)
    (hlength : (listed version entryPoint count sections ++ rest).length < wordLimit) :
    sections.length = count.toNat := by
  have hle := length_le_sectionRecords sections
  rw [listed, List.length_append, List.length_append] at hlength
  rw [← hcount, Word.toNat_ofNat (by omega)]

/-- The container of a run that has opened a table reads back as what was accepted exactly if this
was the only table, as many symbols were accepted as it declares and no record was cut off. With a
second table it does not read back at all. -/
theorem Stage.parse_close (h : Stage version entryPoint count b sections symbols cut n)
    {table : SymbolTable} (htable : b.table = some table) {bytes : Bytes}
    (hclose : b.close table = .ok bytes) :
    (parse bytes = .ok ⟨version, entryPoint, sections, symbols.map version.kept⟩ ↔
      n ≤ 1 ∧ symbols.length = table.declared.toNat ∧ cut = []) ∧
    (2 ≤ n → ∃ e, parse bytes = .error e) := by
  cases h with
  | listing hlists hnone hbytes =>
    rw [htable] at hnone
    cases hnone
  | reopened hlists hfull hopen htwice =>
    obtain rfl := Option.some.inj (htable.symm.trans hopen.table_eq)
    have herror : ∃ e, parse bytes = .error e := by
      obtain ⟨-, rfl, hlength⟩ := hopen.close_eq_ok_iff.1 hclose
      rw [List.append_assoc, List.append_assoc] at hlength ⊢
      exact not_parse_of_length_zero hlists.complete (length_sections_eq hfull hlength)
    refine ⟨⟨fun hparse => ?_, fun honce => by omega⟩, fun _ => herror⟩
    obtain ⟨e, he⟩ := herror
    rw [he] at hparse
    cases hparse
  | filling hlists hfull hopen hsize hbody =>
    obtain rfl := Option.some.inj (htable.symm.trans hopen.table_eq)
    obtain ⟨-, hbytes, hlength⟩ := hopen.close_eq_ok_iff.1 hclose
    have hsections := length_sections_eq hfull (hbytes ▸ hlength)
    refine ⟨⟨fun hparse => ⟨Nat.le_refl 1, ?_⟩, ?_⟩, fun htwice => by omega⟩
    -- What is read back is all that the table holds, so there is no room for the part of a record.
    · obtain ⟨flags, hspelled, hlayout⟩ := parse_eq_ok_iff.1 hparse
      obtain ⟨-, -, -, hrest⟩ := eq_of_layout_eq_listed hspelled hlists.complete hsections
        (hlayout.symm.trans hbytes)
      have hflags := hspelled.table.readable.length_eq.symm
      simp only [tableBytes, List.append_assoc] at hrest
      obtain ⟨-, hrest⟩ := Reader.takes_word.unique rfl rfl hrest
      obtain ⟨hdeclared, hrest⟩ := Reader.takes_word.unique rfl rfl hrest
      have hbodies := List.append_cancel_right hrest
      have hstored := Word.toNat_ofNat hspelled.table.symbols_lt
      rw [List.length_map] at hstored
      refine ⟨by rw [hdeclared, List.length_map, hstored], ?_⟩
      have hrecords := congrArg List.length hbodies
      rw [length_symbolRecords hflags, ← length_writtenRecords, writtenRecords_kept] at hrecords
      exact List.eq_nil_of_length_eq_zero (by omega)
    -- Without a cut the container is what a writer gives the accepted file.
    · rintro ⟨-, hsymbols, rfl⟩
      have hdeclared : UInt32.ofNat symbols.length = table.declared := by
        rw [hsymbols, UInt32.ofNat_toNat]
      let file : File := ⟨version, entryPoint, sections, symbols⟩
      have hwritten : bytes = file.written := by
        rw [hbytes, hbody rfl, file.written_eq, List.length_append, Word.length_toLittleEndian]
        simp only [file, File.header, listed, start, hfull, hdeclared, List.append_assoc]
      rw [hwritten]
      exact file.parse_written hlists.complete (hwritten ▸ hlength)

theorem Stage.eq_of_table_eq_none (h : Stage version entryPoint count b sections symbols cut n)
    (htable : b.table = none) : n = 0 ∧ symbols = [] ∧ cut = [] := by
  cases h with
  | listing => exact ⟨rfl, rfl, rfl⟩
  | filling _ _ hopen | reopened _ _ hopen =>
    rw [hopen.table_eq] at htable
    cases htable

/-- The number of symbols that the container declares. The table that finishing opens if there is none
has no symbols. -/
def declaredSymbols (b : Builder) : UInt32 :=
  match b.table with
  | some table => table.declared
  | none => 0

/-- **Runs of a builder.** Calls may come in any order and fail. The finished container reads back
as what they have appended exactly if no table was opened again, as many symbols were accepted as are
declared, and no symbol record was cut off. A table that was opened again leaves a container that does
not read back at all. -/
theorem parse_finish_iff {calls : List Call} (hsized : ∀ call ∈ calls, call.WellSized)
    {bytes : Bytes}
    (hfinish : ((start version entryPoint count).performAll calls).finish = .ok bytes) :
    let b := start version entryPoint count
    (parse bytes = .ok ⟨version, entryPoint, b.acceptedSections calls,
        (b.acceptedSymbols calls).map version.kept⟩ ↔
      b.openings calls ≤ 1 ∧
      (b.acceptedSymbols calls).length = (b.performAll calls).declaredSymbols.toNat ∧
      b.cutSymbols calls = []) ∧
    (2 ≤ b.openings calls → ∃ e, parse bytes = .error e) := by
  intro b
  have hstage := (stage_start version entryPoint count).performAll hsized
  simp only [List.nil_append, Nat.zero_add] at hstage
  rw [declaredSymbols]
  cases htable : (b.performAll calls).table with
  | some table =>
    rw [finish, htable] at hfinish
    exact hstage.parse_close htable hfinish
  | none =>
    rw [finish_of_none htable] at hfinish
    split at hfinish
    · rename_i hfull
      have hopened := openAt_beginSymbolTable hfull 0
      rw [hopened.finish_eq] at hfinish
      have hclose := (hstage.beginSymbolTable hfull 0).parse_close hopened.table_eq hfinish
      obtain ⟨hopenings, hsymbols, hcut⟩ := hstage.eq_of_table_eq_none htable
      rw [hopenings, hsymbols, hcut] at hclose ⊢
      exact ⟨hclose.1.trans (by simp), fun htwice => absurd htwice (by decide)⟩
    · cases hfinish

theorem parse_finish_of_rejected_calls :
    let calls : List Call := [.beginSymbolTable 1, .pushSection 0x80000000 4 (some [1, 2, 3, 4]),
      .beginSymbolTable 1, .pushSection 0x80000004 4 none,
      .pushSymbol ⟨[102], [103], 0x80000000, 4, true, 0, 7⟩]
    let b := start .v104 0x80000000 1
    let file : File := ⟨.v104, 0x80000000, b.acceptedSections calls,
      (b.acceptedSymbols calls).map Version.v104.kept⟩
    (∀ call ∈ calls, call.WellSized) ∧
    ∃ bytes, (b.performAll calls).finish = .ok bytes ∧
      (parse bytes = .ok file ↔ b.openings calls ≤ 1 ∧
        (b.acceptedSymbols calls).length = (b.performAll calls).declaredSymbols.toNat ∧
        b.cutSymbols calls = []) ∧
      (2 ≤ b.openings calls → ∃ e, parse bytes = .error e) ∧
      b.openings calls = 1 ∧ (b.performAll calls).declaredSymbols = 1 ∧ b.cutSymbols calls = [] := by
  intro calls b file
  have hsized : ∀ call ∈ calls, call.WellSized := by decide
  have hfinish : ∃ bytes, (b.performAll calls).finish = .ok bytes := ⟨_, rfl⟩
  obtain ⟨bytes, hfinish⟩ := hfinish
  obtain ⟨hiff, htwice⟩ := parse_finish_iff hsized hfinish
  exact ⟨hsized, bytes, hfinish, hiff, htwice, rfl, rfl, rfl⟩

/-- Opening a table twice is accepted, and so is the end of the run, but its container does not
read back as the empty file that was written. -/
theorem parse_finish_of_two_openings :
    let calls : List Call := [.beginSymbolTable 0, .beginSymbolTable 0]
    let b := start .v104 0 0
    let bytes : Bytes := [82, 66, 79, 70, 104, 0, 0, 0, 0, 0, 0, 0, 0, 0, 0, 0,
      0, 0, 0, 0, 0, 0, 0, 0, 4, 0, 0, 0, 0, 0, 0, 0, 0, 0, 0, 0, 0, 0, 0, 0]
    (∀ call ∈ calls, call.WellSized) ∧ (b.performAll calls).finish = .ok bytes ∧
      parse bytes = .error (.symbolTableLength 0 4) ∧
      parse bytes ≠ .ok ⟨.v104, 0, b.acceptedSections calls,
        (b.acceptedSymbols calls).map Version.v104.kept⟩ := by
  refine ⟨by decide, rfl, rfl, ?_⟩
  intro h
  cases h

end LinkBench.Alf.Builder
