import LinkBench.Proofs.Container.Alf.Extension
import LinkBench.Proofs.Container.Alf.Writing
import LinkBench.Proofs.Container.Alf.Indexed

/-!
# Reading stays inside the input

The counts and lengths of a container are whatever its bytes say, so what bounds the reading is the
input and not the counts. The reader by index says the same as the reader of the rest of the input
(`Mirrors`). On the way its index never passes the end, each completed turn of a loop takes at least
the shortest item, and only the last turn may be left unfinished. All of this is carried by one
predicate with one rule per operator.
-/

namespace LinkBench.Alf

/-! ### Trails -/

/-- The mark lies inside an input of this length, and a completed turn has taken its shortest
item. -/
def Mark.Sound (limit : Nat) : Mark → Prop
  | .reached position => position ≤ limit
  | .begun _ start => start ≤ limit
  | .completed loop start stop => start + loop.least ≤ stop ∧ stop ≤ limit

theorem turns_append (loop : Loop) (marks more : List Mark) :
    turns loop (marks ++ more) = turns loop marks + turns loop more :=
  List.countP_append

theorem turns_begun (loop other : Loop) (start : Nat) :
    turns loop [.begun other start] = if other = loop then 1 else 0 := by
  simp [turns, List.countP_cons]

theorem turns_completed (loop other : Loop) (start stop : Nat) :
    turns loop [.completed other start stop] = 0 :=
  rfl

/-- The marks of a reading from `start` to `stop` in an input of length `limit`. At most
`unfinished` turns of each loop are not paid for by the bytes between, and outside a loop there are
no turns at all. -/
structure Orderly (looping : Bool) (limit start stop unfinished : Nat) (marks : List Mark) :
    Prop where
  start_le : start ≤ stop
  stop_le : stop ≤ limit
  sound : ∀ mark ∈ marks, mark.Sound limit
  turns_le : ∀ loop, loop.least * turns loop marks ≤ stop - start + loop.least * unfinished
  turns_eq : looping = false → ∀ loop, turns loop marks = 0

namespace Orderly

variable {looping : Bool} {limit start middle stop unfinished : Nat} {marks more : List Mark}

theorem nil (h : start ≤ limit) : Orderly looping limit start start unfinished [] where
  start_le := Nat.le_refl start
  stop_le := h
  sound _ hmark := nomatch hmark
  turns_le _ := Nat.zero_le _
  turns_eq _ _ := rfl

theorem reached (hle : start ≤ stop) (h : stop ≤ limit) :
    Orderly looping limit start stop unfinished [.reached stop] where
  start_le := hle
  stop_le := h
  sound := List.forall_mem_singleton.2 h
  turns_le _ := Nat.zero_le _
  turns_eq _ _ := rfl

theorem append (h : Orderly looping limit start middle 0 marks)
    (hmore : Orderly looping limit middle stop unfinished more) :
    Orderly looping limit start stop unfinished (marks ++ more) where
  start_le := h.start_le.trans hmore.start_le
  stop_le := hmore.stop_le
  sound := List.forall_mem_append.2 ⟨h.sound, hmore.sound⟩
  turns_le loop := by
    have hfirst := h.turns_le loop
    have hsecond := hmore.turns_le loop
    have hle := h.start_le
    have hle' := hmore.start_le
    -- The bytes of both parts add up because neither goes backwards.
    rw [turns_append, Nat.mul_add]
    omega
  turns_eq hlooping loop := by
    rw [turns_append, h.turns_eq hlooping loop, hmore.turns_eq hlooping loop]

theorem finish (h : Orderly looping limit start stop 0 marks) :
    Orderly looping limit start stop unfinished marks where
  start_le := h.start_le
  stop_le := h.stop_le
  sound := h.sound
  turns_le loop := (h.turns_le loop).trans (Nat.add_le_add_left (Nat.zero_le _) _)
  turns_eq := h.turns_eq

/-- A turn that is left in the middle of its item. -/
theorem unfinishedTurn (loop : Loop) (h : Orderly false limit start stop unfinished marks) :
    Orderly true limit start stop 1 ([.begun loop start] ++ marks) where
  start_le := h.start_le
  stop_le := h.stop_le
  sound := List.forall_mem_cons.2 ⟨h.start_le.trans h.stop_le, h.sound⟩
  turns_le other := by
    rw [turns_append, turns_begun, h.turns_eq rfl]
    split <;> omega
  turns_eq h := nomatch h

/-- A completed turn is paid for by its item. -/
theorem turn {loop : Loop} (h : Orderly false limit start stop unfinished marks)
    (hleast : start + loop.least ≤ stop) :
    Orderly true limit start stop 0
      ([.begun loop start] ++ marks ++ [.completed loop start stop]) where
  start_le := h.start_le
  stop_le := h.stop_le
  sound := List.forall_mem_append.2
    ⟨(h.unfinishedTurn loop).sound, List.forall_mem_singleton.2 ⟨hleast, h.stop_le⟩⟩
  turns_le other := by
    rw [turns_append, turns_append, turns_begun, turns_completed, h.turns_eq rfl]
    split
    · rename_i heq
      subst heq
      omega
    · omega
  turns_eq h := nomatch h

end Orderly

/-! ### Reading by index against reading the rest -/

/-- The place at an index of the input. -/
def Cursor.at (input : Bytes) (position : Nat) : Cursor :=
  ⟨position, input.drop position⟩

/-- Where the reader succeeds, it takes at least so many bytes. -/
def Reader.TakesAtLeast {α : Type} (plain : Reader α) (least : Nat) : Prop :=
  ∀ c c' a, plain.run c = .ok (a, c') → c.position + least ≤ c'.position

theorem Reader.run_bytes_at (input : Bytes) (position size : Nat) :
    (Reader.bytes size).run (.at input position) =
      if size > input.length - position then
        .error (.unexpectedEnd position)
      else
        .ok ((input.drop position).take size, .at input (position + size)) := by
  change (if ((input.drop position).take size).length = size then _ else _) = _
  rw [List.length_take, List.length_drop]
  by_cases hshort : size > input.length - position
  · rw [if_pos hshort, if_neg (by omega)]
    rfl
  · rw [if_neg hshort, if_pos (by omega), Cursor.at, Cursor.at, List.drop_drop]

namespace Indexed

variable {α β : Type} {looping : Bool} {lower : Nat}

/-- How a reading by index ends: as the plain reader does at the same place, with marks in order.
It never halts for an index. -/
inductive Ends (looping : Bool) (input : Bytes) (trail : Trail) (plain : Reader α) :
    Except Halt α × Trail → Prop
  | ok {a : α} {stop : Nat} {marks : List Mark}
      (hread : plain.run (.at input trail.position) = .ok (a, .at input stop))
      (hmarks : Orderly looping input.length trail.position stop 0 marks) :
      Ends looping input trail plain (.ok a, ⟨stop, trail.marks ++ marks⟩)
  | error {e : FormatError} {stop : Nat} {marks : List Mark}
      (hread : plain.run (.at input trail.position) = .error e)
      (hend : ∀ p, e = .unexpectedEnd p → p ≤ input.length)
      (hmarks : Orderly looping input.length trail.position stop 1 marks) :
      Ends looping input trail plain (.error (.error e), ⟨stop, trail.marks ++ marks⟩)

/-- From every index in the input that is not below `lower`, the reader by index ends as the plain
one does. -/
def Mirrors (looping : Bool) (lower : Nat) (r : Indexed α) (plain : Reader α) : Prop :=
  ∀ (input : Bytes) (trail : Trail), lower ≤ trail.position → trail.position ≤ input.length →
    Ends looping input trail plain (r.runFrom input trail)

theorem runFrom_bind (r : Indexed α) (next : α → Indexed β) (input : Bytes) (trail : Trail) :
    (r >>= next).runFrom input trail =
      match r.runFrom input trail with
      | (.ok a, trail') => (next a).runFrom input trail'
      | (.error h, trail') => (.error h, trail') := by
  simp only [runFrom, ReaderT.run_bind, ExceptT.run_bind, StateT.run_bind]
  rcases ((r.run input).run.run trail) with ⟨a | h, trail'⟩
  · rfl
  · rfl

theorem Ends.unmoved {plain : Reader α} {input : Bytes} {trail : Trail} {a : α}
    (hread : plain.run (.at input trail.position) = .ok (a, .at input trail.position))
    (hle : trail.position ≤ input.length) : Ends looping input trail plain (.ok a, trail) := by
  have h : Ends looping input trail plain (.ok a, ⟨trail.position, trail.marks ++ []⟩) :=
    .ok hread (.nil hle)
  rw [List.append_nil] at h
  exact h

theorem Ends.refused {plain : Reader α} {input : Bytes} {trail : Trail} {e : FormatError}
    (hread : plain.run (.at input trail.position) = .error e)
    (hend : ∀ p, e = .unexpectedEnd p → p ≤ input.length) (hle : trail.position ≤ input.length) :
    Ends looping input trail plain (.error (.error e), trail) := by
  have h : Ends looping input trail plain
      (.error (.error e), ⟨trail.position, trail.marks ++ []⟩) := .error hread hend (.nil hle)
  rw [List.append_nil] at h
  exact h

theorem Ends.bind {plain : Reader α} {next : α → Reader β} {input : Bytes} {trail : Trail}
    {a : α} {stop : Nat} {marks : List Mark} {run : Except Halt β × Trail}
    (hread : plain.run (.at input trail.position) = .ok (a, .at input stop))
    (hmarks : Orderly looping input.length trail.position stop 0 marks)
    (h : Ends looping input ⟨stop, trail.marks ++ marks⟩ (next a) run) :
    Ends looping input trail (plain >>= next) run := by
  cases h with
  | ok hread' hmarks' =>
    rw [List.append_assoc]
    exact .ok (Reader.run_bind_eq_ok.2 ⟨_, _, hread, hread'⟩) (hmarks.append hmarks')
  | error hread' hend hmarks' =>
    rw [List.append_assoc]
    exact .error (Reader.run_bind_eq_error.2 (.inr ⟨_, _, hread, hread'⟩)) hend
      (hmarks.append hmarks')

theorem mirrors_pure (a : α) : Mirrors looping lower (pure a) (pure a) :=
  fun _ _ _ hle => .unmoved rfl hle

theorem mirrors_fail {e : FormatError} (hend : ∀ p, e ≠ .unexpectedEnd p) :
    Mirrors looping lower (fail e : Indexed α) (Reader.fail e) :=
  fun _ _ _ hle => .refused rfl (fun p hp => absurd hp (hend p)) hle

/-- One step after another. The second one may rely on what the first one can have read. -/
theorem Mirrors.bind_of_read {r : Indexed α} {plain : Reader α} {next : α → Indexed β}
    {plainNext : α → Reader β} (h : Mirrors looping lower r plain)
    (hnext : ∀ a, (∃ c c', plain.run c = .ok (a, c')) →
      Mirrors looping lower (next a) (plainNext a)) :
    Mirrors looping lower (r >>= next) (plain >>= plainNext) := by
  intro input trail hlower hle
  have hfirst := h input trail hlower hle
  rw [runFrom_bind]
  generalize r.runFrom input trail = run at hfirst ⊢
  cases hfirst with
  | ok hread hmarks =>
    exact .bind hread hmarks
      (hnext _ ⟨_, _, hread⟩ input _ (hlower.trans hmarks.start_le) hmarks.stop_le)
  | error hread hend hmarks =>
    exact .error (Reader.run_bind_eq_error.2 (.inl hread)) hend hmarks

theorem Mirrors.bind {r : Indexed α} {plain : Reader α} {next : α → Indexed β}
    {plainNext : α → Reader β} (h : Mirrors looping lower r plain)
    (hnext : ∀ a, Mirrors looping lower (next a) (plainNext a)) :
    Mirrors looping lower (r >>= next) (plain >>= plainNext) :=
  h.bind_of_read fun a _ => hnext a

theorem Mirrors.ite {p : Prop} [Decidable p] {r s : Indexed α} {plain other : Reader α}
    (hr : Mirrors looping lower r plain) (hs : Mirrors looping lower s other) :
    Mirrors looping lower (if p then r else s) (if p then plain else other) := by
  split
  · exact hr
  · exact hs

/-- The index that is asked for is not below the ones before. -/
theorem Mirrors.position_bind {next : Nat → Indexed β} {plainNext : Nat → Reader β}
    (hnext : ∀ start, lower ≤ start → Mirrors looping start (next start) (plainNext start)) :
    Mirrors looping lower (position >>= next) (Reader.position >>= plainNext) := by
  intro input trail hlower hle
  rw [runFrom_bind]
  refine .bind rfl (.nil hle) ?_
  rw [List.append_nil]
  exact hnext trail.position hlower input trail (Nat.le_refl _) hle

/-- A difference of two indices in their order. -/
theorem Mirrors.difference_bind {start stop : Nat} {next : Nat → Indexed β} {plain : Reader β}
    (h : start ≤ stop) (hnext : Mirrors looping lower (next (stop - start)) plain) :
    Mirrors looping lower (difference stop start >>= next) plain := by
  rw [difference, if_pos h, pure_bind]
  exact hnext

theorem runFrom_remaining {input : Bytes} {trail : Trail} (h : trail.position ≤ input.length) :
    remaining.runFrom input trail = (.ok (input.length - trail.position), trail) := by
  change (difference input.length trail.position).runFrom input trail = _
  rw [difference, if_pos h]
  rfl

theorem runFrom_slice {input : Bytes} {trail : Trail} {start stop : Nat} (h : start ≤ stop)
    (hstop : stop ≤ input.length) : (slice start stop).runFrom input trail =
      (.ok ((input.drop start).take (stop - start)), trail) :=
  if_pos ⟨h, hstop⟩

theorem runFrom_bytes {input : Bytes} {trail : Trail} (h : trail.position ≤ input.length)
    (size : Nat) : (bytes size).runFrom input trail =
      if size > input.length - trail.position then
        (.error (.error (.unexpectedEnd trail.position)), trail)
      else
        (.ok ((input.drop trail.position).take size),
          ⟨trail.position + size, trail.marks ++ [.reached (trail.position + size)]⟩) := by
  rw [bytes, runFrom_bind, runFrom_remaining h]
  change (ite _ _ _ : Indexed Bytes).runFrom input trail = _
  split
  · rfl
  · rename_i hfit
    change (slice trail.position (trail.position + size)).runFrom input ⟨_, _⟩ = _
    rw [runFrom_slice (Nat.le_add_right _ _) (by omega), Nat.add_sub_cancel_left]

theorem mirrors_remaining : Mirrors looping lower remaining Reader.remaining := by
  intro input trail _ hle
  rw [runFrom_remaining hle]
  refine .unmoved ?_ hle
  change Except.ok ((input.drop trail.position).length, _) = _
  rw [List.length_drop]

theorem mirrors_bytes (size : Nat) : Mirrors looping lower (bytes size) (Reader.bytes size) := by
  intro input trail _ hle
  have hplain := Reader.run_bytes_at input trail.position size
  rw [runFrom_bytes hle]
  split at hplain
  · rename_i hshort
    rw [if_pos hshort]
    exact .refused hplain (fun p hp => by cases hp; exact hle) hle
  · rename_i hfit
    rw [if_neg hfit]
    exact .ok hplain (.reached (Nat.le_add_right _ _) (by omega))

/-- A word by its bytes, of which there are always four. -/
theorem word_eq_bytes : Reader.word = (do
    let read ← Reader.bytes 4
    match read with
    | b₀ :: b₁ :: b₂ :: b₃ :: _ => pure (Word.ofLittleEndian b₀ b₁ b₂ b₃)
    | _ => Reader.fail .imageTooLarge) := by
  funext c
  obtain ⟨position, rest⟩ := c
  match rest with
  | [] | [_] | [_, _] | [_, _, _] => rfl
  | b₀ :: b₁ :: b₂ :: b₃ :: rest => rfl

theorem mirrors_word : Mirrors looping lower word Reader.word := by
  rw [word_eq_bytes]
  refine (mirrors_bytes 4).bind_of_read fun read hread => ?_
  obtain ⟨c, c', hrun⟩ := hread
  obtain ⟨taken, ⟨-, hlength⟩, -⟩ := (Reader.takes_bytes 4 c c' read).1 hrun
  match read, hlength with
  | [b₀, b₁, b₂, b₃], _ => exact mirrors_pure (Word.ofLittleEndian b₀ b₁ b₂ b₃)

theorem mirrors_lengthPrefixed : Mirrors looping lower lengthPrefixed Reader.lengthPrefixed :=
  mirrors_word.bind fun length => mirrors_bytes length.toNat

theorem runFrom_turn (loop : Loop) (item : Indexed α) (input : Bytes) (trail : Trail) :
    (turn loop item).runFrom input trail =
      match item.runFrom input ⟨trail.position, trail.marks ++ [.begun loop trail.position]⟩ with
      | (.ok a, trail') => (.ok a, ⟨trail'.position,
          trail'.marks ++ [.completed loop trail.position trail'.position]⟩)
      | (.error h, trail') => (.error h, trail') := by
  change (item >>= fun read => _).runFrom input ⟨trail.position, _⟩ = _
  rw [runFrom_bind]
  rcases item.runFrom input _ with ⟨a | h, trail'⟩
  · rfl
  · rfl

theorem Mirrors.turn {loop : Loop} {item : Indexed α} {plain : Reader α}
    (h : Mirrors false lower item plain) (hleast : plain.TakesAtLeast loop.least) :
    Mirrors true lower (turn loop item) plain := by
  intro input trail hlower hle
  have hitem := h input ⟨trail.position, trail.marks ++ [.begun loop trail.position]⟩ hlower hle
  -- A turn that fails in its item has advanced by any amount, so nothing pays for it.
  rw [runFrom_turn]
  generalize item.runFrom input _ = run at hitem ⊢
  cases hitem with
  | ok hread hmarks =>
    have hturn := hmarks.turn (hleast _ _ _ hread)
    simp only [List.append_assoc] at hturn ⊢
    exact .ok hread hturn
  | error hread hend hmarks =>
    rw [List.append_assoc]
    exact .error hread hend (hmarks.unfinishedTurn loop)

theorem Mirrors.repeated {loop : Loop} {item : Indexed α} {plain : Reader α}
    (h : Mirrors false lower item plain) (hleast : plain.TakesAtLeast loop.least) (count : Nat) :
    Mirrors true lower (repeated loop item count) (Reader.repeated plain count) := by
  induction count with
  | zero => exact mirrors_pure []
  | succ count ih =>
    exact (h.turn hleast).bind fun first => ih.bind fun others => mirrors_pure (first :: others)

theorem mirrors_version (raw : UInt32) :
    Mirrors looping lower (version raw) (liftM (Version.ofRaw raw)) := by
  unfold version Version.ofRaw
  split_ifs
  · exact mirrors_pure Version.v104
  · exact mirrors_pure Version.v105
  · exact mirrors_fail fun _ h => nomatch h

theorem mirrors_storedSection : Mirrors looping lower storedSection Reader.storedSection :=
  mirrors_word.bind fun address => mirrors_word.bind fun stored => mirrors_word.bind fun size =>
    .ite (mirrors_fail fun _ h => nomatch h) (.ite (mirrors_fail fun _ h => nomatch h)
      ((mirrors_bytes stored.toNat).bind fun bytes =>
        mirrors_pure (⟨address, size, bytes⟩ : StoredSection)))

theorem mirrors_symbol (version : Version) :
    Mirrors looping lower (symbol version) (Reader.symbol version) := by
  rw [Reader.symbol_eq]
  exact mirrors_lengthPrefixed.bind fun mangledName =>
    mirrors_lengthPrefixed.bind fun demangledName =>
    mirrors_word.bind fun address => mirrors_word.bind fun size => mirrors_word.bind fun dataFlag =>
    mirrors_word.bind fun sectionId => (Mirrors.ite mirrors_word (mirrors_pure 0)).bind fun extra =>
    mirrors_pure (⟨mangledName, demangledName, address, size, dataFlag != 0, sectionId, extra⟩ :
      Symbol)

theorem takesAtLeast_storedSection :
    Reader.storedSection.TakesAtLeast Loop.sections.least := by
  intro c c' s hrun
  obtain ⟨taken, ⟨-, rfl⟩, -, hposition⟩ := (Reader.takes_storedSection c c' s).1 hrun
  rw [hposition, length_record, Loop.least]
  omega

theorem takesAtLeast_symbol (version : Version) :
    (Reader.symbol version).TakesAtLeast Loop.symbols.least := by
  intro c c' y hrun
  obtain ⟨taken, ⟨flag, -, rfl⟩, -, hposition⟩ := (Reader.takes_symbol version c c' y).1 hrun
  have := le_recordLength version y
  rw [hposition, length_symbolRecord, Loop.least]
  omega

/-- Both ends of the table are indices that were asked for, the second one later, so their difference
exists. -/
theorem mirrors_symbolTable (version : Version) :
    Mirrors true lower (symbolTable version) (Reader.symbolTable version) :=
  mirrors_word.bind fun _ => .position_bind fun _ _ => mirrors_word.bind fun count =>
    ((mirrors_symbol version).repeated (takesAtLeast_symbol version) count.toNat).bind fun symbols =>
    .position_bind fun _ hle => .difference_bind hle <|
    .ite (mirrors_pure symbols) (mirrors_fail fun _ h => nomatch h)

theorem mirrors_terminator : Mirrors looping lower terminator Reader.terminator :=
  .position_bind fun _ _ => mirrors_word.bind fun _ =>
    .ite (mirrors_fail fun _ h => nomatch h) (mirrors_word.bind fun _ =>
      .ite (mirrors_fail fun _ h => nomatch h) (mirrors_pure ()))

theorem mirrors_endOfInput : Mirrors looping lower endOfInput Reader.endOfInput :=
  mirrors_remaining.bind fun _ => .ite (mirrors_fail fun _ h => nomatch h) (mirrors_pure ())

theorem mirrors_file : Mirrors true lower file Reader.file :=
  mirrors_word.bind fun _ => .ite (mirrors_fail fun _ h => nomatch h)
    (mirrors_word.bind fun raw => (mirrors_version raw).bind fun version =>
      mirrors_word.bind fun entryPoint => mirrors_word.bind fun count =>
      (mirrors_storedSection.repeated takesAtLeast_storedSection count.toNat).bind fun sections =>
      (mirrors_symbolTable version).bind fun symbols =>
      mirrors_terminator.bind fun _ => mirrors_endOfInput.bind fun _ =>
      mirrors_pure (⟨version, entryPoint, sections, symbols⟩ : File))

theorem ends_file (input : Bytes) :
    Ends true input ⟨0, []⟩ Reader.file (file.runFrom input ⟨0, []⟩) :=
  mirrors_file input ⟨0, []⟩ (Nat.le_refl 0) (Nat.zero_le _)

theorem orderly_file (input : Bytes) :
    ∃ stop, Orderly true input.length 0 stop 1 (file.marks input) := by
  have h := ends_file input
  rw [marks]
  generalize file.runFrom input ⟨0, []⟩ = run at h ⊢
  cases h with
  | ok hread hmarks => exact ⟨_, hmarks.finish⟩
  | error hread hend hmarks => exact ⟨_, hmarks⟩

theorem outcome_file (input : Bytes) :
    file.outcome input = (parse input).mapError .error ∧
    ∀ p, parse input = .error (.unexpectedEnd p) → p ≤ input.length := by
  have h := ends_file input
  rw [outcome]
  generalize file.runFrom input ⟨0, []⟩ = run at h ⊢
  cases h with
  | ok hread hmarks =>
    have hparse : parse input = .ok _ := parse_eq_ok.2 ⟨_, hread⟩
    rw [hparse]
    exact ⟨rfl, fun _ hp => nomatch hp⟩
  | error hread hend hmarks =>
    have hparse : parse input = .error _ := parse_eq_error.2 hread
    rw [hparse]
    refine ⟨rfl, fun p hp => hend p ?_⟩
    injection hp

end Indexed

theorem Orderly.turns_le_div {looping : Bool} {limit stop : Nat} {marks : List Mark}
    (h : Orderly looping limit 0 stop 1 marks) (loop : Loop) :
    turns loop marks ≤ limit / loop.least + 1 := by
  have hturns := h.turns_le loop
  have hstop := h.stop_le
  cases loop <;> simp only [Loop.least] at hturns ⊢ <;> omega

/-- **The input bounds the reading.** Reading by index gives the answer of the plain reader and never
halts for an index, whatever counts and lengths the input declares. Its index stays in the input,
each section it completes takes at least 12 bytes and each symbol at least 24, so the number of
turns of either loop is bounded by the length of the input. An end that comes too early is reported
at a place in the input. -/
theorem parse_stays_inside (input : Bytes) :
    let marks := Indexed.file.marks input
    Indexed.file.outcome input = (parse input).mapError .error ∧
    (∀ position, .reached position ∈ marks → position ≤ input.length) ∧
    (∀ start stop, .completed .sections start stop ∈ marks → start + 12 ≤ stop) ∧
    (∀ start stop, .completed .symbols start stop ∈ marks → start + 24 ≤ stop) ∧
    turns .sections marks ≤ input.length / 12 + 1 ∧
    turns .symbols marks ≤ input.length / 24 + 1 ∧
    ∀ position, parse input = .error (.unexpectedEnd position) → position ≤ input.length := by
  intro marks
  obtain ⟨hsame, hend⟩ := Indexed.outcome_file input
  obtain ⟨stop, hmarks⟩ := Indexed.orderly_file input
  refine ⟨hsame, fun position hmark => hmarks.sound _ hmark, ?_, ?_, hmarks.turns_le_div .sections,
    hmarks.turns_le_div .symbols, hend⟩
  · intro start stop hmark
    exact (hmarks.sound _ hmark).1
  · intro start stop hmark
    exact (hmarks.sound _ hmark).1

/-- The header declares 4294967295 sections. The input ends in the second one. -/
theorem parse_stays_inside_of_hostile_count :
    let input : Bytes := [82, 66, 79, 70, 104, 0, 0, 0, 0, 0, 0, 128, 255, 255, 255, 255,
      0, 0, 0, 128, 0, 0, 0, 0, 8, 0, 0, 0,
      16, 0, 0, 128, 4]
    let marks := Indexed.file.marks input
    parse input = .error (.unexpectedEnd 32) ∧ 32 ≤ input.length ∧
    Indexed.file.outcome input = .error (.error (.unexpectedEnd 32)) ∧
    (.completed .sections 16 28 ∈ marks ∧ 16 + 12 ≤ 28) ∧
    turns .sections marks = 2 ∧ turns .sections marks ≤ input.length / 12 + 1 := by
  intro input marks
  obtain ⟨hsame, -, hsections, -, hturns, -, hend⟩ := parse_stays_inside input
  have hparse : parse input = .error (.unexpectedEnd 32) := by rfl
  have hcompleted : .completed .sections 16 28 ∈ marks := by decide +kernel
  refine ⟨hparse, hend 32 hparse, ?_, ⟨hcompleted, hsections 16 28 hcompleted⟩, ?_, hturns⟩
  · rw [hsame, hparse]
    rfl
  · decide +kernel

end LinkBench.Alf
