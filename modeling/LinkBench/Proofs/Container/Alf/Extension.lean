import LinkBench.Proofs.Container.Alf.Layout

/-!
# What follows does not change what was read

A reader decides on the bytes that it has taken. When the input goes on behind them, its value stays
and so does its error, unless the error was that the input has ended. Only the last step of a
container looks at what is left over. Hence bytes behind a container are always reported with their
number (`parse_append`), and a container that is cut off anywhere ends too early.
-/

namespace LinkBench.Alf

def Cursor.extend (c : Cursor) (more : Bytes) : Cursor :=
  { c with rest := c.rest ++ more }

namespace Reader

variable {α β : Type}

/-- The reader says the same of a longer input, unless it came to the end of the shorter one. It
does not look at what it leaves over. -/
structure Steady (r : Reader α) : Prop where
  ok : ∀ {c c' : Cursor} {a : α}, r.run c = .ok (a, c') →
    ∀ more, r.run (c.extend more) = .ok (a, c'.extend more)
  error : ∀ {c : Cursor} {e : FormatError}, r.run c = .error e →
    (∃ p, e = .unexpectedEnd p) ∨
      (∀ n, e ≠ .trailingData n) ∧ ∀ more, r.run (c.extend more) = .error e

/-- What is taken whole is taken in the same way from a longer input. -/
theorem Takes.run_extend {r : Reader α} {S : α → Bytes → Prop} (h : r.Takes S) {c c' : Cursor}
    {a : α} (hrun : r.run c = .ok (a, c')) (more : Bytes) :
    r.run (c.extend more) = .ok (a, c'.extend more) := by
  obtain ⟨taken, hspelling, hrest, hposition⟩ := (h _ _ _).1 hrun
  refine (h _ _ _).2 ⟨taken, hspelling, ?_, hposition⟩
  rw [Cursor.extend, Cursor.extend, hrest, List.append_assoc]

theorem run_bind_eq_error {r : Reader α} {next : α → Reader β} {c : Cursor} {e : FormatError} :
    (r >>= next).run c = .error e ↔
      r.run c = .error e ∨ ∃ a d, r.run c = .ok (a, d) ∧ (next a).run d = .error e := by
  rw [StateT.run_bind]
  cases h : r.run c with
  | error e' => simp [bind, Except.bind]
  | ok read => simp [bind, Except.bind, Prod.ext_iff, eq_comm]

theorem steady_pure (a : α) : Steady (pure a) where
  ok h more := by
    cases h
    rfl
  error h := by cases h

theorem steady_fail {e : FormatError} (he : ∀ n, e ≠ .trailingData n) :
    Steady (fail e : Reader α) where
  ok h := by cases h
  error h := by
    cases h
    exact .inr ⟨he, fun more => rfl⟩

theorem steady_position : position.Steady where
  ok h more := by
    cases h
    rfl
  error h := by cases h

theorem steady_word : word.Steady where
  ok := takes_word.run_extend
  error {c e} h := by
    obtain ⟨position, rest⟩ := c
    match rest, h with
    | [], h | [_], h | [_, _], h | [_, _, _], h =>
      cases h
      exact .inl ⟨position, rfl⟩

theorem steady_bytes (count : Nat) : (bytes count).Steady where
  ok := (takes_bytes count).run_extend
  error {c e} h := by
    change (if (c.rest.take count).length = count then _ else _) = _ at h
    split at h
    · cases h
    · cases h
      exact .inl ⟨c.position, rfl⟩

theorem Steady.bind {r : Reader α} {next : α → Reader β} (h : r.Steady)
    (hnext : ∀ a, (next a).Steady) : (r >>= next).Steady where
  ok hrun more := by
    obtain ⟨a, d, hread, hrest⟩ := run_bind_eq_ok.1 hrun
    exact run_bind_eq_ok.2 ⟨a, d.extend more, h.ok hread more, (hnext a).ok hrest more⟩
  error hrun := by
    obtain hread | ⟨a, d, hread, hrest⟩ := run_bind_eq_error.1 hrun
    · refine (h.error hread).imp_right fun ⟨htrailing, hsame⟩ => ⟨htrailing, fun more => ?_⟩
      exact run_bind_eq_error.2 (.inl (hsame more))
    · refine ((hnext a).error hrest).imp_right fun ⟨htrailing, hsame⟩ => ⟨htrailing, fun more => ?_⟩
      exact run_bind_eq_error.2 (.inr ⟨a, d.extend more, h.ok hread more, hsame more⟩)

theorem Steady.ite {p : Prop} [Decidable p] {r s : Reader α} (hr : r.Steady) (hs : s.Steady) :
    Steady (if p then r else s) := by
  split
  · exact hr
  · exact hs

theorem steady_lengthPrefixed : lengthPrefixed.Steady :=
  steady_word.bind fun length => steady_bytes length.toNat

theorem Steady.repeated {item : Reader α} (h : item.Steady) (count : Nat) :
    (repeated item count).Steady := by
  induction count with
  | zero => exact steady_pure []
  | succ count ih => exact h.bind fun first => ih.bind fun others => steady_pure (first :: others)

theorem steady_version (w : UInt32) : Steady (liftM (Version.ofRaw w) : Reader Version) where
  ok := (takes_version w).run_extend
  error {c e} h := by
    change ((Version.ofRaw w).bind fun v => .ok (v, c)) = _ at h
    have hraw : Version.ofRaw w = .error e := by
      cases hversion : Version.ofRaw w with
      | error e' =>
        rw [hversion] at h
        cases h
        rfl
      | ok v =>
        rw [hversion] at h
        cases h
    refine .inr ⟨?_, fun more => ?_⟩
    · unfold Version.ofRaw at hraw
      split_ifs at hraw
      cases hraw
      exact fun n hn => nomatch hn
    · change ((Version.ofRaw w).bind fun v => .ok (v, c.extend more)) = _
      rw [hraw]
      rfl

theorem steady_storedSection : storedSection.Steady :=
  steady_word.bind fun address => steady_word.bind fun stored => steady_word.bind fun size =>
    .ite (steady_fail fun _ h => nomatch h) (.ite (steady_fail fun _ h => nomatch h)
      ((steady_bytes stored.toNat).bind fun bytes =>
        steady_pure (⟨address, size, bytes⟩ : StoredSection)))

theorem steady_symbol (version : Version) : (symbol version).Steady := by
  rw [symbol_eq]
  exact steady_lengthPrefixed.bind fun mangledName => steady_lengthPrefixed.bind fun demangledName =>
    steady_word.bind fun address => steady_word.bind fun size => steady_word.bind fun dataFlag =>
    steady_word.bind fun sectionId => (Steady.ite steady_word (steady_pure 0)).bind fun extra =>
    steady_pure (⟨mangledName, demangledName, address, size, dataFlag != 0, sectionId, extra⟩ :
      Symbol)

/-- The length of a table is compared before anything behind the table is read. -/
theorem steady_symbolTable (version : Version) : (symbolTable version).Steady :=
  steady_word.bind fun _ => steady_position.bind fun _ => steady_word.bind fun count =>
    ((steady_symbol version).repeated count.toNat).bind fun symbols =>
    steady_position.bind fun _ => .ite (steady_pure symbols) (steady_fail fun _ h => nomatch h)

theorem steady_terminator : terminator.Steady :=
  steady_position.bind fun _ => steady_word.bind fun _ =>
    .ite (steady_fail fun _ h => nomatch h) (steady_word.bind fun _ =>
      .ite (steady_fail fun _ h => nomatch h) (steady_pure ()))

/-! ### The end of the input -/

/-- The reader wants the whole input. More bytes are left over, and whatever else was wrong still
comes first. -/
structure Closing (r : Reader α) : Prop where
  ok : ∀ {c c' : Cursor} {a : α}, r.run c = .ok (a, c') →
    ∀ more ≠ [], r.run (c.extend more) = .error (.trailingData more.length)
  trailing : ∀ {c : Cursor} {n : Nat}, r.run c = .error (.trailingData n) →
    ∀ more, r.run (c.extend more) = .error (.trailingData (n + more.length))
  error : ∀ {c : Cursor} {e : FormatError}, r.run c = .error e → (∀ p, e ≠ .unexpectedEnd p) →
    (∀ n, e ≠ .trailingData n) → ∀ more, r.run (c.extend more) = .error e

theorem closing_fail {e : FormatError} (he : ∀ n, e ≠ .trailingData n) :
    Closing (fail e : Reader α) where
  ok h := by cases h
  trailing h := by
    cases h
    exact absurd rfl (he _)
  error h _ _ _ := h

theorem endOfInput_run (c : Cursor) (b : β) : (endOfInput >>= fun _ => pure b).run c =
    if c.rest = [] then .ok (b, c) else .error (.trailingData c.rest.length) := by
  obtain ⟨position, rest⟩ := c
  cases rest <;> rfl

theorem closing_endOfInput (b : β) : Closing (endOfInput >>= fun _ => pure b) where
  ok {c c' a} h more hmore := by
    rw [endOfInput_run] at h
    split at h
    · rename_i hrest
      rw [endOfInput_run, Cursor.extend, hrest, List.nil_append, if_neg hmore]
    · cases h
  trailing {c n} h more := by
    rw [endOfInput_run] at h
    split at h
    · cases h
    · rename_i hrest
      cases h
      have hleft : c.rest ++ more ≠ [] := List.append_ne_nil_of_left_ne_nil hrest more
      rw [endOfInput_run, Cursor.extend, if_neg hleft, List.length_append]
  error {c e} h _ htrailing := by
    rw [endOfInput_run] at h
    split at h
    · cases h
    · cases h
      exact absurd rfl (htrailing _)

theorem Steady.closing_bind {r : Reader α} {next : α → Reader β} (h : r.Steady)
    (hnext : ∀ a, (next a).Closing) : (r >>= next).Closing where
  ok hrun more hmore := by
    obtain ⟨a, d, hread, hrest⟩ := run_bind_eq_ok.1 hrun
    exact run_bind_eq_error.2 (.inr ⟨a, d.extend more, h.ok hread more, (hnext a).ok hrest more hmore⟩)
  trailing hrun more := by
    obtain hread | ⟨a, d, hread, hrest⟩ := run_bind_eq_error.1 hrun
    · obtain ⟨p, hend⟩ | ⟨htrailing, -⟩ := h.error hread
      · cases hend
      · exact absurd rfl (htrailing _)
    · exact run_bind_eq_error.2
        (.inr ⟨a, d.extend more, h.ok hread more, (hnext a).trailing hrest more⟩)
  error hrun hend htrailing more := by
    obtain hread | ⟨a, d, hread, hrest⟩ := run_bind_eq_error.1 hrun
    · obtain ⟨p, hcut⟩ | ⟨-, hsame⟩ := h.error hread
      · exact absurd hcut (hend p)
      · exact run_bind_eq_error.2 (.inl (hsame more))
    · exact run_bind_eq_error.2
        (.inr ⟨a, d.extend more, h.ok hread more, (hnext a).error hrest hend htrailing more⟩)

theorem Closing.ite {p : Prop} [Decidable p] {r s : Reader α} (hr : r.Closing) (hs : s.Closing) :
    Closing (if p then r else s) := by
  split
  · exact hr
  · exact hs

theorem closing_file : Reader.file.Closing :=
  steady_word.closing_bind fun _ => .ite (closing_fail fun _ h => nomatch h)
    (steady_word.closing_bind fun raw => (steady_version raw).closing_bind fun version =>
      steady_word.closing_bind fun entryPoint => steady_word.closing_bind fun count =>
      (steady_storedSection.repeated count.toNat).closing_bind fun sections =>
      (steady_symbolTable version).closing_bind fun symbols =>
      steady_terminator.closing_bind fun _ =>
      closing_endOfInput (⟨version, entryPoint, sections, symbols⟩ : File))

end Reader

theorem parse_eq_error {input : Bytes} {e : FormatError} :
    parse input = .error e ↔ Reader.file.run ⟨0, input⟩ = .error e := by
  rw [parse, StateT.run'_eq]
  cases h : Reader.file.run ⟨0, input⟩ with
  | error e' => simp [Functor.map, Except.map]
  | ok read => simp [Functor.map, Except.map]

/-- **Reading a longer input.** Bytes behind a container are left over, and no error goes away when
more bytes follow, but for the one that the input has ended. So a container that is cut off ends too
early, wherever it is cut. -/
theorem parse_append (input : Bytes) {more : Bytes} (hmore : more ≠ []) :
    (∀ file, parse input = .ok file →
      parse (input ++ more) = .error (.trailingData more.length)) ∧
    (∀ n, parse input = .error (.trailingData n) →
      parse (input ++ more) = .error (.trailingData (n + more.length))) ∧
    (∀ e, parse input = .error e → (∀ p, e ≠ .unexpectedEnd p) → (∀ n, e ≠ .trailingData n) →
      parse (input ++ more) = .error e) ∧
    (∀ file, parse (input ++ more) = .ok file → ∃ p, parse input = .error (.unexpectedEnd p)) := by
  have hok : ∀ file, parse input = .ok file →
      parse (input ++ more) = .error (.trailingData more.length) := by
    intro file hparse
    obtain ⟨c', hrun⟩ := parse_eq_ok.1 hparse
    exact parse_eq_error.2 (Reader.closing_file.ok hrun more hmore)
  have htrailing : ∀ n, parse input = .error (.trailingData n) →
      parse (input ++ more) = .error (.trailingData (n + more.length)) := by
    intro n hparse
    exact parse_eq_error.2 (Reader.closing_file.trailing (parse_eq_error.1 hparse) more)
  have herror : ∀ e, parse input = .error e → (∀ p, e ≠ .unexpectedEnd p) →
      (∀ n, e ≠ .trailingData n) → parse (input ++ more) = .error e := by
    intro e hparse hend hother
    exact parse_eq_error.2 (Reader.closing_file.error (parse_eq_error.1 hparse) hend hother more)
  refine ⟨hok, htrailing, herror, fun file hfile => ?_⟩
  by_contra hend
  rw [not_exists] at hend
  -- Whatever else the cut container said, the whole one would say an error too.
  have hrejected : ∃ e, parse (input ++ more) = .error e := by
    cases hparse : parse input with
    | ok cut => exact ⟨_, hok cut hparse⟩
    | error e =>
      by_cases hleft : ∃ n, e = .trailingData n
      · obtain ⟨n, rfl⟩ := hleft
        exact ⟨_, htrailing n hparse⟩
      · refine ⟨e, herror e hparse (fun p hp => hend p (hp ▸ hparse)) fun n hn => hleft ⟨n, hn⟩⟩
  obtain ⟨e, he⟩ := hrejected
  rw [hfile] at he
  cases he

theorem parse_append_of_empty_container :
    let container : Bytes := [82, 66, 79, 70, 104, 0, 0, 0, 0, 0, 0, 128, 0, 0, 0, 0,
      4, 0, 0, 0, 0, 0, 0, 0, 0, 0, 0, 0, 0, 0, 0, 0]
    let file : File := ⟨.v104, 0x80000000, [], []⟩
    let foreign : Bytes := [82, 66, 79, 70, 106, 0, 0, 0]
    (parse container = .ok file ∧ parse (container ++ [7]) = .error (.trailingData 1)) ∧
    parse (container ++ [7] ++ [8, 9]) = .error (.trailingData 3) ∧
    (parse foreign = .error (.unsupportedVersion 106) ∧
      parse (foreign ++ [0, 0]) = .error (.unsupportedVersion 106)) ∧
    ∃ p, parse (container.take 30) = .error (.unexpectedEnd p) := by
  intro container file foreign
  have hparse : parse container = .ok file := rfl
  have hforeign : parse foreign = .error (.unsupportedVersion 106) := rfl
  have hone := (parse_append container (List.cons_ne_nil 7 [])).1 file hparse
  refine ⟨⟨hparse, hone⟩, ?_, ⟨hforeign, ?_⟩, ?_⟩
  · exact (parse_append (container ++ [7]) (List.cons_ne_nil 8 [9])).2.1 1 hone
  · exact (parse_append foreign (List.cons_ne_nil 0 [0])).2.2.1 _ hforeign
      (fun _ h => nomatch h) fun _ h => nomatch h
  · exact (parse_append (container.take 30) (List.cons_ne_nil 0 [0])).2.2.2 file hparse

end LinkBench.Alf
