import Mathlib
import LinkBench.Container.Alf.Reader

/-!
# What a reader takes

A reader is pinned down by the spellings of its values: it succeeds exactly where the input goes on
with a spelling, which it takes whole. Said as an equivalence, this serves both directions: what is
written can be read back, and what was read must have been written. The rules below follow the way
readers are put together.
-/

namespace LinkBench

namespace Alf.Reader

variable {α β : Type}

/-- The reader succeeds exactly where the input goes on with a spelling of a value, and takes it. -/
def Takes (r : Reader α) (Spelling : α → Bytes → Prop) : Prop :=
  ∀ (c c' : Cursor) (a : α), r.run c = .ok (a, c') ↔
    ∃ taken, Spelling a taken ∧ c.rest = taken ++ c'.rest ∧
      c'.position = c.position + taken.length

theorem run_bind_eq_ok {r : Reader α} {next : α → Reader β} {c c' : Cursor} {b : β} :
    (r >>= next).run c = .ok (b, c') ↔
      ∃ a d, r.run c = .ok (a, d) ∧ (next a).run d = .ok (b, c') := by
  rw [StateT.run_bind]
  cases h : r.run c with
  | error e => simp [bind, Except.bind]
  | ok read => simp [bind, Except.bind, Prod.ext_iff, eq_comm]

theorem Takes.congr {r : Reader α} {S T : α → Bytes → Prop} (h : r.Takes S)
    (hiff : ∀ a taken, S a taken ↔ T a taken) : r.Takes T := by
  intro c c' a
  rw [h c c' a]
  simp only [hiff]

theorem Takes.run_append {r : Reader α} {S : α → Bytes → Prop} (h : r.Takes S) {a : α}
    {taken : Bytes} (hspelling : S a taken) (position : Nat) (rest : Bytes) :
    r.run ⟨position, taken ++ rest⟩ = .ok (a, ⟨position + taken.length, rest⟩) :=
  (h _ _ _).2 ⟨taken, hspelling, rfl, rfl⟩

theorem takes_pure (b : α) : Takes (pure b) fun a taken => a = b ∧ taken = [] := by
  intro c c' a
  constructor
  · intro h
    cases h
    exact ⟨[], ⟨rfl, rfl⟩, rfl, rfl⟩
  · rintro ⟨taken, ⟨rfl, rfl⟩, hrest, hposition⟩
    obtain ⟨position, rest⟩ := c
    obtain ⟨position', rest'⟩ := c'
    simp only [List.nil_append, List.length_nil, Nat.add_zero] at hrest hposition
    rw [hrest, hposition]
    rfl

theorem takes_fail (e : FormatError) : Takes (fail e : Reader α) fun _ _ => False := by
  intro c c' a
  constructor
  · intro h
    cases h
  · rintro ⟨taken, h, -⟩
    exact h.elim

theorem takes_bind {r : Reader α} {next : α → Reader β} {S : α → Bytes → Prop}
    {T : α → β → Bytes → Prop} (h : r.Takes S) (hnext : ∀ a, (next a).Takes (T a)) :
    (r >>= next).Takes fun b taken =>
      ∃ a first second, S a first ∧ T a b second ∧ taken = first ++ second := by
  intro c c' b
  rw [run_bind_eq_ok]
  constructor
  · rintro ⟨a, d, hread, hrun⟩
    obtain ⟨first, hfirst, hrest, hposition⟩ := (h _ _ _).1 hread
    obtain ⟨second, hsecond, hrest', hposition'⟩ := (hnext a _ _ _).1 hrun
    refine ⟨first ++ second, ⟨a, first, second, hfirst, hsecond, rfl⟩, ?_, ?_⟩
    · rw [hrest, hrest', List.append_assoc]
    · rw [hposition', hposition, List.length_append, Nat.add_assoc]
  · rintro ⟨taken, ⟨a, first, second, hfirst, hsecond, rfl⟩, hrest, hposition⟩
    refine ⟨a, ⟨c.position + first.length, second ++ c'.rest⟩, ?_, ?_⟩
    · exact (h _ _ _).2 ⟨first, hfirst, by rw [hrest, List.append_assoc], rfl⟩
    · refine (hnext a _ _ _).2 ⟨second, hsecond, rfl, ?_⟩
      rw [hposition, List.length_append, Nat.add_assoc]

theorem takes_ite {p : Prop} [Decidable p] {r s : Reader α} {S T : α → Bytes → Prop}
    (hr : r.Takes S) (hs : s.Takes T) :
    Takes (if p then r else s) fun a taken => (p ∧ S a taken) ∨ (¬p ∧ T a taken) := by
  by_cases h : p
  · rw [if_pos h]
    exact hr.congr fun a taken => by simp [h]
  · rw [if_neg h]
    exact hs.congr fun a taken => by simp [h]

theorem takes_word : word.Takes fun w taken => taken = Word.toLittleEndian w := by
  intro c c' w
  obtain ⟨position, rest⟩ := c
  constructor
  · intro h
    match rest, h with
    | b₀ :: b₁ :: b₂ :: b₃ :: rest, h =>
      cases h
      exact ⟨_, rfl, by rw [Word.toLittleEndian_ofLittleEndian]; rfl, rfl⟩
    | [], h | [_], h | [_, _], h | [_, _, _], h => cases h
  · rintro ⟨taken, rfl, hrest, hposition⟩
    obtain ⟨position', rest'⟩ := c'
    simp only [Word.length_toLittleEndian] at hrest hposition
    rw [hrest, hposition]
    exact congrArg (fun v => Except.ok (v, _)) (Word.ofLittleEndian_toLittleEndian w)

theorem takes_bytes (count : Nat) :
    (bytes count).Takes fun b taken => taken = b ∧ b.length = count := by
  intro c c' b
  obtain ⟨position, rest⟩ := c
  change (if (rest.take count).length = count then _ else _) = _ ↔ _
  constructor
  · intro h
    split at h
    · rename_i hlength
      cases h
      exact ⟨_, ⟨rfl, hlength⟩, (List.take_append_drop count rest).symm, by rw [hlength]⟩
    · cases h
  · rintro ⟨taken, ⟨rfl, rfl⟩, hrest, hposition⟩
    obtain ⟨position', rest'⟩ := c'
    simp only at hrest hposition
    rw [hrest, hposition, List.take_left, if_pos rfl, List.drop_left]

theorem takes_lengthPrefixed : lengthPrefixed.Takes fun b taken =>
    b.length < wordLimit ∧ taken = Alf.lengthPrefixed b := by
  refine (takes_bind takes_word fun w => takes_bytes w.toNat).congr fun b taken => ?_
  constructor
  · rintro ⟨w, first, second, rfl, ⟨rfl, hlength⟩, rfl⟩
    refine ⟨hlength ▸ Word.toNat_lt_wordLimit w, ?_⟩
    rw [Alf.lengthPrefixed, hlength, UInt32.ofNat_toNat]
  · rintro ⟨hlength, rfl⟩
    exact ⟨_, _, b, rfl, ⟨rfl, (Word.toNat_ofNat hlength).symm⟩, rfl⟩

def Sequence (Spelling : α → Bytes → Prop) : List α → Bytes → Prop
  | [], taken => taken = []
  | a :: rest, taken =>
    ∃ first others, Spelling a first ∧ Sequence Spelling rest others ∧ taken = first ++ others

theorem takes_repeated {item : Reader α} {S : α → Bytes → Prop} (h : item.Takes S) (count : Nat) :
    (repeated item count).Takes fun values taken =>
      values.length = count ∧ Sequence S values taken := by
  induction count with
  | zero =>
    refine (takes_pure []).congr fun values taken => ?_
    cases values <;> simp [Sequence]
  | succ count ih =>
    refine (takes_bind h fun first => takes_bind ih fun others =>
      takes_pure (first :: others)).congr fun values taken => ?_
    constructor
    · rintro ⟨a, first, -, ha, ⟨others, second, -, ⟨hlength, hothers⟩, ⟨rfl, rfl⟩, rfl⟩, rfl⟩
      refine ⟨by rw [List.length_cons, hlength], first, second, ha, hothers, ?_⟩
      rw [List.append_nil]
    · rintro ⟨hlength, hvalues⟩
      cases values with
      | nil => cases hlength
      | cons a others =>
        obtain ⟨first, second, ha, hothers, rfl⟩ := hvalues
        refine ⟨a, first, second, ha, ?_, rfl⟩
        exact ⟨others, second, [], ⟨Nat.succ.inj hlength, hothers⟩, ⟨rfl, rfl⟩,
          (List.append_nil _).symm⟩

theorem sequence_eq_iff {Allowed : α → Prop} {spelling : α → Bytes} {values : List α}
    {taken : Bytes} :
    Sequence (fun a part => Allowed a ∧ part = spelling a) values taken ↔
      (∀ a ∈ values, Allowed a) ∧ taken = values.flatMap spelling := by
  induction values generalizing taken with
  | nil => simp [Sequence]
  | cons a rest ih =>
    simp only [Sequence, ih, List.forall_mem_cons, List.flatMap_cons]
    constructor
    · rintro ⟨first, others, ⟨ha, rfl⟩, ⟨hrest, rfl⟩, rfl⟩
      exact ⟨⟨ha, hrest⟩, rfl⟩
    · rintro ⟨⟨ha, hrest⟩, rfl⟩
      exact ⟨_, _, ⟨ha, rfl⟩, ⟨hrest, rfl⟩, rfl⟩

/-! ### Positions and the end of the input -/

theorem run_position (c : Cursor) : position.run c = .ok (c.position, c) :=
  rfl

theorem takes_position_bind {next : Nat → Reader β} {S : β → Bytes → Prop}
    (h : ∀ n, (next n).Takes S) : (position >>= next).Takes S := by
  intro c c' b
  rw [run_bind_eq_ok]
  constructor
  · rintro ⟨n, d, hposition, hrun⟩
    rw [run_position] at hposition
    cases hposition
    exact (h _ _ _ _).1 hrun
  · intro htaken
    exact ⟨_, _, run_position c, (h _ _ _ _).2 htaken⟩

/-- No spelling goes on with another one: what is taken from an input is settled by its bytes. -/
theorem Takes.unique {r : Reader α} {S : α → Bytes → Prop} (h : r.Takes S) {a b : α}
    {first second x y : Bytes} (ha : S a first) (hb : S b second)
    (happend : first ++ x = second ++ y) : a = b ∧ x = y := by
  have hrun := h.run_append ha 0 x
  rw [happend, h.run_append hb 0 y] at hrun
  injection hrun with hpair
  injection hpair with hvalue hcursor
  injection hcursor with _ hrest
  exact ⟨hvalue.symm, hrest.symm⟩

/-- The reader succeeds exactly where the whole rest of the input is a spelling of a value. -/
def TakesAll (r : Reader α) (Spelling : α → Bytes → Prop) : Prop :=
  ∀ (c : Cursor) (a : α), (∃ c', r.run c = .ok (a, c')) ↔ Spelling a c.rest

theorem TakesAll.congr {r : Reader α} {S T : α → Bytes → Prop} (h : r.TakesAll S)
    (hiff : ∀ a rest, S a rest ↔ T a rest) : r.TakesAll T := by
  intro c a
  rw [h c a, hiff]

theorem takesAll_fail (e : FormatError) : TakesAll (fail e : Reader α) fun _ _ => False := by
  intro c a
  constructor
  · rintro ⟨c', h⟩
    cases h
  · exact False.elim

theorem takesAll_endOfInput (b : β) :
    TakesAll (endOfInput >>= fun _ => pure b) fun a rest => a = b ∧ rest = [] := by
  intro c a
  obtain ⟨position, rest⟩ := c
  cases rest with
  | nil =>
    constructor
    · rintro ⟨c', h⟩
      cases h
      exact ⟨rfl, rfl⟩
    · rintro ⟨rfl, -⟩
      exact ⟨⟨position, []⟩, rfl⟩
  | cons byte rest =>
    constructor
    · rintro ⟨c', h⟩
      cases h
    · rintro ⟨-, h⟩
      cases h

theorem takesAll_bind {r : Reader α} {next : α → Reader β} {S : α → Bytes → Prop}
    {T : α → β → Bytes → Prop} (h : r.Takes S) (hnext : ∀ a, (next a).TakesAll (T a)) :
    (r >>= next).TakesAll fun b rest =>
      ∃ a first second, S a first ∧ T a b second ∧ rest = first ++ second := by
  intro c b
  simp only [run_bind_eq_ok]
  constructor
  · rintro ⟨c', a, d, hread, hrun⟩
    obtain ⟨first, hfirst, hrest, -⟩ := (h _ _ _).1 hread
    exact ⟨a, first, d.rest, hfirst, (hnext a d b).1 ⟨c', hrun⟩, hrest⟩
  · rintro ⟨a, first, second, hfirst, hsecond, hrest⟩
    obtain ⟨c', hrun⟩ := (hnext a ⟨c.position + first.length, second⟩ b).2 hsecond
    exact ⟨c', a, _, (h _ _ _).2 ⟨first, hfirst, hrest, rfl⟩, hrun⟩

theorem takesAll_ite {p : Prop} [Decidable p] {r s : Reader α} {S T : α → Bytes → Prop}
    (hr : r.TakesAll S) (hs : s.TakesAll T) :
    TakesAll (if p then r else s) fun a rest => (p ∧ S a rest) ∨ (¬p ∧ T a rest) := by
  intro c a
  by_cases h : p
  · rw [if_pos h, hr c a]
    simp only [h, not_true_eq_false, false_and, or_false, true_and]
  · rw [if_neg h, hs c a]
    simp only [h, not_false_eq_true, false_and, false_or, true_and]

end Alf.Reader

end LinkBench
