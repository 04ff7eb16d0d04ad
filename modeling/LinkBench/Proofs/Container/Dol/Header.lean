import Mathlib
import LinkBench.Container.Dol

/-!
# Words in the header of an executable

The writer puts words into the header while the payloads grow behind it. A word changes its own four
bytes and no others, and it is read from its own four bytes, so words that stand apart can be put
down in any order and all of them can be read back (`wordAt_putWords`). What the writer puts down is
then a list of positions with their words, and the rest of the header stays zero.
-/

namespace LinkBench

section Overwrite

variable {bytes patch : Bytes} {position : Nat}

theorem length_overwrite (h : position + patch.length ≤ bytes.length) :
    (overwrite bytes position patch).length = bytes.length := by
  simp only [overwrite, List.length_append, List.length_take, List.length_drop]
  omega

theorem getElem?_overwrite_of_outside (h : position + patch.length ≤ bytes.length) {p : Nat}
    (houtside : p < position ∨ position + patch.length ≤ p) :
    (overwrite bytes position patch)[p]? = bytes[p]? := by
  have htake : (bytes.take position).length = position := List.length_take_of_le (by omega)
  obtain hbefore | hbehind := houtside
  · rw [overwrite, List.append_assoc, List.getElem?_append_left (by omega),
      List.getElem?_take_of_lt hbefore]
  · rw [overwrite, List.getElem?_append_right (by rw [List.length_append, htake]; exact hbehind),
      List.getElem?_drop, List.length_append, htake, Nat.add_sub_cancel' hbehind]

theorem drop_overwrite (h : position + patch.length ≤ bytes.length) :
    (overwrite bytes position patch).drop position =
      patch ++ bytes.drop (position + patch.length) := by
  have htake : (bytes.take position).length = position := List.length_take_of_le (by omega)
  rw [overwrite, List.append_assoc, List.drop_left' htake]

theorem overwrite_append_right (h : position + patch.length ≤ bytes.length) (rest : Bytes) :
    overwrite (bytes ++ rest) position patch = overwrite bytes position patch ++ rest := by
  rw [overwrite, overwrite, List.take_append_of_le_length (by omega),
    List.drop_append_of_le_length h]
  simp only [List.append_assoc]

end Overwrite

namespace Dol

/-- The byte number `p` belongs to the word at `position`. -/
def InWord (position p : Nat) : Prop :=
  position ≤ p ∧ p < position + 4

/-! ### One word -/

section Word

variable {out : Bytes} {position : Nat}

theorem length_putWord (h : position + 4 ≤ out.length) (w : UInt32) :
    (putWord out position w).length = out.length :=
  length_overwrite h

theorem getElem?_putWord_of_outside (h : position + 4 ≤ out.length) (w : UInt32) {p : Nat}
    (hp : ¬InWord position p) : (putWord out position w)[p]? = out[p]? := by
  apply getElem?_overwrite_of_outside h
  rw [Word.length_toBigEndian]
  unfold InWord at hp
  omega

theorem wordAt_putWord (h : position + 4 ≤ out.length) (w : UInt32) :
    wordAt (putWord out position w) position = w := by
  rw [wordAt, putWord, drop_overwrite h]
  exact Word.ofBigEndian_toBigEndian w

theorem wordAt_eq (input : Bytes) (position : Nat) : wordAt input position =
    match input[position]?, input[position + 1]?, input[position + 2]?, input[position + 3]? with
    | some b₀, some b₁, some b₂, some b₃ => Word.ofBigEndian b₀ b₁ b₂ b₃
    | _, _, _, _ => 0 := by
  have hdrop : ∀ i, input[position + i]? = (input.drop position)[i]? := fun i =>
    List.getElem?_drop.symm
  rw [wordAt, hdrop 1, hdrop 2, hdrop 3, ← Nat.add_zero position, hdrop 0, Nat.add_zero]
  match input.drop position with
  | [] | [_] | [_, _] | [_, _, _] | _ :: _ :: _ :: _ :: _ => rfl

theorem wordAt_congr {input input' : Bytes}
    (h : ∀ p, InWord position p → input[p]? = input'[p]?) :
    wordAt input position = wordAt input' position := by
  have hbyte : ∀ i < 4, input[position + i]? = input'[position + i]? := by
    intro i hi
    exact h _ ⟨Nat.le_add_right _ _, Nat.add_lt_add_left hi _⟩
  rw [wordAt_eq, wordAt_eq, ← hbyte 1 (by decide), ← hbyte 2 (by decide), ← hbyte 3 (by decide),
    show input[position]? = input'[position]? from hbyte 0 (by decide)]

theorem wordAt_append (h : position + 4 ≤ out.length) (rest : Bytes) :
    wordAt (out ++ rest) position = wordAt out position := by
  apply wordAt_congr
  intro p hp
  unfold InWord at hp
  exact List.getElem?_append_left (by omega)

theorem wordAt_replicate_zero (n position : Nat) : wordAt (List.replicate n 0) position = 0 := by
  rw [wordAt, List.drop_replicate]
  match n - position with
  | 0 | 1 | 2 | 3 | _ + 4 => rfl

end Word

/-! ### Words that stand apart -/

/-- Two words have no byte in common. -/
def Apart (position other : Nat) : Prop :=
  position + 4 ≤ other ∨ other + 4 ≤ position

def putWords (out : Bytes) (words : List (Nat × UInt32)) : Bytes :=
  words.foldl (fun out word => putWord out word.1 word.2) out

theorem putWords_cons (out : Bytes) (word : Nat × UInt32) (words : List (Nat × UInt32)) :
    putWords out (word :: words) = putWords (putWord out word.1 word.2) words :=
  rfl

theorem putWords_append (out : Bytes) (first second : List (Nat × UInt32)) :
    putWords out (first ++ second) = putWords (putWords out first) second :=
  List.foldl_append

section Words

variable {out : Bytes} {words : List (Nat × UInt32)}

theorem length_putWords (h : ∀ word ∈ words, word.1 + 4 ≤ out.length) :
    (putWords out words).length = out.length := by
  induction words generalizing out with
  | nil => rfl
  | cons word rest ih =>
    rw [List.forall_mem_cons] at h
    have hlength := length_putWord h.1 word.2
    rw [putWords_cons, ih (by rw [hlength]; exact h.2), hlength]

theorem putWords_append_right (h : ∀ word ∈ words, word.1 + 4 ≤ out.length) (rest : Bytes) :
    putWords (out ++ rest) words = putWords out words ++ rest := by
  induction words generalizing out with
  | nil => rfl
  | cons word others ih =>
    rw [List.forall_mem_cons] at h
    have hlength := length_putWord h.1 word.2
    have hput : putWord (out ++ rest) word.1 word.2 = putWord out word.1 word.2 ++ rest :=
      overwrite_append_right h.1 rest
    rw [putWords_cons, putWords_cons, hput, ih (by rw [hlength]; exact h.2)]

theorem getElem?_putWords_of_outside (h : ∀ word ∈ words, word.1 + 4 ≤ out.length) {p : Nat}
    (hp : ∀ word ∈ words, ¬InWord word.1 p) : (putWords out words)[p]? = out[p]? := by
  induction words generalizing out with
  | nil => rfl
  | cons word rest ih =>
    rw [List.forall_mem_cons] at h hp
    have hlength := length_putWord h.1 word.2
    rw [putWords_cons, ih (by rw [hlength]; exact h.2) hp.2,
      getElem?_putWord_of_outside h.1 word.2 hp.1]

theorem wordAt_putWords_of_apart (h : ∀ word ∈ words, word.1 + 4 ≤ out.length) {position : Nat}
    (hapart : ∀ word ∈ words, Apart position word.1) :
    wordAt (putWords out words) position = wordAt out position := by
  apply wordAt_congr
  intro p hp
  apply getElem?_putWords_of_outside h
  intro word hword hin
  have hword := hapart word hword
  unfold InWord at hp hin
  unfold Apart at hword
  omega

/-- **Non-interference.** Words that stand apart can all be read back. -/
theorem wordAt_putWords (h : ∀ word ∈ words, word.1 + 4 ≤ out.length)
    (hapart : words.Pairwise fun a b => Apart a.1 b.1) {position : Nat} {w : UInt32}
    (hmem : (position, w) ∈ words) : wordAt (putWords out words) position = w := by
  induction words generalizing out with
  | nil => cases hmem
  | cons word rest ih =>
    rw [List.forall_mem_cons] at h
    rw [List.pairwise_cons] at hapart
    have hlength := length_putWord h.1 word.2
    have hrest : ∀ word' ∈ rest, word'.1 + 4 ≤ (putWord out word.1 word.2).length := by
      rw [hlength]
      exact h.2
    rw [putWords_cons]
    -- What is put down later stands apart from the word and leaves it as it is.
    cases hmem with
    | head => rw [wordAt_putWords_of_apart hrest hapart.1, wordAt_putWord h.1]
    | tail _ hmem => exact ih hrest hapart.2 hmem

end Words

end Dol

end LinkBench
