import LinkBench.Path
/-!
Entries by location, kept in a list that is sorted by location. What an operation on such a list
does is said by its effect on `List.lookup`; two sorted lists with the same lookups are equal
(`Listing.ext`).
-/

namespace LinkBench

/-- A place in the tree: the names on the way to it from the root. -/
abbrev Location := List FileName

namespace FileName

instance : Std.Irrefl (α := FileName) (· < ·) where
  irrefl a := String.lt_irrefl a.text

instance : Trans (α := FileName) (β := FileName) (γ := FileName) (· < ·) (· < ·) (· < ·) where
  trans := String.lt_trans (a := _) (b := _) (c := _)

instance : Std.Asymm (α := FileName) (· < ·) where
  asymm _ _ := String.lt_asymm

instance : Std.Trichotomous (α := FileName) (· < ·) where
  trichotomous _ _ hab hba :=
    ext_text (String.le_antisymm (String.not_lt.1 hba) (String.not_lt.1 hab))

end FileName

namespace Listing

variable {α : Type}

/-- Sets the entry at `l`, at its place in the order. -/
def insert (l : Location) (e : α) : List (Location × α) → List (Location × α)
  | [] => [(l, e)]
  | x :: xs =>
    if l < x.1 then (l, e) :: x :: xs
    else if l = x.1 then (l, e) :: xs
    else x :: insert l e xs

/-- In ascending order of location, each location once. -/
def Sorted (xs : List (Location × α)) : Prop :=
  xs.Pairwise fun x y => x.1 < y.1

theorem lookup_cons (p : Location) (x : Location × α) (xs : List (Location × α)) :
    (x :: xs).lookup p = if p = x.1 then some x.2 else xs.lookup p := by
  obtain ⟨l, e⟩ := x
  rw [List.lookup_cons]
  by_cases h : p = l
  · simp [h]
  · simp [h, beq_false_of_ne h]

theorem lookup_insert (l p : Location) (e : α) (xs : List (Location × α)) :
    (insert l e xs).lookup p = if p = l then some e else xs.lookup p := by
  induction xs with
  | nil => simp [insert, lookup_cons]
  | cons x xs ih =>
    simp only [insert]
    split
    · rw [lookup_cons]
    · split
      · rename_i h
        simp only [lookup_cons, h]
        split <;> rfl
      · rename_i h
        rw [lookup_cons, ih, lookup_cons]
        by_cases hx : p = x.1
        · have : ¬ p = l := fun hp => h (hp ▸ hx)
          simp [hx]
          intro hl
          exact absurd hl.symm h
        · simp [hx]

theorem mem_insert {l : Location} {e : α} {x : Location × α} {xs : List (Location × α)}
    (hx : x ∈ insert l e xs) : x = (l, e) ∨ x ∈ xs := by
  induction xs with
  | nil => simpa [insert] using hx
  | cons y ys ih =>
    simp only [insert] at hx
    split at hx
    · simpa using hx
    · split at hx
      · rcases List.mem_cons.1 hx with h | h
        · exact .inl h
        · exact .inr (List.mem_cons_of_mem _ h)
      · rcases List.mem_cons.1 hx with h | h
        · exact .inr (h ▸ List.mem_cons_self)
        · exact (ih h).imp id (List.mem_cons_of_mem _)

theorem lt_of_not_lt_of_ne {l m : Location} (hlt : ¬ l < m) (hne : l ≠ m) : m < l := by
  by_cases h : m < l
  · exact h
  · exact absurd (List.le_antisymm (List.not_lt.1 h) (List.not_lt.1 hlt)) hne

theorem Sorted.insert {xs : List (Location × α)} (h : Sorted xs) (l : Location) (e : α) :
    Sorted (insert l e xs) := by
  induction xs with
  | nil => simp [Listing.insert, Sorted]
  | cons x xs ih =>
    obtain ⟨hx, hxs⟩ := List.pairwise_cons.1 h
    simp only [Listing.insert]
    split
    · rename_i hlt
      refine List.pairwise_cons.2 ⟨fun y hy => ?_, h⟩
      rcases List.mem_cons.1 hy with rfl | hy
      · exact hlt
      · exact List.lt_trans hlt (hx y hy)
    · split
      · rename_i heq
        exact List.pairwise_cons.2 ⟨fun y hy => heq ▸ hx y hy, hxs⟩
      · rename_i hlt hne
        refine List.pairwise_cons.2 ⟨fun y hy => ?_, ih hxs⟩
        rcases mem_insert hy with rfl | hy
        · exact lt_of_not_lt_of_ne hlt hne
        · exact hx y hy

theorem lookup_filter (keep : Location → Bool) (p : Location) (xs : List (Location × α)) :
    (xs.filter fun x => keep x.1).lookup p = if keep p then xs.lookup p else none := by
  induction xs with
  | nil => simp
  | cons x xs ih =>
    rw [List.filter_cons, lookup_cons]
    by_cases hx : keep x.1
    · rw [if_pos hx, lookup_cons, ih]
      by_cases hp : p = x.1
      · simp [hp, hx]
      · simp [hp]
    · rw [if_neg hx, ih]
      by_cases hp : p = x.1
      · simp [hp, hx]
      · simp [hp]

theorem Sorted.filter {xs : List (Location × α)} (h : Sorted xs) (keep : Location → Bool) :
    Sorted (xs.filter fun x => keep x.1) :=
  List.Pairwise.filter _ h

/-- Sets all entries of `new`; an earlier one wins over a later one at the same location. -/
def insertAll (new xs : List (Location × α)) : List (Location × α) :=
  new.foldr (fun x xs => insert x.1 x.2 xs) xs

theorem lookup_insertAll (new xs : List (Location × α)) (p : Location) :
    (insertAll new xs).lookup p = (new.lookup p).or (xs.lookup p) := by
  induction new with
  | nil => simp [insertAll]
  | cons x new ih =>
    have : insertAll (x :: new) xs = insert x.1 x.2 (insertAll new xs) := rfl
    rw [this, lookup_insert, ih, lookup_cons]
    split <;> simp

theorem Sorted.insertAll {xs : List (Location × α)} (h : Sorted xs) (new : List (Location × α)) :
    Sorted (insertAll new xs) := by
  induction new with
  | nil => exact h
  | cons x new ih => exact ih.insert x.1 x.2

theorem lookup_eq_none_of_forall_ne {p : Location} {xs : List (Location × α)}
    (h : ∀ x ∈ xs, p ≠ x.1) : xs.lookup p = none := by
  induction xs with
  | nil => rfl
  | cons x xs ih =>
    rw [lookup_cons, if_neg (h x List.mem_cons_self)]
    exact ih fun y hy => h y (List.mem_cons_of_mem _ hy)

theorem mem_of_lookup_eq_some {p : Location} {e : α} {xs : List (Location × α)}
    (h : xs.lookup p = some e) : (p, e) ∈ xs := by
  induction xs with
  | nil => simp at h
  | cons x xs ih =>
    rw [lookup_cons] at h
    split at h
    · rename_i hp
      cases x
      simp_all
    · exact List.mem_cons_of_mem _ (ih h)

theorem Sorted.lookup_eq_none {x : Location × α} {xs : List (Location × α)}
    (h : Sorted (x :: xs)) : xs.lookup x.1 = none :=
  lookup_eq_none_of_forall_ne fun y hy heq =>
    List.lt_irrefl y.1 (heq ▸ (List.pairwise_cons.1 h).1 y hy)

theorem Sorted.lookup_eq_some_of_mem {xs : List (Location × α)} (h : Sorted xs) {p : Location}
    {e : α} (hmem : (p, e) ∈ xs) : xs.lookup p = some e := by
  induction xs with
  | nil => simp at hmem
  | cons x xs ih =>
    rw [lookup_cons]
    rcases List.mem_cons.1 hmem with heq | hmem
    · simp [← heq]
    · have hlt : x.1 < p := (List.pairwise_cons.1 h).1 _ hmem
      have hne : p ≠ x.1 := fun heq => List.lt_irrefl p (heq ▸ hlt)
      rw [if_neg hne]
      exact ih (List.pairwise_cons.1 h).2 hmem

/-- A sorted list is determined by its lookups. -/
theorem ext {xs ys : List (Location × α)} (hxs : Sorted xs) (hys : Sorted ys)
    (h : ∀ p, xs.lookup p = ys.lookup p) : xs = ys := by
  induction xs generalizing ys with
  | nil =>
    cases ys with
    | nil => rfl
    | cons y ys => simpa [lookup_cons] using h y.1
  | cons x xs ih =>
    cases ys with
    | nil => simpa [lookup_cons] using h x.1
    | cons y ys =>
      have hkey : x.1 = y.1 := by
        have hx := h x.1
        have hy := h y.1
        simp only [lookup_cons, if_true] at hx hy
        by_cases heq : x.1 = y.1
        · exact heq
        · rw [if_neg heq] at hx
          rw [if_neg (Ne.symm heq)] at hy
          have h₁ := (List.pairwise_cons.1 hys).1 _ (mem_of_lookup_eq_some hx.symm)
          have h₂ := (List.pairwise_cons.1 hxs).1 _ (mem_of_lookup_eq_some hy)
          exact absurd h₂ (List.lt_asymm h₁)
      have hvalue : x.2 = y.2 := by
        have hx := h x.1
        simpa [lookup_cons, hkey] using hx
      have htail : xs = ys := by
        refine ih (List.pairwise_cons.1 hxs).2 (List.pairwise_cons.1 hys).2 fun p => ?_
        by_cases hp : p = x.1
        · rw [hp, hxs.lookup_eq_none, hkey, hys.lookup_eq_none]
        · have := h p
          rwa [lookup_cons, lookup_cons, if_neg hp, if_neg (hkey ▸ hp)] at this
      rw [htail]
      congr 1
      exact Prod.ext hkey hvalue

end Listing

end LinkBench
