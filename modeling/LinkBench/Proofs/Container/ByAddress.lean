import Mathlib
import LinkBench.Container.Image

/-!
# Sections by address

Sorting by a key keeps elements of one key in their order. That leaves a single result
(`StableSort.unique`), whatever the algorithm.
-/

namespace LinkBench

variable {α β : Type} {key : α → UInt32} {list sorted : List α}

/-- What `list` holds, in ascending order of a key; elements of one key stay in their order. -/
structure StableSort (key : α → UInt32) (list sorted : List α) : Prop where
  perm : sorted.Perm list
  ascending : sorted.Pairwise fun a b => key a ≤ key b
  stable : ∀ k, sorted.filter (fun a => key a = k) = list.filter (fun a => key a = k)

theorem stableSort_mergeSort (key : α → UInt32) (list : List α) :
    StableSort key list (list.mergeSort fun a b => decide (key a ≤ key b)) := by
  have htrans : ∀ a b c : α, decide (key a ≤ key b) → decide (key b ≤ key c) →
      decide (key a ≤ key c) := by
    intro a b c hab hbc
    rw [decide_eq_true_eq] at hab hbc ⊢
    exact UInt32.le_trans hab hbc
  have htotal : ∀ a b : α, decide (key a ≤ key b) || decide (key b ≤ key a) := by
    intro a b
    rw [Bool.or_eq_true, decide_eq_true_eq, decide_eq_true_eq]
    exact UInt32.le_total (key a) (key b)
  have hperm := List.mergeSort_perm list fun a b => decide (key a ≤ key b)
  refine ⟨hperm, ?_, fun k => ?_⟩
  · exact (List.pairwise_mergeSort htrans htotal list).imp fun hab => of_decide_eq_true hab
  · -- The elements of one key are sorted as they stand, so sorting keeps them a sublist.
    have hsame : (list.filter fun a => key a = k).Pairwise
        fun a b => decide (key a ≤ key b) = true := by
      rw [List.pairwise_filter]
      refine List.pairwise_of_forall fun a b ha hb => ?_
      rw [decide_eq_true_eq] at ha hb ⊢
      rw [ha, hb]
      exact UInt32.le_refl k
    have hsublist := List.sublist_mergeSort htrans htotal hsame List.filter_sublist
    have hfilter := hsublist.filter fun a => key a = k
    simp only [List.filter_filter, Bool.and_self] at hfilter
    exact (hfilter.eq_of_length (hperm.filter _).length_eq.symm).symm

/-- Ascending lists are equal if they hold the same elements of each key in the same order. -/
theorem eq_of_filter_eq {first second : List α}
    (hfirst : first.Pairwise fun a b => key a ≤ key b)
    (hsecond : second.Pairwise fun a b => key a ≤ key b)
    (hfilter : ∀ k, first.filter (fun a => key a = k) = second.filter (fun a => key a = k)) :
    first = second := by
  have hmem : ∀ a, a ∈ first ↔ a ∈ second := by
    intro a
    have h := congrArg (a ∈ ·) (hfilter (key a))
    simpa [List.mem_filter] using h
  induction first generalizing second with
  | nil =>
    refine (List.eq_nil_iff_forall_not_mem.2 fun a ha => ?_).symm
    exact absurd ((hmem a).2 ha) List.not_mem_nil
  | cons a first ih =>
    cases second with
    | nil => exact absurd ((hmem a).1 List.mem_cons_self) List.not_mem_nil
    | cons b second =>
      have hab : key a ≤ key b := by
        obtain rfl | hb := List.mem_cons.1 ((hmem b).2 List.mem_cons_self)
        · exact UInt32.le_refl _
        · exact List.rel_of_pairwise_cons hfirst hb
      have hba : key b ≤ key a := by
        obtain rfl | ha := List.mem_cons.1 ((hmem a).1 List.mem_cons_self)
        · exact UInt32.le_refl _
        · exact List.rel_of_pairwise_cons hsecond ha
      have hkey : key b = key a := UInt32.le_antisymm hba hab
      have hheads := hfilter (key a)
      simp only [List.filter_cons, hkey, decide_true, if_true, List.cons.injEq] at hheads
      obtain ⟨rfl, htails⟩ := hheads
      have hrest : ∀ k, first.filter (fun c => key c = k) = second.filter (fun c => key c = k) := by
        intro k
        by_cases hk : key a = k
        · rw [← hk]
          exact htails
        · have h := hfilter k
          rwa [List.filter_cons_of_neg (by simpa using hk),
            List.filter_cons_of_neg (by simpa using hk)] at h
      rw [ih hfirst.of_cons hsecond.of_cons hrest]
      intro c
      have h := congrArg (c ∈ ·) (hrest (key c))
      simpa [List.mem_filter] using h

namespace StableSort

theorem unique {sorted' : List α} (h : StableSort key list sorted)
    (h' : StableSort key list sorted') : sorted = sorted' :=
  eq_of_filter_eq h.ascending h'.ascending fun k => (h.stable k).trans (h'.stable k).symm

/-- The order of the list is lost if no two of its elements have the same key. -/
theorem eq_of_perm {list' sorted' : List α} (h : StableSort key list sorted)
    (h' : StableSort key list' sorted') (hperm : list'.Perm list) (hkeys : (list.map key).Nodup) :
    sorted' = sorted := by
  have hsorted : sorted'.Perm sorted := h'.perm.trans (hperm.trans h.perm.symm)
  refine hsorted.eq_of_pairwise (fun a b ha hb hab hba => ?_) h'.ascending h.ascending
  have hmem : a ∈ list := hperm.mem_iff.1 (h'.perm.mem_iff.1 ha)
  exact List.inj_on_of_nodup_map hkeys hmem (h.perm.mem_iff.1 hb) (UInt32.le_antisymm hab hba)

theorem map {key' : β → UInt32} {f : α → β} (h : StableSort key list sorted)
    (hkey : ∀ a, key' (f a) = key a) : StableSort key' (list.map f) (sorted.map f) where
  perm := h.perm.map f
  ascending := by
    rw [List.pairwise_map]
    simp only [hkey]
    exact h.ascending
  stable k := by
    rw [List.filter_map, List.filter_map]
    simp only [Function.comp_def, hkey, h.stable k]

end StableSort

theorem Image.stableSort_byAddress (image : Image) :
    StableSort Section.address image.sections image.byAddress :=
  stableSort_mergeSort Section.address image.sections

theorem Image.byAddress_eq_of_perm {image other : Image}
    (hperm : other.sections.Perm image.sections)
    (haddresses : (image.sections.map Section.address).Nodup) :
    other.byAddress = image.byAddress :=
  image.stableSort_byAddress.eq_of_perm other.stableSort_byAddress hperm haddresses

end LinkBench
