import LinkBench.Proofs.FileSystem.Walk

/-!
# Paths that the system takes

The size of a path is a sum over its segments (`Path.size_text`). So a path that fits still does when
segments are left out or shorter names take the place of longer ones.
-/

namespace LinkBench.Path

variable {p q : Path} {x y name : FileName}

/-- The number of bytes of segments that have a slash behind each. -/
def slashedSize : List String → Nat
  | [] => 0
  | s :: rest => s.utf8ByteSize + 1 + slashedSize rest

@[simp] theorem slashedSize_singleton (s : String) : slashedSize [s] = s.utf8ByteSize + 1 := rfl

theorem slashedSize_append (xs ys : List String) :
    slashedSize (xs ++ ys) = slashedSize xs + slashedSize ys := by
  induction xs with
  | nil => rw [List.nil_append, slashedSize, Nat.zero_add]
  | cons x xs ih =>
    rw [List.cons_append, slashedSize, slashedSize, ih]
    omega

theorem size_intercalate {xs : List String} (h : xs ≠ []) :
    (String.intercalate "/" xs).utf8ByteSize + 1 = slashedSize xs := by
  induction xs with
  | nil => exact absurd rfl h
  | cons x xs ih =>
    by_cases hxs : xs = []
    · rw [hxs, String.intercalate_singleton, slashedSize_singleton]
    · rw [String.intercalate_cons_of_ne_nil hxs, slashedSize, ← ih hxs]
      simp only [String.utf8ByteSize_append]
      have hslash : "/".utf8ByteSize = 1 := rfl
      omega

theorem size_text (p : Path) : p.text.utf8ByteSize + 1 = slashedSize p.segments :=
  size_intercalate p.ne_nil

theorem isTooLong_eq_false_iff : p.isTooLong = false ↔ slashedSize p.segments ≤ sizeLimit := by
  rw [isTooLong, decide_eq_false_iff_not, ← size_text]
  omega

theorem fits_iff : FileSystem.requireFit p = .ok () ↔
    (∀ s ∈ p.segments, '\x00' ∉ s.toList) ∧ slashedSize p.segments ≤ sizeLimit := by
  rw [FileSystem.requireFit_eq_ok_iff, isTooLong_eq_false_iff, holdsNul, List.any_eq_false]
  simp

theorem segments_join_join_ofName (p : Path) (x name : FileName) :
    ((p.join (.ofName x)).join (.ofName name)).segments = p.stem ++ x.text :: [name.text] := by
  rw [segments_join_ofName, stem_join_ofName, List.append_assoc]
  rfl

/-- What is joined to a path fits if the joined path does. -/
theorem requireFit_of_join (hq : q.isAbsolute = false)
    (h : FileSystem.requireFit (p.join q) = .ok ()) : FileSystem.requireFit q = .ok () := by
  rw [fits_iff, segments_join hq, slashedSize_append] at h
  rw [fits_iff]
  obtain ⟨hnul, hsize⟩ := h
  exact ⟨fun s hs => hnul s (List.mem_append_right _ hs), by omega⟩

/-- A path fits if it does with a name behind its last one. -/
theorem requireFit_join_of_join
    (h : FileSystem.requireFit ((p.join (.ofName x)).join (.ofName y)) = .ok ()) :
    FileSystem.requireFit (p.join (.ofName x)) = .ok () := by
  rw [fits_iff, segments_join_ofName, stem_join_ofName, slashedSize_append] at h
  rw [fits_iff, segments_join_ofName]
  obtain ⟨hnul, hsize⟩ := h
  exact ⟨fun s hs => hnul s (List.mem_append_left _ hs), by omega⟩

/-- A name that is not longer can take the place of the last one. -/
theorem requireFit_join_of_le (hsize : y.text.utf8ByteSize ≤ x.text.utf8ByteSize)
    (hnul : '\x00' ∉ y.text.toList) (h : FileSystem.requireFit (p.join (.ofName x)) = .ok ()) :
    FileSystem.requireFit (p.join (.ofName y)) = .ok () := by
  rw [fits_iff, segments_join_ofName, List.forall_mem_append, slashedSize_append,
    slashedSize_singleton] at h ⊢
  obtain ⟨⟨hstem, -⟩, hfit⟩ := h
  exact ⟨⟨hstem, List.forall_mem_singleton.2 hnul⟩, by omega⟩

/-- A name that fits behind a name fits behind a shorter one. -/
theorem requireFit_join_of_shorter (hx : FileSystem.requireFit (p.join (.ofName x)) = .ok ())
    (hsize : x.text.utf8ByteSize ≤ y.text.utf8ByteSize)
    (hlong : ((p.join (.ofName y)).join (.ofName name)).isTooLong = false)
    (hnul : '\x00' ∉ name.text.toList) :
    FileSystem.requireFit ((p.join (.ofName x)).join (.ofName name)) = .ok () := by
  rw [isTooLong_eq_false_iff, segments_join_join_ofName, slashedSize_append, slashedSize] at hlong
  rw [fits_iff, segments_join_ofName] at hx
  rw [fits_iff, segments_join_join_ofName, slashedSize_append, slashedSize]
  refine ⟨fun s hs => ?_, by omega⟩
  rw [List.append_cons] at hs
  obtain hstem | hname := List.mem_append.1 hs
  · exact hx.1 s hstem
  · rwa [List.mem_singleton.1 hname]

/-! ### Long paths -/

/-- The directory that a path starts from, by a path of `n + 1` dots. -/
def dots (n : Nat) : Path where
  segments := List.replicate (n + 1) "."
  ne_nil := List.cons_ne_nil _ _
  slashless := by
    intro segment hsegment
    rw [List.eq_of_mem_replicate hsegment]
    decide

theorem stem_dots (n : Nat) : (dots n).stem = List.replicate (n + 1) "." := by
  have hlast : (dots n).segments.getLast (dots n).ne_nil = "." :=
    List.eq_of_mem_replicate (List.getLast_mem _)
  rw [stem, if_neg (by rw [hlast]; decide)]
  rfl

theorem slashedSize_replicate (n : Nat) (segment : String) :
    slashedSize (List.replicate n segment) = n * (segment.utf8ByteSize + 1) := by
  induction n with
  | zero =>
    rw [Nat.zero_mul]
    rfl
  | succ n ih =>
    rw [List.replicate_succ, slashedSize, ih, Nat.succ_mul]
    omega

theorem slashedSize_behind_dots (n : Nat) (xs : List String) :
    slashedSize ((dots n).stem ++ xs) = 2 * (n + 1) + slashedSize xs := by
  have hdot : ".".utf8ByteSize = 1 := rfl
  rw [stem_dots, slashedSize_append, slashedSize_replicate, hdot, Nat.mul_comm]

theorem fits_dots_iff {p : Path} {n : Nat} {xs : List String} (h : p.segments = (dots n).stem ++ xs) :
    FileSystem.requireFit p = .ok () ↔
      (∀ s ∈ xs, '\x00' ∉ s.toList) ∧ 2 * (n + 1) + slashedSize xs ≤ sizeLimit := by
  have hdots : ∀ s ∈ (dots n).stem, '\x00' ∉ s.toList := fun s hs => by
    rw [stem_dots] at hs
    rw [List.eq_of_mem_replicate hs]
    decide
  rw [fits_iff, h, slashedSize_behind_dots, List.forall_mem_append]
  exact and_congr_left' (and_iff_right hdots)

/-- What the name of an entry may still take, in a directory that is called behind dots. -/
theorem isTooLong_behind_dots {n : Nat} : (((dots n).join (.ofName x)).join (.ofName name)).isTooLong = false ↔
    2 * (n + 1) + (x.text.utf8ByteSize + 1) + (name.text.utf8ByteSize + 1) ≤ sizeLimit := by
  rw [isTooLong_eq_false_iff, segments_join_join_ofName, slashedSize_behind_dots, slashedSize,
    slashedSize_singleton, ← Nat.add_assoc]

theorem requireFit_behind_dots {n : Nat} (hx : '\x00' ∉ x.text.toList) (hname : '\x00' ∉ name.text.toList)
    (hsize : 2 * (n + 1) + (x.text.utf8ByteSize + 1) + (name.text.utf8ByteSize + 1) ≤ sizeLimit) :
    FileSystem.requireFit (((dots n).join (.ofName x)).join (.ofName name)) = .ok () := by
  refine (fits_dots_iff (segments_join_join_ofName _ x name)).2 ⟨?_, ?_⟩
  · simpa using ⟨hx, hname⟩
  · rwa [slashedSize, slashedSize_singleton, ← Nat.add_assoc]

end LinkBench.Path

namespace LinkBench.FileSystem

theorem leads_dots (fs : FileSystem) {n : Nat} (hn : 2 * (n + 1) ≤ Path.sizeLimit) :
    fs.Leads .root (.dots n) [] := by
  have hwalk : ∀ k, fs.walk .root (List.replicate k ".") = .ok .root := by
    intro k
    induction k with
    | zero => rfl
    | succ k ih =>
      have hstep : fs.step .root "." = .ok .root :=
        step_eq_ok_iff.2 ⟨(entryAt?_ofLocation fs []).trans fs.get?_root, .inr ⟨by decide, rfl⟩⟩
      exact walk_cons_eq_ok_iff.2 ⟨_, hstep, ih⟩
  have hsegments : (Path.dots n).segments = (Path.dots n).stem ++ [] := by
    rw [Path.stem_dots, List.append_nil]
    rfl
  refine ⟨(Path.fits_dots_iff hsegments).2 ⟨nofun, hn⟩, rfl, ?_, fs.get?_root⟩
  exact hwalk (n + 1)

theorem leads_behind_dots {fs : FileSystem} {n : Nat} {x : FileName} (hnul : '\x00' ∉ x.text.toList)
    (hsize : 2 * (n + 1) + (x.text.utf8ByteSize + 1) ≤ Path.sizeLimit) (hshort : x.isTooLong = false)
    (hdir : fs.get? [x] = some .directory) : fs.Leads .root ((Path.dots n).join (.ofName x)) [x] := by
  have hfit : requireFit ((Path.dots n).join (.ofName x)) = .ok () := by
    refine (Path.fits_dots_iff (Path.segments_join_ofName _ x)).2 ⟨?_, hsize⟩
    exact List.forall_mem_singleton.2 hnul
  exact (leads_dots fs (by omega)).join hfit hshort hdir

end LinkBench.FileSystem
