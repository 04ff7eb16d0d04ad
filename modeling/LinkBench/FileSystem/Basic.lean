import LinkBench.FileSystem.Listing
import LinkBench.Bytes
/-!
A tree of directories and files. Everything that exists lies in a directory, the root always
exists, and a tree is determined by what stands at each location (`FileSystem.ext`). Each of the
operations `put`, `erase`, `clear` and `move` is described by one equation on `get?`, and so is what a
directory lists (`mem_children`).

Whatever is said of every file system is said of these trees. There are no links in them, neither hard
nor symbolic, so an entry has one location; nobody is denied the right to read, to write or to search; and
every name is a text, so a name whose bytes are no UTF-8 does not occur. Nothing runs out, and nothing
else changes a tree at the same time.
-/

namespace LinkBench

/-- What a file stands for that holds no bytes of its own. -/
inductive Device
  /-- Takes in everything and yields nothing. -/
  | null
  /-- Takes in everything and yields zeros without end. -/
  | zero
  /-- Takes in nothing and yields zeros without end. -/
  | full
  /-- Another name of a descriptor of the process that opens it. -/
  | descriptor (number : Nat)
  deriving DecidableEq, Repr

inductive Entry
  | directory
  | file (bytes : Bytes) (executable : Bool)
  | device (d : Device)
  deriving DecidableEq, Repr

namespace Entry

def isDirectory : Entry → Bool
  | .directory => true
  | _ => false

/-- Whether the entry is a file that holds bytes. -/
def isRegular : Entry → Bool
  | .file .. => true
  | _ => false

end Entry

structure FileSystem where
  entries : List (Location × Entry)
  sorted : Listing.Sorted entries
  rootless : entries.lookup [] = none
  closed : ∀ (l : Location) (name : FileName), entries.lookup (l ++ [name]) ≠ none →
    l = [] ∨ entries.lookup l = some .directory
  deriving DecidableEq

namespace FileSystem

/-- A tree that holds nothing but its root. -/
def empty : FileSystem where
  entries := []
  sorted := List.Pairwise.nil
  rootless := rfl
  closed := by simp

/-- What stands at a location. -/
def get? (fs : FileSystem) (l : Location) : Option Entry :=
  if l = [] then some .directory else fs.entries.lookup l

@[simp] theorem get?_root (fs : FileSystem) : fs.get? [] = some .directory := by
  simp [get?]

theorem get?_of_ne_nil (fs : FileSystem) {l : Location} (h : l ≠ []) :
    fs.get? l = fs.entries.lookup l := by
  simp [get?, h]

theorem get?_parent {fs : FileSystem} {l : Location} {name : FileName}
    (h : fs.get? (l ++ [name]) ≠ none) : fs.get? l = some .directory := by
  rw [get?_of_ne_nil fs (by simp)] at h
  rcases fs.closed l name h with rfl | hl
  · simp
  · simp [get?, hl]

/-- Nothing is below a place where nothing stands. -/
theorem get?_eq_none_of_below {fs : FileSystem} {l p : Location} (hl : fs.get? l = none)
    (h : l <+: p) : fs.get? p = none := by
  obtain ⟨rest, rfl⟩ := h
  induction rest generalizing l with
  | nil => simpa using hl
  | cons name rest ih =>
    have hnext : fs.get? (l ++ [name]) = none := by
      by_cases hn : fs.get? (l ++ [name]) = none
      · exact hn
      · simp [get?_parent hn] at hl
    simpa using ih hnext

theorem ext {fs gs : FileSystem} (h : ∀ l, fs.get? l = gs.get? l) : fs = gs := by
  have hentries : fs.entries = gs.entries := by
    refine Listing.ext fs.sorted gs.sorted fun l => ?_
    by_cases hl : l = []
    · rw [hl, fs.rootless, gs.rootless]
    · have := h l
      rwa [fs.get?_of_ne_nil hl, gs.get?_of_ne_nil hl] at this
  cases fs; cases gs; cases hentries; rfl

theorem below_concat {l p : Location} {name : FileName} (h : l <+: p) :
    l <+: p ++ [name] :=
  h.trans (List.prefix_append p [name])

theorem below_or_eq_of_below_concat {l p : Location} {name : FileName} (h : l <+: p ++ [name]) :
    l <+: p ∨ l = p ++ [name] :=
  (List.prefix_concat_iff.1 h).symm

/-! ### Setting an entry -/

/-- A new entry needs a directory to lie in, and never takes the place of a directory. -/
def Placeable (fs : FileSystem) (l : Location) : Prop :=
  l ≠ [] ∧ fs.get? l.dropLast = some .directory ∧ fs.get? l ≠ some .directory

instance (fs : FileSystem) (l : Location) : Decidable (fs.Placeable l) :=
  inferInstanceAs (Decidable (_ ∧ _))

/-- Sets the entry at `l` where it is placeable, and changes nothing elsewhere. -/
def put (fs : FileSystem) (l : Location) (e : Entry) : FileSystem :=
  if h : fs.Placeable l then {
    entries := Listing.insert l e fs.entries
    sorted := fs.sorted.insert l e
    rootless := by
      rw [Listing.lookup_insert, if_neg (Ne.symm h.1)]
      exact fs.rootless
    closed := by
      intro p name hp
      rw [Listing.lookup_insert] at hp
      by_cases hroot : p = []
      · exact .inl hroot
      have hold : fs.entries.lookup p = some .directory := by
        split at hp
        · rename_i heq
          have hparent := h.2.1
          rw [← heq, List.dropLast_concat, fs.get?_of_ne_nil hroot] at hparent
          exact hparent
        · exact (fs.closed p name hp).resolve_left hroot
      rw [Listing.lookup_insert]
      split
      · rename_i heq
        have := h.2.2
        rw [← heq, fs.get?_of_ne_nil hroot] at this
        exact absurd hold this
      · exact .inr hold
  }
  else fs

theorem get?_put {fs : FileSystem} {l : Location} (h : fs.Placeable l) (e : Entry) (p : Location) :
    (fs.put l e).get? p = if p = l then some e else fs.get? p := by
  by_cases hp : p = []
  · simp [hp, h.1.symm]
  · rw [get?_of_ne_nil _ hp, put, dif_pos h, Listing.lookup_insert, get?_of_ne_nil _ hp]

/-! ### Removing -/

/-- Keeps the entries at the locations that satisfy `keep`, which must keep the directories on the
way to what it keeps. -/
def restrict (fs : FileSystem) (keep : Location → Bool)
    (hkeep : ∀ (l : Location) (name : FileName), keep (l ++ [name]) → keep l) : FileSystem where
  entries := fs.entries.filter fun x => keep x.1
  sorted := fs.sorted.filter keep
  rootless := by simp [Listing.lookup_filter, fs.rootless]
  closed := by
    intro p name hp
    rw [Listing.lookup_filter] at hp
    split at hp
    · rename_i h
      rw [Listing.lookup_filter, if_pos (hkeep p name h)]
      exact fs.closed p name hp
    · exact absurd rfl hp

theorem get?_restrict (fs : FileSystem) (keep : Location → Bool)
    (hkeep : ∀ (l : Location) (name : FileName), keep (l ++ [name]) → keep l) (p : Location) :
    (fs.restrict keep hkeep).get? p = if p = [] ∨ keep p then fs.get? p else none := by
  by_cases hp : p = []
  · simp [hp]
  · rw [get?_of_ne_nil _ hp, restrict, Listing.lookup_filter, get?_of_ne_nil _ hp]
    simp [hp]

/-- Removes what stands at `l`, with all that is below it. -/
def erase (fs : FileSystem) (l : Location) : FileSystem :=
  fs.restrict (fun p => !decide (l <+: p)) fun p name h => by
    simp only [Bool.not_eq_true', decide_eq_false_iff_not] at h ⊢
    exact fun hp => h (below_concat hp)

theorem get?_erase (fs : FileSystem) {l : Location} (hl : l ≠ []) (p : Location) :
    (fs.erase l).get? p = if l <+: p then none else fs.get? p := by
  rw [erase, get?_restrict]
  by_cases h : l <+: p
  · have hp : p ≠ [] := fun hp => hl (List.prefix_nil.1 (hp ▸ h))
    simp [h, hp]
  · simp [h]

/-- Removes all that is below `l`, but not what stands at `l`. -/
def clear (fs : FileSystem) (l : Location) : FileSystem :=
  fs.restrict (fun p => !decide (l <+: p ∧ l ≠ p)) fun p name h => by
    simp only [Bool.not_eq_true', decide_eq_false_iff_not] at h ⊢
    refine fun ⟨hp, _⟩ => h ⟨below_concat hp, fun heq => ?_⟩
    have := hp.length_le
    have := congrArg List.length heq
    simp at this
    omega

theorem get?_clear (fs : FileSystem) (l p : Location) :
    (fs.clear l).get? p = if l <+: p ∧ l ≠ p then none else fs.get? p := by
  rw [clear, get?_restrict]
  by_cases h : l <+: p ∧ l ≠ p
  · have hp : p ≠ [] := fun hp => h.2 ((List.prefix_nil.1 (hp ▸ h.1)).trans hp.symm)
    simp [h, hp]
  · rw [if_neg h, if_pos]
    simp only [Bool.not_eq_true', decide_eq_false_iff_not]
    exact .inr h

/-! ### Moving -/

/-- Something can be moved from `source` to a free place in a directory that is not itself moved. -/
def Movable (fs : FileSystem) (source target : Location) : Prop :=
  source ≠ [] ∧ target ≠ [] ∧ ¬ source <+: target ∧
    fs.get? target = none ∧ fs.get? target.dropLast = some .directory

instance (fs : FileSystem) (source target : Location) : Decidable (fs.Movable source target) :=
  inferInstanceAs (Decidable (_ ∧ _))

/-- The location below `target` that corresponds to one below `source`. -/
def rebase (source target p : Location) : Location :=
  target ++ p.drop source.length

/-- The entries below `source`, at their new locations. -/
def movedEntries (fs : FileSystem) (source target : Location) : List (Location × Entry) :=
  (fs.entries.filter fun x => decide (source <+: x.1)).map fun x => (rebase source target x.1, x.2)

theorem lookup_movedEntries (fs : FileSystem) (source target p : Location) :
    (fs.movedEntries source target).lookup p =
      if target <+: p then fs.entries.lookup (rebase target source p) else none := by
  unfold movedEntries
  induction fs.entries with
  | nil => simp
  | cons x xs ih =>
    rw [List.filter_cons, Listing.lookup_cons]
    by_cases hx : source <+: x.1
    · obtain ⟨suffix, hsuffix⟩ := hx
      rw [if_pos (by simp [← hsuffix]), List.map_cons, Listing.lookup_cons, ih]
      by_cases hp : target <+: p
      · obtain ⟨rest, hrest⟩ := hp
        simp only [← hrest, ← hsuffix, rebase, List.drop_left, List.append_cancel_left_eq,
          List.prefix_append, if_true]
      · have hne : ¬ p = rebase source target x.1 := fun h => hp (h ▸ List.prefix_append _ _)
        simp [hp, hne]
    · rw [if_neg (by simpa using hx), ih]
      by_cases hp : target <+: p
      · have hne : ¬ rebase target source p = x.1 := fun h => hx (h ▸ List.prefix_append _ _)
        simp [hp, hne]
      · simp [hp]

/-- Moves what stands at `source`, with all that is below it, to `target`. -/
def move (fs : FileSystem) (source target : Location) : FileSystem :=
  if h : fs.Movable source target then {
    entries := Listing.insertAll (fs.movedEntries source target) (fs.erase source).entries
    sorted := (fs.erase source).sorted.insertAll _
    rootless := by
      rw [Listing.lookup_insertAll, lookup_movedEntries, (fs.erase source).rootless,
        if_neg fun hnil => h.2.1 (List.prefix_nil.1 hnil)]
      rfl
    closed := by
      intro p name hp
      by_cases hroot : p = []
      · exact .inl hroot
      right
      rw [Listing.lookup_insertAll, lookup_movedEntries] at hp ⊢
      by_cases htarget : target <+: p
      · rw [if_pos (below_concat htarget), ← get?_of_ne_nil (fs.erase source) (by simp),
          get?_erase fs h.1] at hp
        rw [if_pos htarget]
        have hfree : fs.get? (p ++ [name]) = none :=
          get?_eq_none_of_below h.2.2.2.1 (below_concat htarget)
        obtain ⟨rest, rfl⟩ := htarget
        have hne : source ++ rest ≠ [] := by simp [h.1]
        rw [hfree, ite_self, Option.or_none, rebase, List.append_assoc, List.drop_left,
          ← List.append_assoc, ← get?_of_ne_nil fs (by simp)] at hp
        rw [rebase, List.drop_left, ← get?_of_ne_nil fs hne, get?_parent hp]
        rfl
      · rw [if_neg htarget, Option.none_or, ← get?_of_ne_nil _ hroot, get?_erase fs h.1]
        by_cases heq : target = p ++ [name]
        · have hparent := h.2.2.2.2
          rw [heq, List.dropLast_concat] at hparent
          rw [if_neg fun hp => h.2.2.1 (heq ▸ below_concat hp), hparent]
        · have hnot : ¬ target <+: p ++ [name] := fun hpre =>
            (below_or_eq_of_below_concat hpre).elim htarget heq
          rw [if_neg hnot, Option.none_or, ← get?_of_ne_nil (fs.erase source) (by simp),
            get?_erase fs h.1] at hp
          split at hp
          · exact absurd rfl hp
          · rename_i hsource
            rw [if_neg fun hp => hsource (below_concat hp), get?_parent hp]
  }
  else fs

theorem get?_move {fs : FileSystem} {source target : Location} (h : fs.Movable source target)
    (p : Location) :
    (fs.move source target).get? p =
      if target <+: p then fs.get? (rebase target source p)
      else if source <+: p then none
      else fs.get? p := by
  by_cases hp : p = []
  · have htarget : ¬ target <+: [] := fun hnil => h.2.1 (List.prefix_nil.1 hnil)
    have hsource : ¬ source <+: [] := fun hnil => h.1 (List.prefix_nil.1 hnil)
    simp [hp, htarget, hsource]
  · rw [get?_of_ne_nil _ hp, move, dif_pos h, Listing.lookup_insertAll, lookup_movedEntries,
      ← get?_of_ne_nil (fs.erase source) hp, get?_erase fs h.1]
    by_cases htarget : target <+: p
    · rw [if_pos htarget, if_pos htarget, get?_eq_none_of_below h.2.2.2.1 htarget, ite_self,
        Option.or_none, get?_of_ne_nil]
      simp [rebase, h.1]
    · rw [if_neg htarget, if_neg htarget, Option.none_or]

/-! ### Listing a directory -/

/-- The names directly below `l` and what stands there, in ascending order. -/
def children (fs : FileSystem) (l : Location) : List (FileName × Entry) :=
  fs.entries.filterMap fun x =>
    match x.1.drop l.length with
    | [name] => if x.1 = l ++ [name] then some (name, x.2) else none
    | _ => none

theorem mem_children {fs : FileSystem} {l : Location} {name : FileName} {e : Entry} :
    (name, e) ∈ fs.children l ↔ fs.get? (l ++ [name]) = some e := by
  rw [get?_of_ne_nil fs (by simp), children, List.mem_filterMap]
  constructor
  · rintro ⟨⟨p, e'⟩, hmem, h⟩
    dsimp only at h
    split at h
    · split at h
      · rename_i hp
        obtain ⟨rfl, rfl⟩ := Prod.mk.inj (Option.some.inj h)
        exact fs.sorted.lookup_eq_some_of_mem (hp ▸ hmem)
      · cases h
    · cases h
  · intro h
    exact ⟨(l ++ [name], e), Listing.mem_of_lookup_eq_some h, by simp⟩

theorem lt_of_concat_lt_concat {l : Location} {a b : FileName} (h : l ++ [a] < l ++ [b]) :
    a < b := by
  induction l with
  | nil => simpa [List.cons_lt_cons_iff] using h
  | cons c l ih =>
    rw [List.cons_append, List.cons_append, List.cons_lt_cons_iff] at h
    exact h.elim (fun hc => absurd hc (Std.Irrefl.irrefl c)) fun hl => ih hl.2

theorem children_sorted (fs : FileSystem) (l : Location) :
    (fs.children l).Pairwise (·.1 < ·.1) := by
  refine List.Pairwise.filterMap _ (fun x y hxy a ha b hb => ?_) fs.sorted
  obtain ⟨p, e⟩ := x
  obtain ⟨q, f⟩ := y
  dsimp only at ha hb
  split at ha <;> simp only [Option.ite_none_right_eq_some, reduceCtorEq] at ha
  split at hb <;> simp only [Option.ite_none_right_eq_some, reduceCtorEq] at hb
  obtain ⟨hp, ha⟩ := ha
  obtain ⟨hq, hb⟩ := hb
  cases ha
  cases hb
  exact lt_of_concat_lt_concat (hp ▸ hq ▸ hxy)

end FileSystem

end LinkBench
