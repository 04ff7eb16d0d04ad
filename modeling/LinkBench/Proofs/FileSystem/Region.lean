import LinkBench.Proofs.FileSystem.Walk

/-!
# Outside a region

A region is a part of the tree: with each location, all that is below it. `FileSystem.outside` is the
tree without what lies in a region, and `Place.outside` is a directory as it would be held on to if the
region had gone. Changes in a region do not show outside it, and a path that leads somewhere without
the help of a region leads there whatever the region holds (`Leads.of_outside`).
-/

namespace LinkBench

structure Region where
  holds : Location → Bool
  rootless : holds [] = false
  holds_concat : ∀ (l : Location) (name : FileName), holds l = true → holds (l ++ [name]) = true

namespace Region

/-- What stands at some locations, and all that is below them. -/
def below (tops : List Location) (h : [] ∉ tops) : Region where
  holds l := tops.any fun top => decide (top <+: l)
  rootless := by simpa using fun top htop (hnil : top = []) => h (hnil ▸ htop)
  holds_concat l name hl := by
    simp only [List.any_eq_true, decide_eq_true_eq] at hl ⊢
    obtain ⟨top, htop, hpre⟩ := hl
    exact ⟨top, htop, FileSystem.below_concat hpre⟩

theorem holds_below {tops : List Location} {h : [] ∉ tops} {l : Location} :
    (below tops h).holds l = true ↔ ∃ top ∈ tops, top <+: l := by
  simp [below]

/-- What is below a location, but not what stands there. -/
def strictlyBelow (top : Location) : Region where
  holds l := decide (top <+: l ∧ top ≠ l)
  rootless := by simp
  holds_concat l name hl := by
    simp only [decide_eq_true_eq] at hl ⊢
    refine ⟨FileSystem.below_concat hl.1, fun heq => ?_⟩
    have hshort := hl.1.length_le
    rw [heq, List.length_append, List.length_singleton] at hshort
    omega

variable {z : Region} {l : Location} {name : FileName}

theorem holds_append (h : z.holds l = true) (rest : Location) : z.holds (l ++ rest) = true := by
  induction rest generalizing l with
  | nil => simpa using h
  | cons name rest ih => simpa using ih (z.holds_concat l name h)

theorem not_holds_above {m : Location} (hpre : l <+: m) (h : z.holds m = false) :
    z.holds l = false := by
  obtain ⟨rest, rfl⟩ := hpre
  rw [Bool.eq_false_iff] at h ⊢
  exact fun hl => h (holds_append hl rest)

theorem ne_nil_of_holds (h : z.holds l = true) : l ≠ [] := by
  rintro rfl
  rw [z.rootless] at h
  exact Bool.false_ne_true h

end Region

/-! ### Trees without a region -/

namespace FileSystem

variable {fs gs : FileSystem} {z : Region} {l : Location}

def outside (fs : FileSystem) (z : Region) : FileSystem :=
  fs.restrict (fun l => !z.holds l) fun l name h => by
    simp only [Bool.not_eq_true'] at h ⊢
    exact Region.not_holds_above (List.prefix_append l [name]) h

theorem get?_outside (fs : FileSystem) (z : Region) (l : Location) :
    (fs.outside z).get? l = if z.holds l then none else fs.get? l := by
  rw [outside, get?_restrict]
  cases h : z.holds l with
  | false => simp
  | true => simp [Region.ne_nil_of_holds h]

theorem get?_outside_of_not_holds (h : z.holds l = false) :
    (fs.outside z).get? l = fs.get? l := by
  rw [get?_outside, if_neg (by rw [h]; exact Bool.false_ne_true)]

theorem get?_of_get?_outside {e : Entry} (h : (fs.outside z).get? l = some e) :
    z.holds l = false ∧ fs.get? l = some e := by
  rw [get?_outside] at h
  split at h
  · cases h
  · rename_i hholds
    exact ⟨by simpa using hholds, h⟩

theorem outside_eq_iff : fs.outside z = gs.outside z ↔
    ∀ l, z.holds l = false → fs.get? l = gs.get? l := by
  constructor
  · intro h l hl
    rw [← get?_outside_of_not_holds hl, h, get?_outside_of_not_holds hl]
  · intro h
    refine ext fun l => ?_
    rw [get?_outside, get?_outside]
    cases hl : z.holds l with
    | true => rfl
    | false => simp [h l hl]

theorem outside_put (h : z.holds l = true) (e : Entry) : (fs.put l e).outside z = fs.outside z := by
  refine outside_eq_iff.2 fun p hp => ?_
  by_cases hplace : fs.Placeable l
  · rw [get?_put hplace, if_neg]
    rintro rfl
    rw [h] at hp
    cases hp
  · rw [put, dif_neg hplace]

theorem outside_erase (h : z.holds l = true) : (fs.erase l).outside z = fs.outside z := by
  refine outside_eq_iff.2 fun p hp => ?_
  rw [get?_erase fs (Region.ne_nil_of_holds h), if_neg]
  rintro ⟨rest, rfl⟩
  rw [Region.holds_append h] at hp
  cases hp

theorem outside_clear (h : z.holds l = true) : (fs.clear l).outside z = fs.outside z := by
  refine outside_eq_iff.2 fun p hp => ?_
  rw [get?_clear, if_neg]
  rintro ⟨⟨rest, rfl⟩, -⟩
  rw [Region.holds_append h] at hp
  cases hp

theorem erase_eq_outside (hl : [] ∉ [l]) : fs.erase l = fs.outside (.below [l] hl) := by
  have hne : l ≠ [] := fun h => hl (h ▸ List.mem_singleton_self _)
  refine ext fun p => ?_
  rw [get?_erase fs hne, get?_outside]
  simp [Region.below]

theorem clear_eq_outside (fs : FileSystem) (l : Location) :
    fs.clear l = fs.outside (.strictlyBelow l) := by
  refine ext fun p => ?_
  rw [get?_clear, get?_outside]
  simp [Region.strictlyBelow]

theorem erase_clear (fs : FileSystem) (hne : l ≠ []) : (fs.clear l).erase l = fs.erase l := by
  refine ext fun p => ?_
  rw [get?_erase _ hne, get?_erase _ hne, get?_clear]
  split
  · rfl
  · rename_i hpre
    rw [if_neg fun hin => hpre hin.1]

theorem not_concat_below {l : Location} {name : FileName} : ¬l ++ [name] <+: l := by
  intro h
  have hlength := h.length_le
  rw [List.length_append, List.length_singleton] at hlength
  omega

/-- The directories on the way to what stands somewhere. -/
theorem get?_above {m : Location} (hpre : l <+: m) (h : fs.get? m = some .directory) :
    fs.get? l = some .directory := by
  obtain ⟨rest, rfl⟩ := hpre
  induction rest generalizing l with
  | nil => simpa using h
  | cons name rest ih => exact get?_parent (by rw [ih (by simpa using h)]; simp)

end FileSystem

/-! ### Places without a region -/

namespace Place

variable {z : Region} {p : Place} {l rest lost : Location} {name : FileName}

theorem exists_concat (h : l ≠ []) : ∃ above name, l = above ++ [name] :=
  ⟨l.dropLast, l.getLast h, (List.dropLast_concat_getLast h).symm⟩

/-- Goes up from a location, whose names are given backward, until the region is left. -/
def leave (z : Region) : List FileName → List FileName → Place
  | [], lost => ⟨[], lost⟩
  | name :: above, lost =>
    if z.holds (above.reverse ++ [name]) then leave z above (name :: lost)
    else ⟨above.reverse ++ [name], lost⟩

/-- The place when all that lies in the region has gone. -/
def outside (p : Place) (z : Region) : Place :=
  leave z p.base.reverse p.lost

theorem leave_of_not_holds (above : List FileName) (h : z.holds above.reverse = false) :
    leave z above lost = ⟨above.reverse, lost⟩ := by
  cases above with
  | nil => rfl
  | cons name above =>
    rw [List.reverse_cons] at h
    rw [leave, h, List.reverse_cons]
    rfl

theorem outside_of_not_holds (h : z.holds p.base = false) : p.outside z = p := by
  rw [outside, leave_of_not_holds _ (by rwa [List.reverse_reverse]), List.reverse_reverse]

theorem outside_concat (h : z.holds (l ++ [name]) = true) :
    (⟨l ++ [name], lost⟩ : Place).outside z = (⟨l, name :: lost⟩ : Place).outside z := by
  have hback : z.holds (l.reverse.reverse ++ [name]) = true := by rwa [List.reverse_reverse]
  rw [outside, List.reverse_append, List.reverse_singleton, List.singleton_append, leave,
    if_pos hback, outside]

theorem outside_append (h : z.holds (l ++ [name]) = true) :
    (⟨l ++ name :: rest, lost⟩ : Place).outside z =
      (⟨l, name :: rest ++ lost⟩ : Place).outside z := by
  induction rest generalizing l name with
  | nil => exact outside_concat h
  | cons next rest ih =>
    have hnext := ih (z.holds_concat _ next h)
    rw [List.append_assoc] at hnext
    exact hnext.trans (outside_concat h)

theorem isLive_leave_of_ne_nil (above : List FileName) (h : lost ≠ []) :
    (leave z above lost).isLive = false := by
  induction above generalizing lost with
  | nil => simpa [leave, isLive] using h
  | cons name above ih =>
    rw [leave]
    split
    · exact ih (List.cons_ne_nil name lost)
    · simpa [isLive] using h

/-- A place in the region is lost with it. -/
theorem eq_of_isLive_outside (h : (p.outside z).isLive = true) :
    z.holds p.base = false ∧ p.outside z = p := by
  cases hholds : z.holds p.base with
  | false => exact ⟨rfl, outside_of_not_holds hholds⟩
  | true =>
    obtain ⟨base, lost⟩ := p
    obtain ⟨above, name, rfl⟩ := exists_concat (Region.ne_nil_of_holds hholds)
    rw [outside_concat hholds, outside, isLive_leave_of_ne_nil _ (List.cons_ne_nil _ _)] at h
    cases h

theorem parent_leave (above : List FileName) (h : lost ≠ []) :
    (leave z above lost).parent = leave z above lost.dropLast := by
  induction above generalizing lost with
  | nil => simp [leave, parent, h]
  | cons name above ih =>
    rw [leave, leave]
    split
    · rw [ih (List.cons_ne_nil name lost), List.dropLast_cons_of_ne_nil h]
    · simp [parent, h]

/-- Going up and losing a region can be exchanged. -/
theorem parent_outside (p : Place) (z : Region) : (p.outside z).parent = p.parent.outside z := by
  obtain ⟨base, lost⟩ := p
  by_cases hlost : lost = []
  · subst hlost
    cases hholds : z.holds base with
    | false =>
      have habove := Region.not_holds_above (List.dropLast_prefix base) hholds
      rw [outside_of_not_holds hholds]
      exact (outside_of_not_holds habove).symm
    | true =>
      obtain ⟨above, name, rfl⟩ := exists_concat (Region.ne_nil_of_holds hholds)
      rw [outside_concat hholds, outside, parent_leave _ (List.cons_ne_nil _ _)]
      simp [parent, outside]
  · rw [outside, parent_leave _ hlost]
    simp [parent, outside, hlost]

theorem without_eq_outside (hl : [] ∉ [l]) (p : Place) :
    p.without l = p.outside (.below [l] hl) := by
  have hne : l ≠ [] := fun h => hl (h ▸ List.mem_singleton_self _)
  have hholds : ∀ m, (Region.below [l] hl).holds m = true ↔ l <+: m := by simp [Region.below]
  obtain ⟨base, lost⟩ := p
  by_cases hpre : l <+: base
  · rw [without, if_pos ⟨hne, hpre⟩]
    obtain ⟨rest, rfl⟩ := hpre
    obtain ⟨above, name, rfl⟩ := exists_concat hne
    have habove : (Region.below [above ++ [name]] hl).holds above = false := by
      rw [Bool.eq_false_iff, Ne, hholds]
      exact FileSystem.not_concat_below
    rw [List.append_assoc, List.singleton_append,
      outside_append ((hholds _).2 (List.prefix_refl _)), outside_of_not_holds habove]
    simp
  · rw [without, if_neg fun h => hpre h.2, outside_of_not_holds]
    rw [Bool.eq_false_iff, Ne, hholds]
    exact hpre

theorem after_clear_eq_outside (p : Place) (l : Location) :
    p.after (.clear l) = p.outside (.strictlyBelow l) := by
  have hholds : ∀ m, (Region.strictlyBelow l).holds m = true ↔ l <+: m ∧ l ≠ m := by
    simp [Region.strictlyBelow]
  have htop : (Region.strictlyBelow l).holds l = false := by
    rw [Bool.eq_false_iff, Ne, hholds]
    exact fun h => h.2 rfl
  obtain ⟨base, lost⟩ := p
  by_cases hpre : l <+: base
  · rw [after, if_pos hpre]
    obtain ⟨rest, rfl⟩ := hpre
    cases rest with
    | nil =>
      rw [outside_of_not_holds (by simpa using htop)]
      simp
    | cons name rest =>
      have hnext : (Region.strictlyBelow l).holds (l ++ [name]) = true :=
        (hholds _).2 ⟨List.prefix_append l [name], by simp⟩
      rw [outside_append hnext, outside_of_not_holds htop]
      simp
  · rw [after, if_neg hpre, outside_of_not_holds]
    rw [Bool.eq_false_iff, Ne, hholds]
    exact fun h => hpre h.1

theorem without_after_clear (hne : l ≠ []) (p : Place) :
    (p.after (.clear l)).without l = p.without l := by
  obtain ⟨base, lost⟩ := p
  by_cases hpre : l <+: base
  · obtain ⟨rest, rfl⟩ := hpre
    have hlast : (l ++ rest).drop (l.length - 1) = l.drop (l.length - 1) ++ rest := by
      rw [List.drop_append_of_le_length (Nat.sub_le _ _)]
    simp [after, without, hne, hlast]
  · rw [after, if_neg hpre]

theorem base_without_above (p : Place) (l : Location) : (p.without l).base <+: p.base := by
  rw [without]
  split
  · rename_i hin
    exact (List.dropLast_prefix l).trans hin.2
  · exact List.prefix_refl _

/-- A place is not in what it has lost. -/
theorem not_below_base_without (hne : l ≠ []) (p : Place) : ¬l <+: (p.without l).base := by
  rw [without]
  split
  · intro hpre
    have hlength := hpre.length_le
    have hpos := List.length_pos_iff.2 hne
    rw [List.length_dropLast] at hlength
    omega
  · rename_i hin
    exact fun hpre => hin ⟨hne, hpre⟩

theorem outside_without (h : z.holds l = true) (p : Place) : (p.without l).outside z = p.outside z := by
  obtain ⟨base, lost⟩ := p
  rw [without]
  split
  · rename_i hin
    obtain ⟨hne, rest, rfl⟩ := hin
    obtain ⟨above, name, rfl⟩ := exists_concat hne
    rw [List.append_assoc, List.singleton_append, outside_append h]
    simp
  · rfl

theorem outside_after_clear (h : z.holds l = true) (p : Place) :
    (p.after (.clear l)).outside z = p.outside z := by
  obtain ⟨base, lost⟩ := p
  rw [after]
  split
  · rename_i hin
    obtain ⟨rest, rfl⟩ := hin
    cases rest with
    | nil => simp
    | cons name rest => rw [outside_append (z.holds_concat l name h)]; simp
  · rfl

end Place

/-! ### Places that a tree anchors -/

namespace FileSystem

variable {fs gs : FileSystem} {z : Region} {cwd p q : Place} {path : Path} {l : Location}
  {segment : String} {xs : List String}

/-- What a place hangs on is a directory of the tree. -/
def Anchors (fs : FileSystem) (p : Place) : Prop :=
  fs.get? p.base = some .directory

@[simp] theorem anchors_root (fs : FileSystem) : fs.Anchors .root :=
  fs.get?_root

theorem Anchors.entryAt?_eq (h : fs.Anchors p) : fs.entryAt? p = some .directory := by
  rw [entryAt?]
  split
  · exact h
  · rfl

theorem Anchors.parent (h : fs.Anchors p) : fs.Anchors p.parent := by
  rw [Place.parent]
  split
  · exact get?_above (List.dropLast_prefix p.base) h
  · exact h

theorem Anchors.without (h : fs.Anchors p) (hne : l ≠ []) :
    (fs.erase l).Anchors (p.without l) := by
  by_cases hpre : l <+: p.base
  · have hshort : ¬l <+: l.dropLast := fun habove => by
      have := habove.length_le
      have := List.length_pos_iff.2 hne
      rw [List.length_dropLast] at *
      omega
    rw [Anchors, Place.without, if_pos ⟨hne, hpre⟩, get?_erase fs hne, if_neg hshort]
    exact get?_above ((List.dropLast_prefix l).trans hpre) h
  · rw [Anchors, Place.without, if_neg fun hin => hpre hin.2, get?_erase fs hne, if_neg hpre]
    exact h

theorem Anchors.clear (h : fs.Anchors p) (l : Location) :
    (fs.clear l).Anchors (p.after (.clear l)) := by
  by_cases hpre : l <+: p.base
  · rw [Anchors, Place.after, if_pos hpre, get?_clear, if_neg fun hin => hin.2 rfl]
    exact get?_above hpre h
  · rw [Anchors, Place.after, if_neg hpre, get?_clear, if_neg fun hin => hpre hin.1]
    exact h

theorem Anchors.put (h : fs.Anchors p) (l : Location) (e : Entry) : (fs.put l e).Anchors p := by
  by_cases hplace : fs.Placeable l
  · have hne : p.base ≠ l := fun heq => hplace.2.2 (heq ▸ h)
    rw [Anchors, get?_put hplace, if_neg hne]
    exact h
  · rwa [FileSystem.put, dif_neg hplace]

/-- What a step comes to in a tree without a region, it comes to in the tree. The name that it ends
with may be missing in both. -/
theorem step_of_outside (hp : fs.Anchors p)
    (h : (fs.outside z).step (p.outside z) segment = .ok q) :
    ∃ r, fs.step p segment = .ok r ∧
      ((r = q ∧ r.isLive = true) ∨ (r.outside z = q ∧ fs.Anchors r)) := by
  obtain ⟨-, ⟨name, hname, hlive, hshort, rfl⟩ | ⟨hname, rfl⟩⟩ := step_eq_ok_iff.1 h
  · obtain ⟨-, heq⟩ := Place.eq_of_isLive_outside hlive
    rw [heq] at hlive ⊢
    exact ⟨_, step_eq_ok_iff.2 ⟨hp.entryAt?_eq, .inl ⟨name, hname, hlive, hshort, rfl⟩⟩,
      .inl ⟨rfl, rfl⟩⟩
  · refine ⟨_, step_eq_ok_iff.2 ⟨hp.entryAt?_eq, .inr ⟨hname, rfl⟩⟩, .inr ?_⟩
    split
    · exact ⟨(Place.parent_outside p z).symm, hp.parent⟩
    · exact ⟨rfl, hp⟩

theorem anchors_of_entryAt?_outside (hlive : q.isLive = true)
    (h : (fs.outside z).entryAt? q = some .directory) : q.outside z = q ∧ fs.Anchors q := by
  rw [entryAt?, if_pos hlive] at h
  obtain ⟨hholds, hentry⟩ := get?_of_get?_outside h
  exact ⟨Place.outside_of_not_holds hholds, hentry⟩

theorem walk_of_outside (hp : fs.Anchors p)
    (h : (fs.outside z).walk (p.outside z) xs = .ok q) :
    ∃ r, fs.walk p xs = .ok r ∧
      ((r = q ∧ r.isLive = true) ∨ (r.outside z = q ∧ fs.Anchors r)) := by
  induction xs generalizing p with
  | nil =>
    cases h
    exact ⟨p, rfl, .inr ⟨rfl, hp⟩⟩
  | cons x xs ih =>
    obtain ⟨next, hstep, hrest⟩ := walk_cons_eq_ok_iff.1 h
    obtain ⟨r, hr, hnext⟩ := step_of_outside hp hstep
    cases xs with
    | nil =>
      cases hrest
      exact ⟨r, (walk_singleton fs p x).trans hr, hnext⟩
    | cons y xs =>
      -- The walk goes on, so there is a directory to go on from.
      have hfound : r.outside z = next ∧ fs.Anchors r := by
        obtain ⟨rfl, hlive⟩ | hfound := hnext
        · obtain ⟨_, hstep', -⟩ := walk_cons_eq_ok_iff.1 hrest
          exact anchors_of_entryAt?_outside hlive (step_eq_ok_iff.1 hstep').1
        · exact hfound
      obtain ⟨s, hs, hend⟩ := ih hfound.2 (hfound.1 ▸ hrest)
      exact ⟨s, walk_cons_eq_ok_iff.2 ⟨r, hr, hs⟩, hend⟩

theorem origin_outside (cwd : Place) (path : Path) (z : Region) :
    (origin cwd path).outside z = origin (cwd.outside z) path := by
  unfold origin
  split <;> rfl

theorem Anchors.origin (h : fs.Anchors cwd) (path : Path) :
    fs.Anchors (FileSystem.origin cwd path) := by
  unfold FileSystem.origin
  split
  · exact anchors_root fs
  · exact h

/-- Where a walk without a region ends at a location, the region makes no difference to it. -/
theorem walk_eq_of_outside (hcwd : fs.Anchors cwd)
    (h : (fs.outside z).walk (origin (cwd.outside z) path) xs = .ok (.ofLocation l)) :
    fs.walk (origin cwd path) xs = .ok (.ofLocation l) := by
  rw [← origin_outside] at h
  obtain ⟨r, hr, ⟨rfl, -⟩ | ⟨heq, -⟩⟩ := walk_of_outside (hcwd.origin path) h
  · exact hr
  · obtain ⟨-, hsame⟩ := Place.eq_of_isLive_outside (p := r) (z := z) (by rw [heq]; rfl)
    rw [← heq, hsame, hr]

/-- **Reaching without a region.** A path that leads to a directory without the help of a region leads
there in any case. -/
theorem Leads.of_outside (hcwd : fs.Anchors cwd)
    (h : (fs.outside z).Leads (cwd.outside z) path l) : fs.Leads cwd path l :=
  ⟨h.fit, h.nonempty, walk_eq_of_outside hcwd h.walk_eq, (get?_of_get?_outside h.directory).2⟩

theorem Names.of_outside (hcwd : fs.Anchors cwd)
    (h : (fs.outside z).Names (cwd.outside z) path l) : fs.Names cwd path l := by
  obtain ⟨d, name, hparent, hname⟩ := h
  obtain ⟨hfit, hempty, hwalk, hdir, hending⟩ := resolveParent_eq_ok_iff.1 hparent
  exact ⟨d, name, resolveParent_eq_ok_iff.2 ⟨hfit, hempty, walk_eq_of_outside hcwd hwalk,
    (get?_of_get?_outside hdir).2, hending⟩, hname⟩

/-! ### What a directory lists -/

/-- What is listed by name is determined by what it lists. -/
theorem eq_of_mem_iff {α : Type} {key : α → FileName} {xs ys : List α}
    (hxs : xs.Pairwise (key · < key ·)) (hys : ys.Pairwise (key · < key ·))
    (h : ∀ x, x ∈ xs ↔ x ∈ ys) : xs = ys := by
  have hnodup : ∀ {zs : List α}, zs.Pairwise (key · < key ·) → zs.Nodup := fun hzs => by
    refine hzs.imp fun hlt => ?_
    rintro rfl
    exact Std.Irrefl.irrefl _ hlt
  refine List.Perm.eq_of_pairwise (fun a b _ _ hab hba => ?_) hxs hys
    ((List.perm_ext_iff_of_nodup (hnodup hxs) (hnodup hys)).2 h)
  exact absurd hba (Std.Asymm.asymm _ _ hab)

theorem children_congr {m : Location} (h : ∀ name, fs.get? (l ++ [name]) = gs.get? (m ++ [name])) :
    fs.children l = gs.children m :=
  eq_of_mem_iff (fs.children_sorted l) (gs.children_sorted m) fun x => by
    rw [mem_children, mem_children, h]

theorem children_outside (fs : FileSystem) (z : Region) (l : Location) :
    (fs.outside z).children l = (fs.children l).filter fun x => !z.holds (l ++ [x.1]) := by
  refine eq_of_mem_iff (children_sorted _ l) ((children_sorted fs l).filter _) fun x => ?_
  rw [List.mem_filter, mem_children, mem_children, get?_outside]
  cases z.holds (l ++ [x.1]) <;> simp

end FileSystem

end LinkBench
