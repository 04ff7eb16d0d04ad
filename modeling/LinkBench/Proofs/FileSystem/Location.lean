import LinkBench.Proofs.FileSystem.Reach

/-!
# Where a path can lead

Which names a place has gone through does not change when some of them are removed (`Place.location`), and
a walk that succeeds ends where its segments say (`location_of_walk`). So a path leads to the location
that it calls (`called`) or nowhere, whatever was removed in the meantime, and what is done by a name in a
directory is done there or not at all. A link on the way would lead elsewhere; there are none.
-/

namespace LinkBench

namespace Place

variable {z : Region} {p q : Place} {l : Location}

/-- The names on the way to a place, whether or not they are still in the tree. -/
def location (p : Place) : Location := p.base ++ p.lost

@[simp] theorem location_ofLocation (l : Location) : (ofLocation l).location = l :=
  List.append_nil l

theorem eq_ofLocation (hlive : p.isLive = true) : p = .ofLocation p.location := by
  obtain ⟨base, lost⟩ := p
  cases lost with
  | nil => rw [location, List.append_nil, ofLocation]
  | cons name lost => cases hlive

theorem location_parent (p : Place) : p.parent.location = p.location.dropLast := by
  obtain ⟨base, lost⟩ := p
  cases lost with
  | nil => simp [parent, location]
  | cons name lost => exact (List.dropLast_append_of_ne_nil (List.cons_ne_nil name lost)).symm

theorem location_leave (above lost : List FileName) :
    (leave z above lost).location = above.reverse ++ lost := by
  induction above generalizing lost with
  | nil => rfl
  | cons name above ih =>
    rw [leave]
    split
    · rw [ih, List.reverse_cons, List.append_assoc, List.singleton_append]
    · rw [location, List.reverse_cons]

theorem location_outside (p : Place) (z : Region) : (p.outside z).location = p.location := by
  rw [outside, location_leave, List.reverse_reverse, location]

theorem location_eq_of_outside (h : q.outside z = p.outside z) : q.location = p.location := by
  rw [← location_outside q z, h, location_outside]

theorem location_without (p : Place) (l : Location) : (p.without l).location = p.location := by
  rw [without]
  split
  · rename_i hin
    obtain ⟨-, rest, hrest⟩ := hin
    have hbase : l.dropLast ++ p.base.drop (l.length - 1) = p.base := by
      rw [← hrest, List.drop_append_of_le_length (Nat.sub_le _ _), ← List.append_assoc,
        List.dropLast_eq_take, List.take_append_drop]
    rw [location, ← List.append_assoc, hbase, location]
  · rfl

theorem location_after_clear (p : Place) (l : Location) : (p.after (.clear l)).location = p.location := by
  rw [after_clear_eq_outside, location_outside]

theorem base_leave (above lost : List FileName) : (leave z above lost).base <+: above.reverse := by
  induction above generalizing lost with
  | nil => exact List.prefix_refl _
  | cons name above ih =>
    rw [leave, List.reverse_cons]
    split
    · exact (ih _).trans (List.prefix_append _ _)
    · exact List.prefix_refl _

theorem below_base_leave (hl : z.holds l = false) (above lost : List FileName)
    (hpre : l <+: above.reverse) : l <+: (leave z above lost).base := by
  induction above generalizing lost with
  | nil => exact hpre
  | cons name above ih =>
    rw [List.reverse_cons] at hpre
    rw [leave]
    split
    · rename_i hholds
      obtain hpre | rfl := FileSystem.below_or_eq_of_below_concat hpre
      · exact ih _ hpre
      · rw [hholds] at hl
        cases hl
    · exact hpre

/-- What a place hangs on below a location outside the region stays below it. -/
theorem below_base_of_outside (hl : z.holds l = false) (h : q.outside z = p.outside z)
    (hpre : l <+: p.base) : l <+: q.base := by
  have hkept : l <+: (q.outside z).base := by
    rw [h]
    exact below_base_leave hl _ _ (by rwa [List.reverse_reverse])
  have habove := base_leave (z := z) q.base.reverse q.lost
  rw [List.reverse_reverse] at habove
  exact hkept.trans habove

theorem eq_ofLocation_of_outside (h : p.outside z = .ofLocation l) : p = .ofLocation l := by
  obtain ⟨-, hsame⟩ := eq_of_isLive_outside (p := p) (z := z) (by rw [h]; rfl)
  rw [← hsame, h]

end Place

namespace FileSystem

variable {fs gs fs₀ : FileSystem} {z : Region} {cwd cwd₀ p q p₀ q₀ : Place} {path : Path}
  {d l m : Location} {name : FileName} {segment : String} {xs : List String} {changes : List Change}

/-! ### What a path calls -/

/-- Where a segment leads to from a location, if it leads anywhere. -/
def follow (l : Location) (segment : String) : Location :=
  match FileName.ofString? segment with
  | some name => l ++ [name]
  | none => if segment = ".." then l.dropLast else l

@[simp] theorem follow_text (l : Location) (name : FileName) : follow l name.text = l ++ [name] := by
  rw [follow, name.ofString?_text]

@[simp] theorem follow_empty (l : Location) : follow l "" = l := by
  rw [follow, FileName.ofString?_empty]
  rfl

theorem foldl_follow_blanks (l : Location) (n : Nat) : (List.replicate n "").foldl follow l = l := by
  induction n with
  | zero => rfl
  | succ n ih => rw [List.replicate_succ, List.foldl_cons, follow_empty, ih]

theorem location_of_step (h : fs.step p segment = .ok q) : q.location = follow p.location segment := by
  obtain ⟨-, ⟨name, hname, hlive, -, rfl⟩ | ⟨hname, rfl⟩⟩ := step_eq_ok_iff.1 h
  · rw [follow, hname, Place.eq_ofLocation hlive]
    simp [Place.location, Place.ofLocation]
  · rw [follow, hname]
    dsimp only
    split
    · exact Place.location_parent p
    · rfl

theorem location_of_walk (h : fs.walk p xs = .ok q) : q.location = xs.foldl follow p.location := by
  induction xs generalizing p with
  | nil =>
    cases h
    rfl
  | cons x xs ih =>
    obtain ⟨r, hstep, hrest⟩ := walk_cons_eq_ok_iff.1 h
    rw [List.foldl_cons, ← location_of_step hstep]
    exact ih hrest

/-- A step to a lost directory neither calls a name nor leaves what the directory hangs on. -/
theorem step_lost (h : fs.step p segment = .ok q) (hlost : q.isLive = false) :
    FileName.ofString? segment = none ∧ p.isLive = false ∧ q.base = p.base := by
  obtain ⟨-, ⟨name, -, -, -, rfl⟩ | ⟨hname, rfl⟩⟩ := step_eq_ok_iff.1 h
  · cases hlost
  · refine ⟨hname, ?_⟩
    split at hlost
    · rw [Place.parent] at hlost
      split at hlost
      · cases hlost
      · rename_i hbelow
        rw [if_pos ‹_›, Place.parent, if_neg hbelow]
        exact ⟨Bool.eq_false_iff.2 hbelow, rfl⟩
    · rw [if_neg ‹_›]
      exact ⟨hlost, rfl⟩

theorem walk_lost (h : fs.walk p xs = .ok q) (hlost : q.isLive = false) :
    (∀ x ∈ xs, FileName.ofString? x = none) ∧ p.isLive = false ∧ q.base = p.base := by
  induction xs generalizing p with
  | nil =>
    cases h
    exact ⟨nofun, hlost, rfl⟩
  | cons x xs ih =>
    obtain ⟨r, hstep, hrest⟩ := walk_cons_eq_ok_iff.1 h
    obtain ⟨hxs, hr, hbase⟩ := ih hrest
    obtain ⟨hx, hp, hfirst⟩ := step_lost hstep hr
    exact ⟨List.forall_mem_cons.2 ⟨hx, hxs⟩, hp, hbase.trans hfirst⟩

/-- Without names, a walk goes up. -/
theorem walk_up (h : fs.walk p xs = .ok q) (hxs : ∀ x ∈ xs, FileName.ofString? x = none) :
    q.base <+: p.base := by
  induction xs generalizing p with
  | nil =>
    cases h
    exact List.prefix_refl _
  | cons x xs ih =>
    obtain ⟨hx, hxs⟩ := List.forall_mem_cons.1 hxs
    obtain ⟨r, hstep, hrest⟩ := walk_cons_eq_ok_iff.1 h
    refine (ih hrest hxs).trans ?_
    obtain ⟨-, ⟨name, hname, -⟩ | ⟨-, rfl⟩⟩ := step_eq_ok_iff.1 hstep
    · rw [hx] at hname
      cases hname
    · split
      · rw [Place.parent]
        split
        · exact List.dropLast_prefix _
        · exact List.prefix_refl _
      · exact List.prefix_refl _

/-- The location that a path leads to, if it leads anywhere. -/
def called (cwd : Place) (path : Path) : Location :=
  path.segments.foldl follow (origin cwd path).location

theorem called_congr (h : cwd.location = cwd₀.location) (path : Path) :
    called cwd path = called cwd₀ path := by
  rw [called, called, origin, origin]
  split
  · rfl
  · rw [h]

theorem location_of_resolve (h : fs.resolve cwd path = .ok q) : q.location = called cwd path :=
  location_of_walk (resolve_eq_ok_iff.1 h).2.2

theorem Leads.called_eq (h : fs.Leads cwd path l) : called cwd path = l := by
  rw [← location_of_resolve h.resolve_eq, Place.location_ofLocation]

theorem Names.called_eq (h : fs.Names cwd path l) : called cwd path = l := by
  obtain ⟨d, name, hparent, hname⟩ := h
  obtain ⟨-, -, hwalk, -, hending⟩ := resolveParent_eq_ok_iff.1 hparent
  obtain ⟨d', hd, -, rfl⟩ := nameIn_eq_ok_iff.1 hname
  cases hd
  obtain ⟨n, hsegments⟩ := segments_of_ending_name hending
  rw [called, hsegments, List.foldl_append, ← location_of_walk hwalk, Place.location_ofLocation,
    List.foldl_cons, follow_text, foldl_follow_blanks]

theorem called_join (hne : path.isEmpty = false) (cwd : Place) (name : FileName) :
    called cwd (path.join (.ofName name)) = called cwd path ++ [name] := by
  have hstem : path.stem.foldl follow (origin cwd path).location = called cwd path := by
    rw [called]
    obtain hstem | hstem := path.stem_eq_or
    · rw [hstem]
    · rw [hstem, List.foldl_append, List.foldl_cons, follow_empty, List.foldl_nil]
  rw [called, origin_join_ofName cwd hne, Path.segments_join_ofName, List.foldl_append, hstem,
    List.foldl_cons, follow_text, List.foldl_nil]

/-- A path that has led to a directory still calls it, whatever has been removed. -/
theorem Leads.called_join (h : fs₀.Leads cwd₀ path d) (hcwd : cwd.location = cwd₀.location)
    (name : FileName) : called cwd (path.join (.ofName name)) = d ++ [name] := by
  rw [FileSystem.called_join h.nonempty, called_congr hcwd, h.called_eq]

theorem listDirectory_eq_ok {entries : List (FileName × Entry)}
    (h : fs.listDirectory cwd path = .ok entries) : ∃ p, fs.resolve cwd path = .ok p ∧
      entries = (if p.isLive then fs.children p.base else []).filter
        fun x => !(path.join (.ofName x.1)).isTooLong := by
  unfold listDirectory readDirectory at h
  cases hresolve : fs.resolve cwd path with
  | error e =>
    rw [hresolve] at h
    cases h
  | ok p =>
    rw [hresolve] at h
    refine ⟨p, rfl, ?_⟩
    cases hentry : fs.entryAt? p with
    | none =>
      simp only [bind, Except.bind, hentry] at h
      cases h
    | some entry =>
      simp only [bind, Except.bind, hentry] at h
      cases entry with
      | directory =>
        cases h
        rfl
      | file bytes executable => cases h
      | device device => cases h

/-- A path that has led to a directory leads to a lost one only from a working directory that was below it
and is lost itself. -/
theorem Leads.of_lost (h : fs₀.Leads cwd₀ path d) (hresolve : fs.resolve cwd path = .ok p)
    (hlost : p.isLive = false) : d <+: cwd₀.base ∧ p.base = cwd.base := by
  obtain ⟨-, -, hwalk⟩ := resolve_eq_ok_iff.1 hresolve
  obtain ⟨hup, horigin, hbase⟩ := walk_lost hwalk hlost
  have habove := walk_up h.walk_eq hup
  unfold origin at horigin hbase habove
  split at horigin
  · cases horigin
  · rw [if_neg ‹_›] at hbase habove
    exact ⟨habove, hbase⟩

/-! ### What is done by a path -/

theorem mem_closing {cleared : List Change} {result : Except IoError (List Change)} {change : Change}
    (h : change ∈ (closing cleared result).2) :
    change ∈ cleared ∨ ∃ removed, result = .ok removed ∧ change ∈ removed := by
  unfold closing at h
  split at h
  · obtain hcleared | hremoved := List.mem_append.1 h
    · exact .inl hcleared
    · exact .inr ⟨_, rfl, hremoved⟩
  · exact .inl h
  · exact .inl h

theorem changes_forgiving (removed : Except IoError Unit × List Change) :
    (forgiving removed).2 = removed.2 := by
  unfold forgiving
  split <;> rfl

/-- Nothing is removed but what the path calls, or what is below it. -/
theorem mem_removeIfPresent {change : Change} (h : change ∈ (Golden.removeIfPresent fs cwd path).2) :
    change = .clear (called cwd path) ∨ change = .erase (called cwd path) := by
  have hremoved : ∀ {gs : FileSystem} {place : Place} {removed : List Change},
      place.location = cwd.location → gs.removeDir place path = .ok removed → change ∈ removed →
        change = .erase (called cwd path) := by
    intro gs place removed hplace hremove hmem
    obtain ⟨l, hnames, rfl⟩ := removeDir_eq_ok hremove
    rw [List.mem_singleton.1 hmem, ← hnames.called_eq, called_congr hplace]
  rw [removeIfPresent_eq, changes_forgiving] at h
  cases hresolve : fs.resolve cwd path with
  | error e =>
    rw [removeDirAll, hresolve] at h
    cases h
  | ok place =>
    by_cases hdir : fs.entryAt? place = some .directory
    · rw [removeDirAll_of_directory hresolve hdir] at h
      split at h
      · rename_i hlive
        obtain hcleared | ⟨removed, hremove, hmem⟩ := mem_closing h
        · have hplace := location_of_resolve hresolve
          rw [Place.eq_ofLocation hlive, Place.location_ofLocation] at hplace
          rw [Place.eq_ofLocation hlive, hplace] at hcleared
          exact .inl (List.mem_singleton.1 hcleared)
        · exact .inr (hremoved (Place.location_after_clear cwd _) hremove hmem)
      · obtain hcleared | ⟨removed, hremove, hmem⟩ := mem_closing h
        · cases hcleared
        · exact .inr (hremoved rfl hremove hmem)
    · rw [removeDirAll, hresolve] at h
      dsimp only at h
      split at h
      · cases h
      · exact absurd ‹_› hdir
      · cases h

theorem removeIfPresent_within (hz : z.holds (called cwd path) = true) :
    ∀ change ∈ (Golden.removeIfPresent fs cwd path).2, change.Within z := by
  intro change hchange
  obtain rfl | rfl := mem_removeIfPresent hchange
  · exact hz
  · exact hz

/-- Both places are where the segment leads to, one with the region and one without it. -/
theorem outside_of_step (h : fs.step p segment = .ok q) (h₀ : fs₀.step p₀ segment = .ok q₀)
    (hp : p.outside z = p₀.outside z) : q.outside z = q₀.outside z := by
  obtain ⟨-, ⟨name, hname, hlive, -, rfl⟩ | ⟨hname, rfl⟩⟩ := step_eq_ok_iff.1 h
  · obtain ⟨-, ⟨name', hname', hlive', -, rfl⟩ | ⟨hnone, -⟩⟩ := step_eq_ok_iff.1 h₀
    · rw [hname] at hname'
      cases hname'
      have hlocation := Place.location_eq_of_outside hp
      rw [Place.eq_ofLocation hlive, Place.eq_ofLocation hlive', hlocation]
    · rw [hname] at hnone
      cases hnone
  · obtain ⟨-, ⟨name', hname', -⟩ | ⟨-, rfl⟩⟩ := step_eq_ok_iff.1 h₀
    · rw [hname] at hname'
      cases hname'
    · split
      · rw [← Place.parent_outside, hp, Place.parent_outside]
      · exact hp

theorem isLive_of_entryAt?_none (h : fs.entryAt? p = none) : p.isLive = true := by
  rw [entryAt?] at h
  split at h
  · assumption
  · cases h

/-- A directory that is missing now was in the region. -/
theorem holds_of_missing (hfs : fs.outside z = fs₀.outside z) (hp : p.outside z = p₀.outside z)
    (hdir : fs₀.entryAt? p₀ = some .directory) (hnone : fs.entryAt? p = none) :
    z.holds p.base = true := by
  cases hholds : z.holds p.base with
  | true => rfl
  | false =>
    have hlive := isLive_of_entryAt?_none hnone
    rw [Place.outside_of_not_holds hholds, Place.eq_ofLocation hlive] at hp
    rw [Place.eq_ofLocation_of_outside hp.symm, entryAt?_ofLocation] at hdir
    rw [Place.eq_ofLocation hlive] at hholds hnone
    rw [entryAt?_ofLocation, outside_eq_iff.1 hfs p.location hholds, hdir] at hnone
    cases hnone

theorem makeDirectories_name {change : Change}
    (h : change ∈ (fs.makeDirectories (.ofLocation d) [name.text]).2) :
    change = .put (d ++ [name]) .directory := by
  rw [makeDirectories] at h
  split at h
  · cases h
  · rename_i next hstep
    split at h
    · cases h
    · cases h
    · rename_i hnone
      have hnext := location_of_step hstep
      rw [follow_text, Place.location_ofLocation] at hnext
      rw [Place.eq_ofLocation (isLive_of_entryAt?_none hnone), hnext] at h
      exact List.mem_singleton.1 h

/-- On the way to a directory outside the region, no others are made than in the region. -/
theorem makeDirectories_within (hfs : fs.outside z = fs₀.outside z) (hp : p.outside z = p₀.outside z)
    (hwalk : fs₀.walk p₀ xs = .ok (.ofLocation d)) (hdir : fs₀.get? d = some .directory)
    (hd : z.holds d = false) (hz : z.holds (d ++ [name]) = true) :
    ∀ change ∈ (fs.makeDirectories p (xs ++ [name.text])).2, change.Within z := by
  induction xs generalizing fs p p₀ with
  | nil =>
    cases hwalk
    rw [Place.outside_of_not_holds (p := .ofLocation d) hd] at hp
    rw [Place.eq_ofLocation_of_outside hp]
    intro change hchange
    rw [makeDirectories_name hchange]
    exact hz
  | cons x xs ih =>
    obtain ⟨next₀, hstep₀, hrest⟩ := walk_cons_eq_ok_iff.1 hwalk
    intro change hchange
    rw [List.cons_append, makeDirectories] at hchange
    split at hchange
    · cases hchange
    · rename_i next hstep
      have hnext := outside_of_step hstep hstep₀ hp
      split at hchange
      · exact ih hfs hnext hrest change hchange
      · cases hchange
      · rename_i hnone
        have hput := holds_of_missing hfs hnext (entryAt?_of_walk hrest hdir) hnone
        obtain rfl | hothers := List.mem_cons.1 hchange
        · exact hput
        · exact ih ((outside_put hput _).trans hfs) hnext hrest change hothers

theorem createDirAll_within (hleads : fs₀.Leads cwd₀ path d) (hfs : fs.outside z = fs₀.outside z)
    (hcwd : cwd.outside z = cwd₀.outside z) (hd : z.holds d = false)
    (hz : z.holds (d ++ [name]) = true) :
    ∀ change ∈ (fs.createDirAll cwd (path.join (.ofName name))).2, change.Within z := by
  intro change hchange
  rw [createDirAll] at hchange
  split at hchange
  · cases hchange
  · split at hchange
    · cases hchange
    · rw [Path.segments_join_ofName, origin_join_ofName cwd hleads.nonempty] at hchange
      refine makeDirectories_within hfs ?_ hleads.walk_stem hleads.directory hd hz change hchange
      rw [origin_outside, hcwd, origin_outside]

/-- What is moved within a region does not show outside it. -/
theorem outside_move (hl : z.holds l = true) (hm : z.holds m = true) :
    (fs.apply (.move l m)).outside z = fs.outside z := by
  change ((fs.erase m).move l m).outside z = _
  by_cases hmovable : (fs.erase m).Movable l m
  · refine (outside_eq_iff.2 fun p hp => ?_).trans (outside_erase hm)
    have hapart : ∀ {top}, z.holds top = true → ¬top <+: p := by
      rintro top htop ⟨rest, rfl⟩
      rw [Region.holds_append htop] at hp
      cases hp
    rw [get?_move hmovable, if_neg (hapart hm), if_neg (hapart hl)]
  · rw [move, dif_neg hmovable, outside_erase hm]

end FileSystem

end LinkBench
