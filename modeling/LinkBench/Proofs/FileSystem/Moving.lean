import LinkBench.Proofs.FileSystem.Location

/-!
# Paths beside what is moved

A path that calls nothing of what is moved away leads where it has led before (`Leads.of_move`). What it
calls on its way is told by its segments alone (`Avoids`), so that can be said in advance, whatever becomes
of the tree in the meantime.
-/

namespace LinkBench.FileSystem

variable {fs gs : FileSystem} {y z : Region} {cwd cwd' p q : Place} {path : Path} {w : Workspace}
  {d l m : Location} {name : FileName} {segment : String} {xs : List String} {changes : List Change}

/-! ### What a path calls on its way -/

/-- Nothing that the path calls on its way is in the region, whether or not anything stands there. -/
def Avoids (z : Region) (cwd : Place) (path : Path) : Prop :=
  ∀ front, front <+: path.segments → z.holds (front.foldl follow (origin cwd path).location) = false

theorem Avoids.congr (h : Avoids z cwd path)
    (hplace : (origin cwd' path).location = (origin cwd path).location) : Avoids z cwd' path := by
  rw [Avoids, hplace]
  exact h

theorem Avoids.mono (h : Avoids z cwd path) (hsub : ∀ l, y.holds l = true → z.holds l = true) :
    Avoids y cwd path := by
  intro front hfront
  rw [Bool.eq_false_iff]
  intro hholds
  have hfree := h front hfront
  rw [hsub _ hholds] at hfree
  cases hfree

theorem Avoids.called (h : Avoids z cwd path) : z.holds (called cwd path) = false :=
  h path.segments (List.prefix_refl _)

theorem Avoids.join (h : Avoids z cwd path) (hne : path.isEmpty = false)
    (hname : z.holds (FileSystem.called cwd path ++ [name]) = false) :
    Avoids z cwd (path.join (.ofName name)) := by
  intro front hfront
  rw [Path.segments_join_ofName, List.prefix_concat_iff] at hfront
  obtain rfl | hstem := hfront
  · rw [← called_join hne, FileSystem.called, Path.segments_join_ofName] at hname
    exact hname
  · rw [origin_join_ofName cwd hne]
    refine h front (hstem.trans ?_)
    obtain hwhole | hwhole := path.stem_eq_or
    · exact ⟨[], (List.append_nil _).trans hwhole.symm⟩
    · exact ⟨[""], hwhole.symm⟩

/-! ### Walks -/

section Beside

variable (hsame : ∀ l, y.holds l = false → z.holds l = false → gs.get? l = fs.get? l)
  (hfree : ∀ l, z.holds l = true → fs.get? l = none)

include hsame in
theorem entryAt?_beside (hp : y.holds p.location = false) (hdir : fs.entryAt? p = some .directory) :
    gs.entryAt? (p.outside z) = some .directory := by
  cases hlive : (p.outside z).isLive with
  | false => rw [entryAt?, if_neg (by rw [hlive]; exact Bool.false_ne_true)]
  | true =>
    obtain ⟨hz, heq⟩ := Place.eq_of_isLive_outside hlive
    rw [heq] at hlive ⊢
    rw [Place.eq_ofLocation hlive] at hz hdir ⊢
    exact (hsame _ hp hz).trans hdir

include hsame hfree

theorem step_beside (hp : y.holds p.location = false) (hstep : fs.step p segment = .ok q)
    (hdir : fs.entryAt? q = some .directory) :
    gs.step (p.outside z) segment = .ok (q.outside z) := by
  obtain ⟨hfirst, ⟨name, hname, hlive, hshort, rfl⟩ | ⟨hname, rfl⟩⟩ := step_eq_ok_iff.1 hstep
  · have hq : z.holds (p.base ++ [name]) = false := by
      rw [Bool.eq_false_iff]
      intro hholds
      rw [entryAt?_ofLocation, hfree _ hholds] at hdir
      cases hdir
    have hbase := Place.outside_of_not_holds (Region.not_holds_above (List.prefix_append _ _) hq)
    have hnext := entryAt?_beside hsame hp hfirst
    rw [Place.outside_of_not_holds (p := .ofLocation (p.base ++ [name])) hq]
    rw [hbase] at hnext ⊢
    exact step_eq_ok_iff.2 ⟨hnext, .inl ⟨name, hname, hlive, hshort, rfl⟩⟩
  · refine step_eq_ok_iff.2 ⟨entryAt?_beside hsame hp hfirst, .inr ⟨hname, ?_⟩⟩
    split
    · exact (Place.parent_outside p z).symm
    · rfl

/-- A walk that calls nothing of what has gone comes to its end in the tree that has changed. -/
theorem walk_beside (havoids : ∀ front, front <+: xs → y.holds (front.foldl follow p.location) = false)
    (hwalk : fs.walk p xs = .ok q) (hdir : fs.entryAt? q = some .directory) :
    gs.walk (p.outside z) xs = .ok (q.outside z) := by
  induction xs generalizing p with
  | nil =>
    cases hwalk
    rfl
  | cons x xs ih =>
    obtain ⟨next, hstep, hrest⟩ := walk_cons_eq_ok_iff.1 hwalk
    have hp := havoids [] (List.nil_prefix)
    refine walk_cons_eq_ok_iff.2 ⟨_, step_beside hsame hfree hp hstep (entryAt?_of_walk hrest hdir),
      ih (fun front hfront => ?_) hrest⟩
    rw [location_of_step hstep]
    exact havoids (x :: front) (List.cons_prefix_cons.2 ⟨rfl, hfront⟩)

theorem Leads.beside (h : fs.Leads cwd path d) (havoids : Avoids y cwd path) :
    gs.Leads (cwd.outside z) path d := by
  have hy := havoids.called
  rw [h.called_eq] at hy
  have hz : z.holds d = false := by
    rw [Bool.eq_false_iff]
    intro hholds
    have hdir := h.directory
    rw [hfree d hholds] at hdir
    cases hdir
  have hwalk := walk_beside hsame hfree havoids h.walk_eq h.directory
  rw [origin_outside, Place.outside_of_not_holds (p := .ofLocation d) hz] at hwalk
  exact ⟨h.fit, h.nonempty, hwalk, (hsame d hy hz).trans h.directory⟩

end Beside

/-! ### Moving -/

theorem Leads.congr (h : fs.Leads cwd path d) (horigin : origin cwd' path = origin cwd path) :
    fs.Leads cwd' path d :=
  ⟨h.fit, h.nonempty, by rw [horigin]; exact h.walk_eq, h.directory⟩

/-- A path that avoids what is moved starts from where it started before. -/
theorem origin_after_move (hl : [] ∉ [l]) (havoids : Avoids (.below [l] hl) cwd path) :
    origin (cwd.after (.move l m)) path = origin (cwd.without m) path := by
  unfold origin
  split
  · rfl
  · rename_i hrelative
    have hstart := havoids [] List.nil_prefix
    rw [origin, if_neg hrelative, List.foldl_nil, Bool.eq_false_iff, Ne, Region.holds_below] at hstart
    have hbase : ¬l <+: (cwd.without m).base := fun hpre =>
      hstart ⟨l, List.mem_singleton_self l, hpre.trans ((Place.base_without_above cwd m).trans
        (List.prefix_append _ _))⟩
    exact if_neg hbase

theorem origin_location_congr (h : cwd'.location = cwd.location) (path : Path) :
    (origin cwd' path).location = (origin cwd path).location := by
  unfold origin
  split
  · rfl
  · exact h

theorem location_origin_after_move (hl : [] ∉ [l]) (havoids : Avoids (.below [l] hl) cwd path) :
    (origin (cwd.after (.move l m)) path).location = (origin cwd path).location := by
  rw [origin_after_move hl havoids]
  exact origin_location_congr (Place.location_without _ _) path

/-- **A path beside what is moved.** What is moved to a free name elsewhere does not concern a path that
avoids it. -/
theorem Leads.of_move (hl : [] ∉ [l]) (hm : m ≠ []) (h : fs.Leads cwd path d)
    (havoids : Avoids (.below [l] hl) cwd path) (hfree : fs.get? m = none) :
    (fs.apply (.move l m)).Leads (cwd.after (.move l m)) path d := by
  have hboth : [] ∉ [l, m] := fun hnil => by
    obtain hnil | hnil := List.mem_cons.1 hnil
    · exact hl (hnil ▸ List.mem_singleton_self _)
    · exact hm (List.mem_singleton.1 hnil).symm
  have hone : [] ∉ [m] := fun hnil => hm (List.mem_singleton.1 hnil).symm
  have hmove : (fs.apply (.move l m)).outside (.below [l, m] hboth) = fs.outside (.below [l, m] hboth) :=
    outside_move (Region.holds_below.2 ⟨l, by simp, List.prefix_refl l⟩)
      (Region.holds_below.2 ⟨m, by simp, List.prefix_refl m⟩)
  have hsame : ∀ p, (Region.below [l] hl).holds p = false → (Region.below [m] hone).holds p = false →
      (fs.apply (.move l m)).get? p = fs.get? p := by
    intro p hp hp'
    refine outside_eq_iff.1 hmove p ?_
    rw [Bool.eq_false_iff, Ne, Region.holds_below] at hp hp' ⊢
    simpa using ⟨by simpa using hp, by simpa using hp'⟩
  have hgone : ∀ p, (Region.below [m] hone).holds p = true → fs.get? p = none := by
    intro p hp
    obtain ⟨top, htop, hpre⟩ := Region.holds_below.1 hp
    exact get?_eq_none_of_below hfree (List.mem_singleton.1 htop ▸ hpre)
  have hbeside := h.beside hsame hgone havoids
  rw [← Place.without_eq_outside] at hbeside
  exact hbeside.congr (origin_after_move hl havoids)

/-! ### From one name to the next -/

section Beside

variable {a : Location} {x y : FileName}

/-- From two names in a directory, the same segments lead to the same place, unless they stay below. -/
theorem foldl_follow_beside (xs : List String) (tail : Location) :
    xs.foldl follow (a ++ [x] ++ tail) = xs.foldl follow (a ++ [y] ++ tail) ∨
      a ++ [x] <+: xs.foldl follow (a ++ [x] ++ tail) := by
  induction xs generalizing tail with
  | nil => exact .inr (List.prefix_append _ tail)
  | cons segment xs ih =>
    rw [List.foldl_cons, List.foldl_cons, follow, follow]
    cases FileName.ofString? segment with
    | some name =>
      dsimp only
      rw [List.append_assoc _ tail, List.append_assoc _ tail]
      exact ih (tail ++ [name])
    | none =>
      dsimp only
      split
      · by_cases htail : tail = []
        · subst htail
          rw [List.append_nil, List.append_nil, List.dropLast_concat, List.dropLast_concat]
          exact .inl rfl
        · rw [List.dropLast_append_of_ne_nil htail, List.dropLast_append_of_ne_nil htail]
          exact ih tail.dropLast
      · exact ih tail

theorem location_after_move (l m : Location) (p : Place) :
    (p.after (.move l m)).location = p.location ∨ ∃ tail, p.location = l ++ tail ∧
      (p.after (.move l m)).location = m ++ tail := by
  have hkept := Place.location_without p m
  rw [Place.after]
  split
  · rename_i hpre
    obtain ⟨tail, htail⟩ := hpre
    refine .inr ⟨tail ++ (p.without m).lost, ?_, ?_⟩
    · rw [← hkept, Place.location, ← htail, List.append_assoc]
    · rw [Place.location, rebase, ← htail, List.drop_left, List.append_assoc]
  · exact .inl hkept

/-- A path that calls nothing below a name still calls the same when what stands there gets another name. -/
theorem called_after_move (h : ¬a ++ [x] <+: called cwd path) :
    called (cwd.after (.move (a ++ [x]) (a ++ [y]))) path = called cwd path := by
  unfold called origin at h ⊢
  split
  · rfl
  · rename_i hrelative
    rw [if_neg hrelative] at h
    obtain hsame | ⟨tail, hbefore, hafter⟩ := location_after_move (a ++ [x]) (a ++ [y]) cwd
    · rw [hsame]
    · rw [hbefore] at h
      rw [hbefore, hafter]
      obtain hsame | hbelow := foldl_follow_beside (y := y) path.segments tail
      · exact hsame.symm
      · exact absurd hbelow h

end Beside

/-! ### What is on the way to a name -/

theorem leads_of_walk_stem (hfit : requireFit path = .ok ()) (hne : path.isEmpty = false)
    (hwalk : fs.walk (origin cwd path) path.stem = .ok (.ofLocation d)) (hdir : fs.get? d = some .directory) :
    fs.Leads cwd path d := by
  refine ⟨hfit, hne, ?_, hdir⟩
  obtain hstem | hstem := path.stem_eq_or
  · rw [hstem]
    exact hwalk
  · rw [hstem, walk_append, hwalk]
    exact (walk_singleton fs _ "").trans (step_empty hdir)

/-- A path leads to a directory from which a name is reached. -/
theorem leads_of_walk_name (hfit : requireFit path = .ok ()) (hne : path.isEmpty = false)
    (hwalk : fs.walk (origin cwd path) (path.stem ++ [name.text]) = .ok p) :
    fs.Leads cwd path (called cwd path) := by
  rw [walk_append_eq_ok_iff] at hwalk
  obtain ⟨q, hwalk, hstep⟩ := hwalk
  rw [walk_singleton, step_eq_ok_iff, name.ofString?_text] at hstep
  obtain ⟨hdir, ⟨_, -, hlive, -⟩ | ⟨hname, -⟩⟩ := hstep
  · rw [Place.eq_ofLocation hlive] at hwalk hdir
    have hleads := leads_of_walk_stem hfit hne hwalk hdir
    rwa [hleads.called_eq]
  · cases hname

/-- A path that comes to a name in a directory leads to the directory. -/
theorem leads_of_resolve_join (hfit : requireFit path = .ok ()) (hne : path.isEmpty = false)
    (hresolve : fs.resolve cwd (path.join (.ofName name)) = .ok p) :
    fs.Leads cwd path (called cwd path) := by
  obtain ⟨-, -, hwalk⟩ := resolve_eq_ok_iff.1 hresolve
  rw [origin_join_ofName cwd hne, Path.segments_join_ofName] at hwalk
  exact leads_of_walk_name hfit hne hwalk

theorem resolve_of_isDirectory (h : fs.isDirectory cwd path = true) :
    ∃ p, fs.resolve cwd path = .ok p := by
  cases hresolve : fs.resolve cwd path with
  | ok p => exact ⟨p, rfl⟩
  | error e =>
    rw [isDirectory, stat, hresolve] at h
    cases h

theorem leads_of_names_join (hfit : requireFit path = .ok ()) (hne : path.isEmpty = false)
    (hnames : fs.Names cwd (path.join (.ofName name)) l) : fs.Leads cwd path (called cwd path) := by
  obtain ⟨d, last, hparent, -⟩ := hnames
  obtain ⟨-, -, hwalk, hdir, -⟩ := resolveParent_eq_ok_iff.1 hparent
  rw [way_join_ofName, origin_join_ofName cwd hne] at hwalk
  have hleads := leads_of_walk_stem hfit hne hwalk hdir
  rwa [hleads.called_eq]

theorem closing_eq_ok {cleared removed : List Change} {result : Except IoError (List Change)}
    (h : forgiving (closing cleared result) = (.ok (), removed)) :
    (∃ last, result = .ok last ∧ removed = cleared ++ last) ∨
      (result = .error .notFound ∧ removed = cleared) := by
  cases result with
  | ok last =>
    cases h
    exact .inl ⟨last, rfl, rfl⟩
  | error e =>
    by_cases he : e = .notFound
    · subst he
      cases h
      exact .inr ⟨rfl, rfl⟩
    · rw [closing_error he, forgiving_error he] at h
      cases h

/-- What a removal that succeeds was called by is free, if it can still be called. -/
theorem Names.get?_of_removeIfPresent
    (h : Golden.removeIfPresent w.files w.cwd path = (.ok (), changes))
    (hnames : (w.applyAll changes).files.Names (w.applyAll changes).cwd path l) :
    (w.applyAll changes).files.get? l = none := by
  -- The last step has removed the directory by its name, or has not found it.
  have hclosing : ∀ cleared, forgiving (closing cleared ((w.applyAll cleared).files.removeDir
      (w.applyAll cleared).cwd path)) = (.ok (), changes) →
      (w.applyAll changes).files.get? l = none := by
    intro cleared hclosed
    obtain ⟨last, hlast, rfl⟩ | ⟨hlast, rfl⟩ := closing_eq_ok hclosed
    · obtain ⟨m, hm, rfl⟩ := removeDir_eq_ok hlast
      rw [Workspace.applyAll, List.foldl_append] at hnames ⊢
      have hplace : ((w.applyAll cleared).cwd.without m).location = (w.applyAll cleared).cwd.location :=
        Place.location_without _ _
      obtain rfl : m = l := by
        rw [← hm.called_eq, ← hnames.called_eq]
        exact (called_congr hplace path).symm
      change ((w.applyAll cleared).files.erase m).get? m = none
      rw [get?_erase _ hm.ne_nil, if_pos (List.prefix_refl m)]
    · exact hnames.get?_of_removeDir_notFound hlast
  rw [removeIfPresent_eq] at h
  cases hresolve : w.files.resolve w.cwd path with
  | error e =>
    rw [removeDirAll, hresolve] at h
    by_cases he : e = .notFound
    · subst he
      cases h
      exact hnames.get?_of_resolve_notFound hresolve
    · rw [forgiving_error he] at h
      cases h
  | ok place =>
    by_cases hdir : w.files.entryAt? place = some .directory
    · rw [removeDirAll_of_directory hresolve hdir] at h
      split at h
      · exact hclosing [.clear place.base] h
      · exact hclosing [] h
    · rw [removeDirAll, hresolve] at h
      dsimp only at h
      split at h
      · rename_i hentry
        cases h
        rwa [hnames.eq_of_resolve hresolve, entryAt?_ofLocation] at hentry
      · exact absurd ‹_› hdir
      · cases h

end LinkBench.FileSystem
