import LinkBench.Proofs.FileSystem.Moving
import LinkBench.Proofs.Session

/-!
# What blessing leaves behind

Blessing removes the accepted outputs before it moves the fresh ones. A blessing that succeeds has
replaced the whole tree (`Replaced`), however the two paths are written. One that fails has lost what was
accepted (`Emptied`), unless nothing was. What it can fail for is what its two paths lead to: trees have
no access rights, and a whole tree lies on one device.
-/

namespace LinkBench

namespace FileSystem

variable {fs gs : FileSystem} {cwd : Place} {path : Path} {l m p rest : Location}

/-- The second tree is the first one with what stood at `l` in the place of what stood at `m`. -/
structure Replaced (before after : FileSystem) (l m : Location) : Prop where
  present : before.get? l ≠ none
  apart : ¬l <+: m ∧ ¬m <+: l
  moved : ∀ rest, after.get? (m ++ rest) = before.get? (l ++ rest)
  gone : ∀ rest, after.get? (l ++ rest) = none
  kept : ∀ p, ¬l <+: p → ¬m <+: p → after.get? p = before.get? p

/-- The second tree is the first one without what was below `m`, where at most an empty directory is
left. -/
structure Emptied (before after : FileSystem) (m : Location) : Prop where
  top : after.get? m = none ∨ after.get? m = some .directory
  gone : ∀ rest, rest ≠ [] → after.get? (m ++ rest) = none
  kept : ∀ p, ¬m <+: p → after.get? p = before.get? p

theorem children_eq_nil_iff : fs.children m = [] ↔ ∀ rest, rest ≠ [] → fs.get? (m ++ rest) = none := by
  constructor
  · intro hnil rest hrest
    obtain ⟨name, rest, rfl⟩ := List.exists_cons_of_ne_nil hrest
    have hname : fs.get? (m ++ [name]) = none := by
      cases hentry : fs.get? (m ++ [name]) with
      | none => rfl
      | some e => exact absurd (hnil ▸ mem_children.2 hentry) List.not_mem_nil
    exact get?_eq_none_of_below hname ⟨rest, by simp⟩
  · intro h
    refine List.eq_nil_iff_forall_not_mem.2 fun ⟨name, e⟩ hmem => ?_
    rw [mem_children, h [name] (List.cons_ne_nil name [])] at hmem
    cases hmem

theorem clear_of_children_eq_nil (h : fs.children m = []) : fs.clear m = fs := by
  refine ext fun p => ?_
  rw [get?_clear]
  split
  · rename_i hin
    obtain ⟨⟨rest, rfl⟩, hne⟩ := hin
    exact (children_eq_nil_iff.1 h rest (by simpa using hne)).symm
  · rfl

theorem emptied_erase (hne : m ≠ []) : fs.Emptied (fs.erase m) m where
  top := .inl (by rw [get?_erase fs hne, if_pos (List.prefix_refl m)])
  gone rest _ := by rw [get?_erase fs hne, if_pos (List.prefix_append m rest)]
  kept p hp := by rw [get?_erase fs hne, if_neg hp]

theorem emptied_clear (hdir : fs.get? m = some .directory) : fs.Emptied (fs.clear m) m where
  top := .inr (by rw [get?_clear, if_neg fun hin => hin.2 rfl, hdir])
  gone rest hrest := by
    rw [get?_clear, if_pos ⟨List.prefix_append m rest, by simpa using hrest⟩]
  kept p hp := by rw [get?_clear, if_neg fun hin => hp hin.1]

theorem erase_erase (fs : FileSystem) (hne : l ≠ []) : (fs.erase l).erase l = fs.erase l := by
  refine ext fun p => ?_
  rw [get?_erase _ hne, get?_erase fs hne]
  split <;> rfl

theorem erase_of_get?_eq_none (hne : l ≠ []) (hfree : fs.get? l = none) : fs.erase l = fs := by
  refine ext fun p => ?_
  rw [get?_erase fs hne]
  split
  · exact (get?_eq_none_of_below hfree ‹_›).symm
  · rfl

theorem not_prefix_append (hlm : ¬l <+: m) (hml : ¬m <+: l) (rest : Location) : ¬m <+: l ++ rest :=
  fun h => (List.prefix_or_prefix_of_prefix h (List.prefix_append l rest)).elim hml hlm

theorem Movable.replaced (h : (fs.erase m).Movable l m) (hapart : ¬m <+: l)
    (hpresent : fs.get? l ≠ none) : fs.Replaced ((fs.erase m).move l m) l m where
  present := hpresent
  apart := ⟨h.2.2.1, hapart⟩
  moved rest := by
    rw [get?_move h, if_pos (List.prefix_append m rest), rebase, List.drop_left,
      get?_erase fs h.2.1, if_neg (not_prefix_append h.2.2.1 hapart rest)]
  gone rest := by
    rw [get?_move h, if_neg (not_prefix_append h.2.2.1 hapart rest),
      if_pos (List.prefix_append l rest)]
  kept p hl hm := by
    rw [get?_move h, if_neg hm, if_neg hl, get?_erase fs h.2.1, if_neg hm]

theorem Names.get?_dropLast (h : fs.Names cwd path l) :
    fs.get? l.dropLast = some .directory := by
  obtain ⟨d, name, hparent, hname⟩ := h
  obtain ⟨-, -, -, hdir, -⟩ := resolveParent_eq_ok_iff.1 hparent
  obtain ⟨_, hd, -, rfl⟩ := nameIn_eq_ok_iff.1 hname
  cases hd
  rwa [List.dropLast_concat]

theorem not_prefix_of_dropLast (hne : l ≠ m) (h : ¬l <+: m.dropLast) : ¬l <+: m := by
  by_cases hm : m = []
  · rwa [hm] at h ⊢
  · obtain ⟨above, name, rfl⟩ := Place.exists_concat hm
    rw [List.dropLast_concat] at h
    exact fun hpre => (below_or_eq_of_below_concat hpre).elim h hne

/-- A renaming replaces what it finds at its target, so a removal from there does not matter. -/
theorem replaced_of_move {source target : Path} {changes : List Change} {cwd' : Place}
    (herase : gs.erase m = fs.erase m) (hrename : gs.rename cwd' source target = .ok changes)
    (hsource : gs.Names cwd' source l) (htarget : gs.Names cwd' target m) (hdistinct : l ≠ m) :
    fs.Replaced (gs.applyAll changes) l m := by
  have hne := htarget.ne_nil
  obtain ⟨l', m', hl, hm, hpresent, hbelow, habove, hcase⟩ := rename_eq_ok hrename
  cases hl.unique hsource
  cases hm.unique htarget
  obtain ⟨heq, -⟩ | ⟨-, rfl⟩ := hcase
  · exact absurd heq hdistinct
  have hml := not_prefix_of_dropLast hdistinct.symm habove
  have hsame : ∀ p, ¬m <+: p → fs.get? p = gs.get? p := fun p hp => by
    have hp' := congrArg (fun fs => fs.get? p) herase
    simpa [get?_erase _ hne, hp] using hp'.symm
  have hparent : ¬m <+: m.dropLast := fun hpre => by
    have hlength := hpre.length_le
    have hpos := List.length_pos_iff.2 hne
    rw [List.length_dropLast] at hlength
    omega
  have hmovable : (fs.erase m).Movable l m := by
    refine ⟨hsource.ne_nil, hne, not_prefix_of_dropLast hdistinct hbelow, ?_, ?_⟩
    · rw [get?_erase fs hne, if_pos (List.prefix_refl m)]
    · rw [get?_erase fs hne, if_neg hparent, hsame _ hparent, htarget.get?_dropLast]
  change fs.Replaced ((gs.erase m).move l m) l m
  rw [herase]
  exact hmovable.replaced hml (by rwa [hsame l hml])

/-- A renaming onto a free name replaces what would have stood there. -/
theorem replaced_of_rename {source target : Path} {changes : List Change} {cwd' : Place}
    (herase : gs = fs.erase m) (hrename : gs.rename cwd' source target = .ok changes)
    (htarget : gs.Names cwd' target m) :
    ∃ l, gs.Names cwd' source l ∧ fs.Replaced (gs.applyAll changes) l m := by
  subst herase
  have hne := htarget.ne_nil
  obtain ⟨l, m', hl, hm, hpresent, -⟩ := rename_eq_ok hrename
  refine ⟨l, hl, replaced_of_move (erase_erase fs hne) hrename hl htarget ?_⟩
  rintro rfl
  rw [get?_erase fs hne, if_pos (List.prefix_refl l)] at hpresent
  exact hpresent rfl

theorem Leads.unique (hl : fs.Leads cwd path l) (hm : fs.Leads cwd path m) : l = m := by
  have heq := hl.resolve_eq.symm.trans hm.resolve_eq
  cases heq
  rfl

/-- A removal has emptied the directory that the path has led to, if there was one. -/
theorem Removal.emptied {removal : Except IoError Unit × List Change}
    (h : fs.Removal cwd path removal) (hleads : fs.Leads cwd path m) :
    fs.Emptied (fs.applyAll removal.2) m := by
  cases h with
  | nothing result hnone hfree => exact absurd hleads (hnone m)
  | whole l hl hnames =>
    cases hl.unique hleads
    change fs.Emptied ((fs.clear m).erase m) m
    rw [erase_clear fs hnames.ne_nil]
    exact emptied_erase hnames.ne_nil
  | contents l result hl hlost =>
    cases hl.unique hleads
    exact emptied_clear hl.directory

/-- Only an empty directory can be removed without a loss, and then it stays. -/
theorem Removal.files_eq_iff {removal : Except IoError Unit × List Change}
    (h : fs.Removal cwd path removal) : fs.applyAll removal.2 = fs ↔
      ∀ m, fs.Leads cwd path m →
        fs.children m = [] ∧ (fs.applyAll removal.2).get? m = some .directory := by
  constructor
  · intro heq m hleads
    have hemptied := h.emptied hleads
    rw [heq] at hemptied ⊢
    exact ⟨children_eq_nil_iff.2 hemptied.gone, hleads.directory⟩
  · intro hkept
    cases h with
    | nothing result hnone hfree => rfl
    | whole m hleads hnames =>
      have hgone : ((fs.clear m).erase m).get? m = none := by
        rw [get?_erase _ hnames.ne_nil, if_pos (List.prefix_refl m)]
      have hstays := (hkept m hleads).2
      change ((fs.clear m).erase m).get? m = _ at hstays
      rw [hgone] at hstays
      cases hstays
    | contents m result hleads hlost => exact clear_of_children_eq_nil (hkept m hleads).1

/-- What a path names in a tree where something was removed, it has named before. -/
theorem Names.of_erase (hcwd : fs.Anchors cwd) (hm : m ≠ [])
    (h : (fs.erase m).Names (cwd.without m) path l) : fs.Names cwd path l := by
  have hroot : [] ∉ [m] := by simpa using hm.symm
  rw [erase_eq_outside hroot, Place.without_eq_outside hroot] at h
  exact h.of_outside hcwd

end FileSystem

namespace Golden

open FileSystem

variable {σ : Type} {s t : Session σ} {outDir expectedDir path : Path} {e : GoldenError}
  {x y : FileName}

theorem bless_eq_ok (h : bless outDir expectedDir s = (.ok (), t)) :
    ∃ removed moved, removeIfPresent s.files s.cwd expectedDir = (.ok (), removed) ∧
      (s.change removed).files.rename (s.change removed).cwd outDir expectedDir = .ok moved ∧
      t.toWorkspace = (s.toWorkspace.applyAll removed).applyAll moved := by
  obtain ⟨⟨⟩, u, hremove, h⟩ := Action.bind_eq_ok_iff.1 h
  obtain ⟨⟨⟩, v, hrename, h⟩ := Action.bind_eq_ok_iff.1 h
  rw [Action.mapError_eq_ok_iff] at hremove hrename
  obtain ⟨moved, hmoved, rfl⟩ := Action.changing_eq_ok_iff.1 hrename
  obtain ⟨removed, hpair, rfl⟩ := Action.altering_eq_iff.1 hremove
  cases h
  exact ⟨removed, moved, hpair, hmoved, rfl⟩

theorem bless_eq_error (h : bless outDir expectedDir s = (.error e, t)) :
    t = s.change (removeIfPresent s.files s.cwd expectedDir).2 := by
  obtain hremove | ⟨⟨⟩, u, hremove, h⟩ := Action.bind_eq_error_iff.1 h
  · obtain ⟨_, hremove, -⟩ := Action.mapError_eq_error_iff.1 hremove
    obtain ⟨removed, hpair, rfl⟩ := Action.altering_eq_iff.1 hremove
    rw [hpair]
  · obtain ⟨removed, hpair, rfl⟩ := Action.altering_eq_iff.1 (Action.mapError_eq_ok_iff.1 hremove)
    obtain hrename | ⟨_, _, _, hreport⟩ := Action.bind_eq_error_iff.1 h
    · obtain ⟨_, hrename, -⟩ := Action.mapError_eq_error_iff.1 hrename
      rw [hpair, (Action.changing_eq_error_iff.1 hrename).2]
    · cases hreport

/-- What the accepted outputs were has gone when the fresh ones are moved to their place. -/
theorem replaced_of_removal {fs : FileSystem} {cwd : Place} {outDir expectedDir : Path}
    {removed moved : List Change} (hcwd : fs.Anchors cwd)
    (h : fs.Removal cwd expectedDir (.ok (), removed))
    (hrename : (fs.applyAll removed).rename (cwd.afterAll removed) outDir expectedDir = .ok moved) :
    ∃ l m, fs.Names cwd outDir l ∧ fs.Names cwd expectedDir m ∧
      fs.Replaced ((fs.applyAll removed).applyAll moved) l m := by
  obtain ⟨-, m, -, hm, -⟩ := rename_eq_ok hrename
  cases h with
  | nothing _ hnone hfree =>
    have herase : fs = fs.erase m := (erase_of_get?_eq_none hm.ne_nil (hfree rfl m hm)).symm
    obtain ⟨l, hl, hreplaced⟩ := replaced_of_rename herase hrename hm
    exact ⟨l, m, hl, hm, hreplaced⟩
  | whole m' hleads hnames =>
    have hne := hnames.ne_nil
    have hfiles : fs.applyAll [.clear m', .erase m'] = fs.erase m' := erase_clear fs hne
    have hplace : cwd.afterAll [.clear m', .erase m'] = cwd.without m' :=
      Place.without_after_clear hne cwd
    rw [hfiles, hplace] at hm hrename
    rw [hfiles]
    cases (hm.of_erase hcwd hne).unique hnames
    obtain ⟨l, hl, hreplaced⟩ := replaced_of_rename rfl hrename hm
    exact ⟨l, m, hl.of_erase hcwd hne, hnames, hreplaced⟩
  | contents m' _ hleads hlost =>
    -- The path led through what was removed, and nothing can be renamed to it any more.
    exact absurd hm (hlost rfl m)

theorem replaced_of_bless (hcwd : s.files.Anchors s.cwd)
    (h : bless outDir expectedDir s = (.ok (), t)) :
    ∃ l m, s.files.Names s.cwd outDir l ∧ s.files.Names s.cwd expectedDir m ∧
      s.files.Replaced t.files l m := by
  obtain ⟨removed, moved, hremove, hrename, hafter⟩ := bless_eq_ok h
  have hremoval := removal hcwd expectedDir
  rw [hremove] at hremoval
  rw [Session.change, Workspace.files_applyAll, Workspace.cwd_applyAll] at hrename
  rw [hafter, Workspace.files_applyAll, Workspace.files_applyAll]
  exact replaced_of_removal hcwd hremoval hrename

section Removed

variable {w : Workspace} {l : Location} {changes : List Change}
  (h : ∀ change ∈ changes, change = .clear l ∨ change = .erase l)

include h

theorem location_of_removed : (w.applyAll changes).cwd.location = w.cwd.location := by
  induction changes generalizing w with
  | nil => rfl
  | cons change rest ih =>
    obtain ⟨hfirst, hrest⟩ := List.forall_mem_cons.1 h
    have hothers : (w.applyAll (change :: rest)).cwd.location = (w.apply change).cwd.location := ih hrest
    rw [hothers]
    obtain rfl | rfl := hfirst
    · exact Place.location_after_clear _ _
    · exact Place.location_without _ _

theorem erase_of_removed (hne : l ≠ []) : (w.applyAll changes).files.erase l = w.files.erase l := by
  induction changes generalizing w with
  | nil => rfl
  | cons change rest ih =>
    obtain ⟨hfirst, hrest⟩ := List.forall_mem_cons.1 h
    have hothers : (w.applyAll (change :: rest)).files.erase l = (w.apply change).files.erase l := ih hrest
    rw [hothers]
    obtain rfl | rfl := hfirst
    · exact erase_clear w.files hne
    · exact erase_erase w.files hne

end Removed

/-- What blessing goes through: the accepted outputs are removed as far as their path calls them, then the
others are moved from one name of the directory to the other. -/
theorem bless_join_eq_ok (hne : path.isEmpty = false) (hxy : x ≠ y)
    (h : bless (path.join (.ofName x)) (path.join (.ofName y)) s = (.ok (), t)) :
    ∃ removed, removeIfPresent s.files s.cwd (path.join (.ofName y)) = (.ok (), removed) ∧
      (∀ change ∈ removed, change = .clear (called s.cwd path ++ [y]) ∨
        change = .erase (called s.cwd path ++ [y])) ∧
      (s.change removed).files.rename (s.change removed).cwd (path.join (.ofName x)) (path.join (.ofName y)) =
        .ok [.move (called s.cwd path ++ [x]) (called s.cwd path ++ [y])] ∧
      (s.change removed).files.Names (s.change removed).cwd (path.join (.ofName x))
        (called s.cwd path ++ [x]) ∧
      (s.change removed).files.Names (s.change removed).cwd (path.join (.ofName y))
        (called s.cwd path ++ [y]) ∧
      t.toWorkspace = (s.toWorkspace.applyAll removed).apply
        (.move (called s.cwd path ++ [x]) (called s.cwd path ++ [y])) := by
  obtain ⟨removed, moved, hremove, hrename, hafter⟩ := bless_eq_ok h
  have hremoved : ∀ change ∈ removed, change = .clear (called s.cwd path ++ [y]) ∨
      change = .erase (called s.cwd path ++ [y]) := by
    intro change hchange
    rw [← called_join hne]
    exact mem_removeIfPresent (by rwa [hremove])
  have hcalled : called (s.change removed).cwd path = called s.cwd path :=
    called_congr (location_of_removed hremoved) path
  obtain ⟨l, m, hl, hm, -⟩ := rename_eq_ok hrename
  cases hl.called_eq.symm.trans (called_join hne _ x)
  cases hm.called_eq.symm.trans (called_join hne _ y)
  rw [hcalled] at hl hm
  have hmoved := eq_move_of_rename hrename hl hm (by simpa using hxy)
  subst hmoved
  exact ⟨removed, hremove, hremoved, hrename, hl, hm, hafter⟩

/-- Blessing replaces what one name of a directory stands for by what the other does, wherever the path of
the directory leads. -/
theorem replaced_of_bless_join (hne : path.isEmpty = false) (hxy : x ≠ y)
    (h : bless (path.join (.ofName x)) (path.join (.ofName y)) s = (.ok (), t)) :
    s.files.Replaced t.files (called s.cwd path ++ [x]) (called s.cwd path ++ [y]) := by
  obtain ⟨removed, -, hremoved, hrename, hl, hm, hafter⟩ := bless_join_eq_ok hne hxy h
  rw [hafter]
  exact replaced_of_move (erase_of_removed hremoved (by simp)) hrename hl hm (by simpa using hxy)

/-- Behind a blessing, a path that avoids what was moved leads to the directory that it calls. -/
theorem leads_of_bless_join (hfit : requireFit path = .ok ()) (hne : path.isEmpty = false) (hxy : x ≠ y)
    {hx : [] ∉ [called s.cwd path ++ [x]]}
    (havoids : Avoids (.below [called s.cwd path ++ [x]] hx) s.cwd path)
    (h : bless (path.join (.ofName x)) (path.join (.ofName y)) s = (.ok (), t)) :
    t.files.Leads t.cwd path (called s.cwd path) ∧
      (origin t.cwd path).location = (origin s.cwd path).location := by
  obtain ⟨removed, hremove, hremoved, -, hl, hm, hafter⟩ := bless_join_eq_ok hne hxy h
  have hlocation : (s.change removed).cwd.location = s.cwd.location := location_of_removed hremoved
  have horigin := origin_location_congr hlocation path
  have hleads := leads_of_names_join hfit hne hl
  rw [called_congr hlocation] at hleads
  have hfree : (s.change removed).files.get? (called s.cwd path ++ [y]) = none :=
    hm.get?_of_removeIfPresent hremove
  rw [hafter]
  refine ⟨hleads.of_move hx (by simp) (havoids.congr horigin) hfree, ?_⟩
  rw [← horigin]
  exact location_origin_after_move hx (havoids.congr horigin)

/-- **Blessing replaces or loses.** A blessing that succeeds has put the whole tree of fresh outputs in
the place of the accepted ones, and nothing else has changed. One that fails has emptied the directory of
the accepted outputs, whatever the reason: the tree is as it was only if there was no such directory, or
an empty one that is still there. -/
theorem bless_replaces_or_empties (outDir expectedDir : Path) (hcwd : s.files.Anchors s.cwd) :
    match bless outDir expectedDir s with
    | (.ok (), t) => ∃ l m, s.files.Names s.cwd outDir l ∧ s.files.Names s.cwd expectedDir m ∧
        s.files.Replaced t.files l m
    | (.error _, t) => (∀ m, s.files.Leads s.cwd expectedDir m → s.files.Emptied t.files m) ∧
        (t.files = s.files ↔ ∀ m, s.files.Leads s.cwd expectedDir m →
          s.files.children m = [] ∧ t.files.get? m = some .directory) := by
  split
  · exact replaced_of_bless hcwd ‹_›
  · rename_i e t h
    have hremoval := removal hcwd expectedDir
    have hfiles : t.files = s.files.applyAll (removeIfPresent s.files s.cwd expectedDir).2 := by
      rw [bless_eq_error h]
      exact Workspace.files_applyAll _ _
    rw [hfiles]
    exact ⟨fun m hleads => hremoval.emptied hleads, hremoval.files_eq_iff⟩

/-- Fresh outputs `_out` next to accepted ones that hold another file. -/
theorem bless_replaces_of_fresh_outputs :
    let files := (((FileSystem.empty.put [⟨"_out", by decide⟩] .directory).put
      [⟨"_out", by decide⟩, ⟨"a", by decide⟩] (.file [1] false)).put
      [⟨"expected", by decide⟩] .directory).put
      [⟨"expected", by decide⟩, ⟨"b", by decide⟩] (.file [2] false)
    let s : Session Unit := .start ⟨files, .root⟩ ()
    s.files.Anchors s.cwd ∧ ∃ t l m, bless (.ofString "_out") (.ofString "expected") s = (.ok (), t) ∧
      s.files.Replaced t.files l m := by
  intro files s
  have hcwd : s.files.Anchors s.cwd := anchors_root files
  have h := bless_replaces_or_empties (.ofString "_out") (.ofString "expected") hcwd
  have hok : (bless (.ofString "_out") (.ofString "expected") s).1 = .ok () := by rfl
  cases hrun : bless (.ofString "_out") (.ofString "expected") s with
  | mk result t =>
    rw [hrun] at h hok
    cases hok
    obtain ⟨l, m, -, -, hreplaced⟩ := h
    exact ⟨hcwd, t, l, m, rfl, hreplaced⟩

/-- **Lost outputs.** Accepted outputs without fresh ones: blessing fails, and they have gone. -/
theorem bless_loses_accepted_outputs :
    let accepted : Location := [⟨"expected", by decide⟩, ⟨"a", by decide⟩]
    let files := (FileSystem.empty.put [⟨"expected", by decide⟩] .directory).put accepted
      (.file [0] false)
    let s : Session Unit := .start ⟨files, .root⟩ ()
    let run := bless (.ofString "_out") (.ofString "expected") s
    run.1 = .error (.io (.ofString "_out") .notFound) ∧
      s.files.get? accepted = some (.file [0] false) ∧ run.2.files.get? accepted = none :=
  ⟨rfl, rfl, rfl⟩

end Golden

end LinkBench
