import LinkBench.Golden
import LinkBench.Proofs.FileSystem.Region

/-!
# Removing and renaming

A directory is removed after what is below it. If its path led through that, the path leads nowhere by
then, and the directory stays as an empty one. `Removal` says how a removal can end and how much of the
tree it has taken away. Where a path leads to a directory without the help of what is removed, there is
no such end (`Reaches.removeIfPresent_join`).
-/

namespace LinkBench

namespace FileSystem

variable {fs : FileSystem} {cwd p : Place} {path source target : Path} {l m : Location}
  {e : IoError} {changes : List Change}

/-! ### Removing by any path -/

theorem names_of_nameIn {name : FileName} (hparent : fs.resolveParent cwd path = .ok (p, .name name))
    (hname : nameIn p name = .ok l) : fs.Names cwd path l := by
  obtain ⟨d, rfl, -, -⟩ := nameIn_eq_ok_iff.1 hname
  exact ⟨d, name, hparent, hname⟩

theorem removeDir_eq_ok (h : fs.removeDir cwd path = .ok changes) :
    ∃ l, fs.Names cwd path l ∧ changes = [.erase l] := by
  unfold removeDir at h
  obtain ⟨⟨parent, last⟩, hparent, h⟩ := bind_eq_ok_iff.1 h
  cases last with
  | name name =>
    obtain ⟨l, hl, h⟩ := bind_eq_ok_iff.1 h
    refine ⟨l, names_of_nameIn hparent hl, ?_⟩
    split at h
    · cases h
    · split at h
      · exact (Except.ok.inj h).symm
      · cases h
    · cases h
  | dot => cases h
  | dotDot => cases h
  | root => cases h

theorem Names.removeDir_eq (h : fs.Names cwd path l) : fs.removeDir cwd path =
    match fs.get? l with
    | none => .error .notFound
    | some .directory => if fs.children l = [] then .ok [.erase l] else .error .directoryNotEmpty
    | some _ => .error .notADirectory := by
  obtain ⟨d, name, hparent, hname⟩ := h
  rw [removeDir, hparent]
  change Except.bind (nameIn _ name) _ = _
  rw [hname]
  rfl

theorem Names.get?_of_removeDir_notFound (h : fs.Names cwd path l)
    (hremove : fs.removeDir cwd path = .error .notFound) : fs.get? l = none := by
  rw [h.removeDir_eq] at hremove
  split at hremove
  · assumption
  · split at hremove <;> cases hremove
  · cases hremove

/-- Blanks behind a directory lead to it again. -/
theorem walk_replicate_empty (hdir : fs.entryAt? p = some .directory) (n : Nat) :
    fs.walk p (List.replicate n "") = .ok p := by
  induction n with
  | zero => rfl
  | succ n ih =>
    rw [List.replicate_succ, walk_cons, step_empty hdir]
    exact ih

theorem Names.get?_of_resolve_notFound (h : fs.Names cwd path l)
    (hresolve : fs.resolve cwd path = .error .notFound) : fs.get? l = none := by
  obtain ⟨d, name, hparent, hname⟩ := h
  obtain ⟨hfit, hempty, hwalk, hdir, hending⟩ := resolveParent_eq_ok_iff.1 hparent
  obtain ⟨d', hd, hshort, rfl⟩ := nameIn_eq_ok_iff.1 hname
  cases hd
  obtain ⟨n, hsegments⟩ := segments_of_ending_name hending
  have hblanks : fs.walk (.ofLocation (d ++ [name])) (List.replicate n "") = .error .notFound := by
    rw [resolve_of_fit fs cwd hfit hempty, hsegments, walk_append, hwalk] at hresolve
    change fs.walk (.ofLocation d) (name.text :: List.replicate n "") = _ at hresolve
    rwa [walk_cons, step_name (l := d) hdir hshort] at hresolve
  cases hentry : fs.get? (d ++ [name]) with
  | none => rfl
  | some entry =>
    cases n with
    | zero => cases hblanks
    | succ n =>
      cases entry with
      | directory =>
        rw [walk_replicate_empty (by rwa [entryAt?_ofLocation])] at hblanks
        cases hblanks
      | file bytes executable =>
        rw [List.replicate_succ, walk_cons, step, entryAt?_ofLocation, hentry] at hblanks
        cases hblanks
      | device d =>
        rw [List.replicate_succ, walk_cons, step, entryAt?_ofLocation, hentry] at hblanks
        cases hblanks

/-- How it ends to remove the directory that a path leads to. -/
inductive Removal (fs : FileSystem) (cwd : Place) (path : Path) :
    Except IoError Unit × List Change → Prop
  /-- The path leads to no directory, and nothing is removed. -/
  | nothing (result : Except IoError Unit) (hnone : ∀ m, ¬fs.Leads cwd path m)
      (hfree : result = .ok () → ∀ l, fs.Names cwd path l → fs.get? l = none) :
      Removal fs cwd path (result, [])
  | whole (m : Location) (hleads : fs.Leads cwd path m) (hnames : fs.Names cwd path m) :
      Removal fs cwd path (.ok (), [.clear m, .erase m])
  /-- The directory is emptied, but the path does not call it by its name then. -/
  | contents (m : Location) (result : Except IoError Unit) (hleads : fs.Leads cwd path m)
      (hlost : result = .ok () → ∀ l, ¬(fs.clear m).Names (cwd.after (.clear m)) path l) :
      Removal fs cwd path (result, [.clear m])

theorem leads_of_resolve (hresolve : fs.resolve cwd path = .ok p) (hlive : p.isLive = true)
    (hdir : fs.entryAt? p = some .directory) : fs.Leads cwd path p.base := by
  obtain ⟨base, lost⟩ := p
  cases lost with
  | nil => exact leads_iff.2 ⟨hresolve, hdir⟩
  | cons name lost => cases hlive

/-- What a path names in an emptied directory, it has named in the tree before. -/
theorem Names.of_clear (hcwd : fs.Anchors cwd)
    (h : (fs.clear m).Names (cwd.after (.clear m)) path l) : fs.Names cwd path l := by
  rw [clear_eq_outside, Place.after_clear_eq_outside] at h
  exact h.of_outside hcwd

/-- What could not be found counts as removed. -/
def forgiving (removed : Except IoError Unit × List Change) : Except IoError Unit × List Change :=
  match removed with
  | (.error .notFound, changes) => (.ok (), changes)
  | other => other

theorem removeIfPresent_eq (fs : FileSystem) (cwd : Place) (path : Path) :
    Golden.removeIfPresent fs cwd path = forgiving (fs.removeDirAll cwd path) := rfl

theorem forgiving_error (he : e ≠ .notFound) (changes : List Change) :
    forgiving (.error e, changes) = (.error e, changes) := by
  cases e <;> first | rfl | exact absurd rfl he

/-- A removal that has failed without a change was a removal of nothing. -/
theorem Removal.of_error (hnone : ∀ m, ¬fs.Leads cwd path m)
    (hfree : e = .notFound → ∀ l, fs.Names cwd path l → fs.get? l = none) :
    fs.Removal cwd path (forgiving (.error e, [])) := by
  by_cases he : e = .notFound
  · rw [he]
    exact .nothing _ hnone fun _ => hfree he
  · rw [forgiving_error he]
    exact .nothing _ hnone nofun

/-- What comes of a removal when the directory, emptied by `cleared`, has been removed or not. -/
def closing (cleared : List Change) :
    Except IoError (List Change) → Except IoError Unit × List Change
  | .ok removed => (.ok (), cleared ++ removed)
  | .error .notFound => (.ok (), cleared)
  | .error e => (.error e, cleared)

theorem closing_error (he : e ≠ .notFound) (cleared : List Change) :
    closing cleared (.error e) = (.error e, cleared) := by
  cases e <;> first | rfl | exact absurd rfl he

theorem removeDirAll_of_directory (hresolve : fs.resolve cwd path = .ok p)
    (hdir : fs.entryAt? p = some .directory) :
    fs.removeDirAll cwd path =
      if p.isLive then
        closing [.clear p.base] ((fs.clear p.base).removeDir (cwd.after (.clear p.base)) path)
      else closing [] (fs.removeDir cwd path) := by
  rw [removeDirAll, hresolve]
  simp only [hdir]
  cases p.isLive <;> rfl

/-- The second part of a removal, after the contents of the directory. -/
theorem Removal.of_cleared (hcwd : fs.Anchors cwd) (hleads : fs.Leads cwd path m) :
    fs.Removal cwd path (forgiving
      (closing [.clear m] ((fs.clear m).removeDir (cwd.after (.clear m)) path))) := by
  cases hremove : (fs.clear m).removeDir (cwd.after (.clear m)) path with
  | ok removed =>
    obtain ⟨l, hnames, rfl⟩ := removeDir_eq_ok hremove
    have hbefore := hnames.of_clear hcwd
    cases hbefore.eq_of_resolve hleads.resolve_eq
    exact .whole m hleads hbefore
  | error e =>
    by_cases he : e = .notFound
    · rw [he] at hremove ⊢
      refine .contents m _ hleads fun _ l hnames => ?_
      -- The emptied directory is still there, so its name would have been found.
      cases (hnames.of_clear hcwd).eq_of_resolve hleads.resolve_eq
      have hgone := hnames.get?_of_removeDir_notFound hremove
      rw [get?_clear, if_neg fun hin => hin.2 rfl, hleads.directory] at hgone
      cases hgone
    · rw [closing_error he, forgiving_error he]
      exact .contents m _ hleads nofun

/-- A directory that has been removed before cannot be removed again. -/
theorem Removal.of_lost (hresolve : fs.resolve cwd path = .ok p) (hlost : p.isLive = false) :
    fs.Removal cwd path (forgiving (closing [] (fs.removeDir cwd path))) := by
  have hnames : ∀ l, ¬fs.Names cwd path l := fun l hnames => by
    rw [hnames.eq_of_resolve hresolve] at hlost
    cases hlost
  have hnone : ∀ m, ¬fs.Leads cwd path m := fun m hleads => by
    rw [hleads.resolve_eq] at hresolve
    cases hresolve
    cases hlost
  cases hremove : fs.removeDir cwd path with
  | ok removed =>
    obtain ⟨l, hl, -⟩ := removeDir_eq_ok hremove
    exact absurd hl (hnames l)
  | error e =>
    by_cases he : e = .notFound
    · rw [he]
      exact .nothing _ hnone fun _ l hl => absurd hl (hnames l)
    · rw [closing_error he, forgiving_error he]
      exact .nothing _ hnone nofun

theorem removal (hcwd : fs.Anchors cwd) (path : Path) :
    fs.Removal cwd path (Golden.removeIfPresent fs cwd path) := by
  rw [removeIfPresent_eq]
  cases hresolve : fs.resolve cwd path with
  | error e =>
    have hnone : ∀ m, ¬fs.Leads cwd path m := fun m hleads => by
      rw [hleads.resolve_eq] at hresolve
      cases hresolve
    rw [removeDirAll, hresolve]
    exact .of_error hnone fun he l hnames => hnames.get?_of_resolve_notFound (he ▸ hresolve)
  | ok place =>
    have hdirectory : ∀ m, fs.Leads cwd path m → fs.entryAt? place = some .directory :=
      fun m hleads => by
        rw [hleads.resolve_eq] at hresolve
        cases hresolve
        exact hleads.directory
    by_cases hdir : fs.entryAt? place = some .directory
    · rw [removeDirAll_of_directory hresolve hdir]
      cases hlive : place.isLive with
      | true => exact .of_cleared hcwd (leads_of_resolve hresolve hlive hdir)
      | false => exact .of_lost hresolve hlive
    · have hnone : ∀ m, ¬fs.Leads cwd path m := fun m hleads => hdir (hdirectory m hleads)
      rw [removeDirAll, hresolve]
      dsimp only
      split
      · rename_i hentry
        refine .of_error hnone fun _ l hnames => ?_
        rwa [hnames.eq_of_resolve hresolve, entryAt?_ofLocation] at hentry
      · exact absurd ‹_› hdir
      · exact .of_error hnone nofun

/-! ### Renaming -/

theorem Names.unique (hl : fs.Names cwd path l) (hm : fs.Names cwd path m) : l = m := by
  obtain ⟨d, name, hparent, hname⟩ := hl
  obtain ⟨d', name', hparent', hname'⟩ := hm
  rw [hparent] at hparent'
  cases hparent'
  rw [hname] at hname'
  exact Except.ok.inj hname'

/-- What a renaming that succeeds has found: an entry by its name, and another name for it, of which
neither is below the other. -/
theorem rename_eq_ok (h : fs.rename cwd source target = .ok changes) :
    ∃ l m, fs.Names cwd source l ∧ fs.Names cwd target m ∧ fs.get? l ≠ none ∧
      ¬l <+: m.dropLast ∧ ¬m <+: l.dropLast ∧
      (l = m ∧ changes = [] ∨ l ≠ m ∧ changes = [.move l m]) := by
  unfold rename at h
  split at h
  · cases h
  obtain ⟨⟨sourceParent, sourceEnding⟩, hsource, h⟩ := bind_eq_ok_iff.1 h
  obtain ⟨⟨targetParent, targetEnding⟩, htarget, h⟩ := bind_eq_ok_iff.1 h
  dsimp only at h
  split at h
  · rename_i sourceName targetName
    obtain ⟨l, hl, h⟩ := bind_eq_ok_iff.1 h
    cases hentry : fs.get? l with
    | none =>
      rw [hentry] at h
      cases h
    | some e =>
      rw [hentry] at h
      dsimp only at h
      obtain ⟨m, hm, h⟩ := bind_eq_ok_iff.1 h
      have hnamesSource := names_of_nameIn hsource hl
      have hnamesTarget := names_of_nameIn htarget hm
      obtain ⟨_, rfl, -, rfl⟩ := nameIn_eq_ok_iff.1 hl
      obtain ⟨_, rfl, -, rfl⟩ := nameIn_eq_ok_iff.1 hm
      refine ⟨_, _, hnamesSource, hnamesTarget, by rw [hentry]; exact Option.some_ne_none e, ?_⟩
      rw [List.dropLast_concat, List.dropLast_concat]
      split at h
      · cases h
      split at h
      · cases h
      rename_i hbelow
      split at h
      · cases h
      rename_i habove
      refine ⟨hbelow, habove, ?_⟩
      split at h
      · cases h
        exact .inl ⟨‹_›, rfl⟩
      · refine .inr ⟨‹_›, ?_⟩
        split at h
        · exact (Except.ok.inj h).symm
        · split at h
          · exact (Except.ok.inj h).symm
          · cases h
        · cases h
        · cases h
        · exact (Except.ok.inj h).symm
  · cases h

/-- A renaming to another location is one move. -/
theorem eq_move_of_rename (h : fs.rename cwd source target = .ok changes)
    (hl : fs.Names cwd source l) (hm : fs.Names cwd target m) (hne : l ≠ m) :
    changes = [.move l m] := by
  obtain ⟨l', m', hl', hm', -, -, -, hcase⟩ := rename_eq_ok h
  cases hl.unique hl'
  cases hm.unique hm'
  obtain ⟨heq, -⟩ | ⟨-, hmoved⟩ := hcase
  · exact absurd heq hne
  · exact hmoved

end FileSystem

end LinkBench
