import LinkBench.Proofs.FileSystem.Removal

/-!
# Directories that are reached without a region

`Workspace.Reaches z w path d` says that a path leads to the directory `d` without the help of what lies
in the region `z`. No change in the region affects that, so what is done to a name in `d` that the
region holds can be told from what stands there.
-/

namespace LinkBench

variable {z : Region} {w w' : Workspace} {path : Path} {d l m : Location} {name : FileName}
  {changes : List Change}

/-- Nothing outside the region is changed. -/
def Change.Within (z : Region) : Change → Prop
  | .put l _ => z.holds l = true
  | .erase l => z.holds l = true
  | .clear l => z.holds l = true
  | _ => False

namespace Workspace

/-- The path leads to the directory without the help of the region, and the working directory hangs on
the tree. -/
structure Reaches (z : Region) (w : Workspace) (path : Path) (d : Location) : Prop where
  anchored : w.files.Anchors w.cwd
  leads : (w.files.outside z).Leads (w.cwd.outside z) path d

theorem Reaches.leads_tree (h : w.Reaches z path d) : w.files.Leads w.cwd path d :=
  h.leads.of_outside h.anchored

/-- Nothing but what lies in the region tells the two workspaces apart. -/
structure SameOutside (z : Region) (w w' : Workspace) : Prop where
  files : w'.files.outside z = w.files.outside z
  cwd : w'.cwd.outside z = w.cwd.outside z

theorem SameOutside.refl (z : Region) (w : Workspace) : SameOutside z w w := ⟨rfl, rfl⟩

theorem SameOutside.symm (h : SameOutside z w w') : SameOutside z w' w :=
  ⟨h.files.symm, h.cwd.symm⟩

theorem SameOutside.trans {w'' : Workspace} (h : SameOutside z w w') (h' : SameOutside z w' w'') :
    SameOutside z w w'' :=
  ⟨h'.files.trans h.files, h'.cwd.trans h.cwd⟩

theorem Reaches.of_sameOutside (h : w.Reaches z path d) (hsame : SameOutside z w w')
    (hanchored : w'.files.Anchors w'.cwd) : w'.Reaches z path d :=
  ⟨hanchored, by rw [hsame.files, hsame.cwd]; exact h.leads⟩

theorem sameOutside_apply {c : Change} (hc : c.Within z) : SameOutside z w (w.apply c) := by
  cases c with
  | put l e => exact ⟨FileSystem.outside_put hc e, rfl⟩
  | erase l => exact ⟨FileSystem.outside_erase hc, Place.outside_without hc w.cwd⟩
  | clear l => exact ⟨FileSystem.outside_clear hc, Place.outside_after_clear hc w.cwd⟩
  | move source target => exact hc.elim

theorem anchors_apply {c : Change} (hc : c.Within z) (h : w.files.Anchors w.cwd) :
    (w.apply c).files.Anchors (w.apply c).cwd := by
  cases c with
  | put l e => exact h.put l e
  | erase l => exact h.without (Region.ne_nil_of_holds hc)
  | clear l => exact h.clear l
  | move source target => exact hc.elim

theorem sameOutside_applyAll (hc : ∀ c ∈ changes, c.Within z) :
    SameOutside z w (w.applyAll changes) := by
  induction changes generalizing w with
  | nil => exact .refl z w
  | cons c changes ih =>
    obtain ⟨hfirst, hrest⟩ := List.forall_mem_cons.1 hc
    exact (sameOutside_apply hfirst).trans (ih hrest)

theorem anchors_applyAll (hc : ∀ c ∈ changes, c.Within z) (h : w.files.Anchors w.cwd) :
    (w.applyAll changes).files.Anchors (w.applyAll changes).cwd := by
  induction changes generalizing w with
  | nil => exact h
  | cons c changes ih =>
    obtain ⟨hfirst, hrest⟩ := List.forall_mem_cons.1 hc
    exact ih hrest (anchors_apply hfirst h)

theorem Reaches.applyAll (h : w.Reaches z path d) (hc : ∀ c ∈ changes, c.Within z) :
    (w.applyAll changes).Reaches z path d :=
  h.of_sameOutside (sameOutside_applyAll hc) (anchors_applyAll hc h.anchored)

end Workspace

/-! ### A name in the directory -/

namespace FileSystem

section Name

variable (h : w.Reaches z path d) (hz : z.holds (d ++ [name]) = true)
  (hfit : requireFit (path.join (.ofName name)) = .ok ()) (hshort : name.isTooLong = false)

include h hfit hshort

theorem names_join : w.files.Names w.cwd (path.join (.ofName name)) (d ++ [name]) :=
  ⟨d, name, h.leads_tree.resolveParent_join hfit, nameIn_ofLocation d hshort⟩

include hz in
/-- An empty directory is left in order to be removed. -/
theorem removeDir_cleared (hdir : w.files.get? (d ++ [name]) = some .directory) :
    (w.files.clear (d ++ [name])).removeDir (w.cwd.after (.clear (d ++ [name])))
      (path.join (.ofName name)) = .ok [.erase (d ++ [name])] := by
  have hreaches : (w.applyAll [.clear (d ++ [name])]).Reaches z path d :=
    h.applyAll (List.forall_mem_singleton.2 hz)
  have hnames := names_join hreaches hfit hshort
  change (w.files.clear (d ++ [name])).Names (w.cwd.after (.clear (d ++ [name]))) _ _ at hnames
  have hempty : (w.files.clear (d ++ [name])).children (d ++ [name]) = [] := by
    refine List.eq_nil_iff_forall_not_mem.2 fun ⟨other, e⟩ hmem => ?_
    rw [mem_children, get?_clear, if_pos ⟨List.prefix_append _ _, by simp⟩] at hmem
    cases hmem
  rw [hnames.removeDir_eq, get?_clear, if_neg fun hin => hin.2 rfl, hdir]
  exact if_pos hempty

include hz in
/-- What is removed by a name in the directory is told from what stands there. -/
theorem removeIfPresent_join :
    Golden.removeIfPresent w.files w.cwd (path.join (.ofName name)) =
      match w.files.get? (d ++ [name]) with
      | none => (.ok (), [])
      | some .directory => (.ok (), [.clear (d ++ [name]), .erase (d ++ [name])])
      | some _ => (.error .notADirectory, []) := by
  have hresolve := h.leads_tree.resolve_join hfit hshort
  rw [removeIfPresent_eq]
  by_cases hdir : w.files.get? (d ++ [name]) = some .directory
  · rw [hdir, removeDirAll_of_directory hresolve hdir]
    change forgiving (closing [.clear (d ++ [name])] ((w.files.clear (d ++ [name])).removeDir
      (w.cwd.after (.clear (d ++ [name]))) (path.join (.ofName name)))) = _
    rw [removeDir_cleared h hz hfit hshort hdir]
    rfl
  · rw [removeDirAll, hresolve]
    dsimp only [entryAt?_ofLocation]
    cases hentry : w.files.get? (d ++ [name]) with
    | none => rfl
    | some e =>
      cases e with
      | directory => exact absurd hentry hdir
      | file bytes executable => rfl
      | device device => rfl

end Name

end FileSystem

end LinkBench
