import LinkBench.Proofs.FileSystem.Location
import LinkBench.Proofs.TestCase.Rerun

/-!
# What a case leaves alone

A case works in its scratch directories and, when it is blessed, on its accepted outputs. How the path of
the case directory is written does not matter: it may lead through what the case removes. Then the case
can fail to find its directory, but it never finds another one, as it could in a tree with links.
-/

namespace LinkBench.TestCase

variable {σ : Type} {c : TestCase} {config : Config} {samples : Sample.Inputs} {invoker : Invoker σ}
  {z : Region} {d : Location} {path : Path} {w w₀ : Workspace} {s t : Session σ} {name : FileName}
  {result : Except Failure Outcome} {e : Failure} {outcome : Outcome}

theorem not_holds_scratch_self (d : Location) : (scratchRegion d).holds d = false := by
  rw [Bool.eq_false_iff, Ne, holds_scratchRegion, not_or]
  exact ⟨FileSystem.not_concat_below, FileSystem.not_concat_below⟩

/-! ### Scratch directories -/

theorem workspace_discard (s : Session σ) (dir : Path) : (discard s dir).toWorkspace =
    s.toWorkspace.applyAll (Golden.removeIfPresent s.files s.cwd dir).2 := by
  unfold discard
  split
  · rename_i changes hremove
    rw [hremove]
    rfl
  · rename_i e changes hremove
    rw [hremove]
    rfl

section Reached

variable (hleads : w₀.files.Leads w₀.cwd path d) (hz : z.holds (d ++ [name]) = true)

include hleads hz

/-- Whatever has become of a scratch directory, making it anew changes nothing else. -/
theorem renew_keeps (hd : z.holds d = false) :
    (renew (path.join (.ofName name)) : Action σ Failure Unit).Keeps (Workspace.SameOutside z w₀) := by
  refine .bind (.mapError (.altering fun w hw => ?_) _) fun _ =>
    .mapError (.altering fun w hw => ?_) _
  · exact hw.trans (Workspace.sameOutside_applyAll (FileSystem.removeIfPresent_within (by
      rwa [hleads.called_join (Place.location_eq_of_outside hw.cwd)])))
  · exact hw.trans (Workspace.sameOutside_applyAll (FileSystem.createDirAll_within hleads hw.files
      hw.cwd hd hz))

theorem discard_sameOutside (hcwd : s.cwd.location = w₀.cwd.location) :
    Workspace.SameOutside z s.toWorkspace
      (discard s (path.join (.ofName name))).toWorkspace := by
  rw [workspace_discard]
  exact Workspace.sameOutside_applyAll (FileSystem.removeIfPresent_within (by
    rwa [hleads.called_join hcwd]))

end Reached

section Case

variable (hleads : w₀.files.Leads w₀.cwd (c.home config) d)

include hleads

theorem prepare_keeps : ((c.scratch config).forM renew : Action σ Failure Unit).Keeps
    (Workspace.SameOutside (scratchRegion d) w₀) := by
  rw [scratch_eq]
  refine .forM fun dir hdir => ?_
  simp only [List.mem_cons, List.not_mem_nil, or_false] at hdir
  obtain rfl | rfl := hdir
  · exact renew_keeps hleads (holds_scratchRegion.2 (.inl (List.prefix_refl _)))
      (not_holds_scratch_self d)
  · exact renew_keeps hleads (holds_scratchRegion.2 (.inr (List.prefix_refl _)))
      (not_holds_scratch_self d)

theorem cleanUp_sameOutside (hcwd : s.cwd.location = w₀.cwd.location) :
    Workspace.SameOutside (scratchRegion d) s.toWorkspace (c.cleanUp config s).toWorkspace := by
  rw [cleanUp]
  split
  · exact .refl _ _
  · rw [scratch_eq]
    have hbin := discard_sameOutside (s := s) hleads
      (holds_scratchRegion.2 (.inl (List.prefix_refl _))) hcwd
    have hnext := (Place.location_eq_of_outside hbin.cwd).trans hcwd
    exact hbin.trans (discard_sameOutside hleads
      (holds_scratchRegion.2 (.inr (List.prefix_refl _))) hnext)

theorem prepare_sameOutside {result : Except Failure Unit}
    (h : (c.scratch config).forM renew s = (result, t)) (hstart : s.toWorkspace = w₀) :
    Workspace.SameOutside (scratchRegion d) w₀ t.toWorkspace := by
  refine (prepare_keeps hleads).of_eq ?_ h
  rw [hstart]
  exact .refl _ _

/-! ### The judgement -/

omit hleads in
theorem judge_keeps {I : Workspace → Prop} (hmode : config.mode = .verify) :
    (c.judge config : Action σ Failure Outcome).Keeps I := by
  unfold judge
  rw [hmode]
  exact .bind (.mapError (verify_keeps _ _) _) fun files => .bind (.report _) fun _ => .pure _

/-- Blessing removes by one name and renames to it, and both are names of the case directory. -/
theorem bless_outside {result : Except GoldenError Unit} (hcwd : s.cwd.location = w₀.cwd.location)
    (h : Golden.bless ((c.home config).join (.ofName outName))
      ((c.home config).join (.ofName expectedName)) s = (result, t)) :
    t.files.outside (workRegion d) = s.files.outside (workRegion d) ∧
      ∀ e, result = .error e → t.cwd.location = s.cwd.location := by
  have howns := owns_workRegion d
  have hsame : Workspace.SameOutside (workRegion d) s.toWorkspace (s.toWorkspace.applyAll
      (Golden.removeIfPresent s.files s.cwd ((c.home config).join (.ofName expectedName))).2) :=
    Workspace.sameOutside_applyAll (FileSystem.removeIfPresent_within (by
      rw [hleads.called_join hcwd]
      exact howns.expected))
  have hlocation := Place.location_eq_of_outside hsame.cwd
  cases result with
  | error e =>
    rw [Golden.bless_eq_error h]
    exact ⟨hsame.files, fun _ _ => hlocation⟩
  | ok u =>
    refine ⟨?_, nofun⟩
    obtain ⟨removed, hremove, -, -, -, -, hafter⟩ := Golden.bless_join_eq_ok hleads.nonempty (by decide) h
    rw [hremove] at hsame
    rw [hafter, FileSystem.called_congr hcwd, hleads.called_eq]
    exact (FileSystem.outside_move howns.out howns.expected).trans hsame.files

theorem judge_outside (hcwd : s.cwd.location = w₀.cwd.location)
    (h : c.judge config s = (result, t)) :
    t.files.outside (workRegion d) = s.files.outside (workRegion d) ∧
      ∀ e, result = .error e → t.cwd.location = s.cwd.location := by
  cases hmode : config.mode with
  | verify =>
    have hkept := (judge_keeps (c := c) (σ := σ) (I := fun w => w.files = s.files ∧ w.cwd = s.cwd)
      hmode).of_eq ⟨rfl, rfl⟩ h
    rw [hkept.1, hkept.2]
    exact ⟨rfl, fun _ _ => rfl⟩
  | bless =>
    unfold judge at h
    rw [hmode, join_outDir, join_expectedDir] at h
    cases result with
    | ok outcome =>
      obtain ⟨_, u, hbless, hreturn⟩ := Action.bind_eq_ok_iff.1 h
      cases hreturn
      obtain ⟨hfiles, -⟩ := bless_outside hleads hcwd (Action.mapError_eq_ok_iff.1 hbless)
      exact ⟨hfiles, nofun⟩
    | error e =>
      obtain hbless | ⟨_, _, _, hreturn⟩ := Action.bind_eq_error_iff.1 h
      · obtain ⟨_, hbless, -⟩ := Action.mapError_eq_error_iff.1 hbless
        obtain ⟨hfiles, hplace⟩ := bless_outside hleads hcwd hbless
        exact ⟨hfiles, fun _ _ => hplace _ rfl⟩
      · cases hreturn

end Case

/-! ### Behind a case that succeeds -/

theorem isDirectory_of_verify {expectedDir outDir : Path} {count : Nat}
    (h : Golden.verify expectedDir outDir s = (.ok count, t)) :
    s.files.isDirectory s.cwd expectedDir = true := by
  obtain ⟨found, u, hask, h⟩ := Action.bind_eq_ok_iff.1 h
  cases hask
  split at h
  · assumption
  · cases h

/-- A judgement that succeeds has found the case directory. -/
theorem leads_of_judge (hfit : FileSystem.requireFit (c.home config) = .ok ())
    (hne : (c.home config).isEmpty = false) {hout : [] ∉ [FileSystem.called s.cwd (c.home config) ++ [outName]]}
    (havoids : config.mode = .bless → FileSystem.Avoids
      (.below [FileSystem.called s.cwd (c.home config) ++ [outName]] hout) s.cwd (c.home config))
    (h : c.judge config s = (.ok outcome, t)) :
    t.files.Leads t.cwd (c.home config) (FileSystem.called s.cwd (c.home config)) ∧
      (FileSystem.origin t.cwd (c.home config)).location =
        (FileSystem.origin s.cwd (c.home config)).location := by
  cases hmode : config.mode with
  | verify =>
    have hkept := (judge_keeps (c := c) (σ := σ) (I := fun w => w.files = s.files ∧ w.cwd = s.cwd)
      hmode).of_eq ⟨rfl, rfl⟩ h
    rw [hkept.1, hkept.2]
    unfold judge at h
    rw [hmode, join_expectedDir] at h
    obtain ⟨count, u, hverify, -⟩ := Action.bind_eq_ok_iff.1 h
    have hdir := isDirectory_of_verify (Action.mapError_eq_ok_iff.1 hverify)
    obtain ⟨p, hresolve⟩ := FileSystem.resolve_of_isDirectory hdir
    exact ⟨FileSystem.leads_of_resolve_join hfit hne hresolve, rfl⟩
  | bless =>
    unfold judge at h
    rw [hmode, join_outDir, join_expectedDir] at h
    obtain ⟨_, u, hbless, hreturn⟩ := Action.bind_eq_ok_iff.1 h
    cases hreturn
    exact Golden.leads_of_bless_join hfit hne (by decide) (havoids hmode) (Action.mapError_eq_ok_iff.1 hbless)

/-! ### The whole run -/

/-- The case comes to the judgement on its outputs, which blesses or verifies them. -/
def Judged (c : TestCase) (config : Config) (samples : Sample.Inputs) (invoker : Invoker σ)
    (s : Session σ) : Prop :=
  ∃ u v, (c.scratch config).forM renew (s.report (.caseRunning c.name)) = (.ok (), u) ∧
    c.make config samples invoker u = (.ok (), v)

theorem outside_work_of_scratch {fs gs : FileSystem}
    (h : gs.outside (scratchRegion d) = fs.outside (scratchRegion d)) :
    gs.outside (workRegion d) = fs.outside (workRegion d) :=
  (owns_workRegion d).outside_eq h

section Run

variable (hleads : s.files.Leads s.cwd (c.home config) d)
  (htools : ∀ inv, Issues c config samples inv → ∀ w tools,
    Workspace.SameOutside (scratchRegion d) w (invoker inv w tools).workspace)

include hleads htools

theorem make_sameOutside {u v : Session σ} {made : Except Failure Unit}
    (hprepare : (c.scratch config).forM renew (s.report (.caseRunning c.name)) = (.ok (), u))
    (hmake : c.make config samples invoker u = (made, v)) :
    Workspace.SameOutside (scratchRegion d) s.toWorkspace v.toWorkspace := by
  have hu := prepare_sameOutside hleads hprepare rfl
  exact (make_keeps fun inv hinv w tools hw => hw.trans (htools inv hinv w tools)).of_eq hu hmake

/-- A case leaves the files outside its work as they are, and unless it is blessed, its accepted outputs
as well. -/
theorem run_outside (hrun : c.run config samples invoker s = (result, t)) :
    t.files.outside (workRegion d) = s.files.outside (workRegion d) ∧
    (config.mode = .verify ∨ ¬c.Judged config samples invoker s →
      t.files.outside (scratchRegion d) = s.files.outside (scratchRegion d)) := by
  -- An end before the judgement shows nowhere but in the scratch directories.
  have hbefore : ∀ {v : Session σ}, Workspace.SameOutside (scratchRegion d) s.toWorkspace v.toWorkspace →
      Workspace.SameOutside (scratchRegion d) s.toWorkspace (c.cleanUp config v).toWorkspace := by
    intro v hv
    exact hv.trans (cleanUp_sameOutside hleads (Place.location_eq_of_outside hv.cwd))
  cases result with
  | error e =>
    obtain hprepare | ⟨u, v, hprepare, hbuild, rfl⟩ := run_eq_error hrun
    · have ht := prepare_sameOutside hleads hprepare rfl
      exact ⟨outside_work_of_scratch ht.files, fun _ => ht.files⟩
    rw [build_eq] at hbuild
    obtain hmake | ⟨⟨⟩, x, hmake, hjudge⟩ := Action.bind_eq_error_iff.1 hbuild
    · have ht := hbefore (make_sameOutside hleads htools hprepare hmake)
      exact ⟨outside_work_of_scratch ht.files, fun _ => ht.files⟩
    have hx := make_sameOutside hleads htools hprepare hmake
    have hplace := Place.location_eq_of_outside hx.cwd
    obtain ⟨hfiles, hcwd⟩ := judge_outside hleads hplace hjudge
    have hclean := cleanUp_sameOutside hleads ((hcwd _ rfl).trans hplace)
    refine ⟨?_, ?_⟩
    · exact (outside_work_of_scratch hclean.files).trans
        (hfiles.trans (outside_work_of_scratch hx.files))
    · rintro (hmode | hearly)
      · exact (hbefore ((judge_keeps hmode).of_eq hx hjudge)).files
      · exact absurd ⟨u, x, hprepare, hmake⟩ hearly
  | ok outcome =>
    obtain ⟨u, x, hprepare, hmake, hjudge⟩ := run_eq_ok hrun
    have hx := make_sameOutside hleads htools hprepare hmake
    obtain ⟨hfiles, -⟩ := judge_outside hleads (Place.location_eq_of_outside hx.cwd) hjudge
    refine ⟨hfiles.trans (outside_work_of_scratch hx.files), ?_⟩
    rintro (hmode | hearly)
    · exact ((judge_keeps hmode).of_eq hx hjudge).files
    · exact absurd ⟨u, x, hprepare, hmake⟩ hearly

/-- Behind a case that succeeds, its path leads to its directory as before, if it avoids what has been moved
away. -/
theorem leads_of_run_ok {hout : [] ∉ [d ++ [outName]]}
    (havoids : config.mode = .bless → FileSystem.Avoids (.below [d ++ [outName]] hout) s.cwd (c.home config))
    (hrun : c.run config samples invoker s = (.ok outcome, t)) :
    t.files.Leads t.cwd (c.home config) d ∧
      (FileSystem.origin t.cwd (c.home config)).location =
        (FileSystem.origin s.cwd (c.home config)).location := by
  obtain ⟨u, x, hprepare, hmake, hjudge⟩ := run_eq_ok hrun
  have hx := make_sameOutside hleads htools hprepare hmake
  have hplace := Place.location_eq_of_outside hx.cwd
  have hcalled : FileSystem.called x.cwd (c.home config) = d :=
    (FileSystem.called_congr hplace _).trans hleads.called_eq
  have horigin := FileSystem.origin_location_congr hplace (c.home config)
  subst hcalled
  obtain ⟨hjudged, hlast⟩ := leads_of_judge hleads.fit hleads.nonempty
    (fun hmode => (havoids hmode).congr horigin) hjudge
  exact ⟨hjudged, hlast.trans horigin⟩

/-- **The frame of a case.** If the path of the case leads to a directory, and the tools change files in its
scratch directories only, then nothing outside these and the accepted outputs is changed, however the case
ends. The accepted outputs are not changed either by a case that is verified, nor by one that fails before it
comes to blessing them. -/
theorem run_changes_only_work (hrun : c.run config samples invoker s = (result, t)) :
    (∀ l, (workRegion d).holds l = false → t.files.get? l = s.files.get? l) ∧
    (config.mode = .verify ∨ ¬c.Judged config samples invoker s →
      ∀ l, (scratchRegion d).holds l = false → t.files.get? l = s.files.get? l) := by
  obtain ⟨hwork, hscratch⟩ := run_outside hleads htools hrun
  exact ⟨FileSystem.outside_eq_iff.1 hwork, fun h => FileSystem.outside_eq_iff.1 (hscratch h)⟩

end Run

/-- A case that is reached through its own outputs, blessed with a tool that writes one file. -/
theorem run_changes_only_work_through_outputs :
    let dir : Location := [⟨"c", by decide⟩]
    let files := (((FileSystem.empty.put dir .directory).put (dir ++ [outName]) .directory).put
      (dir ++ [expectedName]) .directory).put (dir ++ [⟨"a.cpp", by decide⟩]) (.file [] false)
    let config := Example.config .bless (.ofString "c/_out/../..")
    let invoker := Example.writing [1] [dir ++ [binName] ++ [⟨"a.o", by decide⟩]]
    ∃ t, (⟨.ofString "c"⟩ : TestCase).run config .relative invoker (.start ⟨files, .root⟩ ()) =
        (.ok .blessed, t) ∧
      ∀ l, (workRegion dir).holds l = false → t.files.get? l = files.get? l := by
  intro dir files config invoker
  have hleads : files.Leads .root ((⟨.ofString "c"⟩ : TestCase).home config) dir :=
    ⟨rfl, rfl, by decide +kernel, by decide +kernel⟩
  have htools : ∀ inv, Issues ⟨.ofString "c"⟩ config .relative inv → ∀ w tools,
      Workspace.SameOutside (scratchRegion dir) w (invoker inv w tools).workspace := fun inv _ =>
    Example.writing_sameOutside
      (List.forall_mem_singleton.2 (holds_scratchRegion.2 (.inl (List.prefix_append _ _)))) inv
  have hblessed : ((⟨.ofString "c"⟩ : TestCase).run config .relative invoker
      (.start ⟨files, .root⟩ ())).1 = .ok .blessed := by decide +kernel
  cases hrun : (⟨.ofString "c"⟩ : TestCase).run config .relative invoker
      (.start ⟨files, .root⟩ ()) with
  | mk result t =>
    rw [hrun] at hblessed
    cases hblessed
    exact ⟨t, rfl, (run_changes_only_work hleads htools hrun).1⟩

end LinkBench.TestCase
