import LinkBench.Proofs.TestCase.Frame

/-!
# What was left in the scratch directories

A case empties its scratch directories before anything else looks at them. So two workspaces that differ in
nothing but what an earlier run has left there are the same behind the preparation
(`applyAll_scratchRenewal_eq`), and with that so is all that follows, whatever the tools are. A workspace
is its tree and its working directory; the times and the rights of files are no part of it.
-/

namespace LinkBench

namespace TestCase

variable {σ : Type} {c : TestCase} {config : Config} {samples : Sample.Inputs} {invoker : Invoker σ}
  {z : Region} {d : Location} {w w' x x' : Workspace} {s t u : Session σ} {name : FileName}

/-! ### Behind the preparation -/

/-- Nothing is in the way of the scratch directories. -/
structure Clearable (d : Location) (w : Workspace) : Prop where
  anchored : w.files.Anchors w.cwd
  bin : ¬Blocked w.files (d ++ [binName])
  out : ¬Blocked w.files (d ++ [outName])

theorem Fresh.files_eq (h : Fresh d w x) (h' : Fresh d w' x')
    (hsame : w'.files.outside (scratchRegion d) = w.files.outside (scratchRegion d)) :
    x'.files = x.files := by
  refine FileSystem.ext fun l => ?_
  cases hl : (scratchRegion d).holds l with
  | false =>
    rw [FileSystem.outside_eq_iff.1 h'.kept l hl, FileSystem.outside_eq_iff.1 hsame l hl,
      FileSystem.outside_eq_iff.1 h.kept l hl]
  | true =>
    by_cases hbin : l = d ++ [binName]
    · rw [hbin, h.bin, h'.bin]
    by_cases hout : l = d ++ [outName]
    · rw [hout, h.out, h'.out]
    rw [h.empty l hl hbin hout, h'.empty l hl hbin hout]

theorem holds_binName (d : Location) : (scratchRegion d).holds (d ++ [binName]) = true :=
  holds_scratchRegion.2 (.inl (List.prefix_refl _))

theorem holds_outName (d : Location) : (scratchRegion d).holds (d ++ [outName]) = true :=
  holds_scratchRegion.2 (.inr (List.prefix_refl _))

/-- What was in the scratch directories is forgotten when both are made anew. -/
theorem applyAll_scratchRenewal_eq (h : Clearable d w) (h' : Clearable d w')
    (hsame : Workspace.SameOutside (scratchRegion d) w w') (hdir : w.files.get? d = some .directory) :
    w'.applyAll (scratchRenewal w'.files d) = w.applyAll (scratchRenewal w.files d) := by
  have hdir' : w'.files.get? d = some .directory := by
    rw [FileSystem.outside_eq_iff.1 hsame.files d (not_holds_scratch_self d), hdir]
  obtain ⟨hfresh, helsewhere⟩ := fresh_scratchRenewal (holds_binName d) h.anchored hdir
  obtain ⟨hfresh', helsewhere'⟩ := fresh_scratchRenewal (holds_binName d) h'.anchored hdir'
  have hfiles := hfresh.files_eq hfresh' hsame.files
  have hcwd : (w'.applyAll (scratchRenewal w'.files d)).cwd =
      (w.applyAll (scratchRenewal w.files d)).cwd := by
    have hwithin := scratchRenewal_within (holds_binName d) (holds_outName d)
    rw [← Place.outside_of_not_holds helsewhere', ← Place.outside_of_not_holds helsewhere,
      (Workspace.sameOutside_applyAll (hwithin w'.files)).cwd,
      (Workspace.sameOutside_applyAll (hwithin w.files)).cwd, hsame.cwd]
  generalize w'.applyAll (scratchRenewal w'.files d) = y' at *
  generalize w.applyAll (scratchRenewal w.files d) = y at *
  obtain ⟨files, cwd⟩ := y
  obtain ⟨files', cwd'⟩ := y'
  cases hfiles
  cases hcwd
  rfl

/-! ### Two runs -/

theorem prepare_of_not_fit {e : IoError}
    (h : FileSystem.requireFit ((c.home config).join (.ofName binName)) = .error e) (s : Session σ) :
    (c.scratch config).forM renew s =
      (.error (Failure.ofIo (.remove ((c.home config).join (.ofName binName))) e), s) := by
  rw [scratch_eq]
  exact Action.bind_of_error (renew_of_not_fit h) _

theorem prepare_of_clearable (hreaches : s.toWorkspace.Reaches (scratchRegion d) (c.home config) d)
    (hclear : Clearable d s.toWorkspace)
    (hbin : FileSystem.requireFit ((c.home config).join (.ofName binName)) = .ok ()) :
    (c.scratch config).forM renew s = (.ok (), s.change (scratchRenewal s.files d)) :=
  prepare_renews (holds_binName d) (holds_outName d) hreaches hbin
    (Path.requireFit_join_of_le (by decide) (by decide) hbin) hclear.bin hclear.out

theorem bless_of_judge {outcome : Outcome} (h : c.judge config s = (.ok outcome, t))
    (hblessed : outcome = .blessed) :
    Golden.bless ((c.home config).join (.ofName outName)) ((c.home config).join (.ofName expectedName)) s =
      (.ok (), t) := by
  unfold judge at h
  cases hmode : config.mode with
  | verify =>
    rw [hmode] at h
    obtain ⟨files, v, -, h⟩ := Action.bind_eq_ok_iff.1 h
    obtain ⟨_, x, -, hreturn⟩ := Action.bind_eq_ok_iff.1 h
    cases hreturn
    cases hblessed
  | bless =>
    rw [hmode, join_outDir, join_expectedDir] at h
    obtain ⟨_, v, hbless, hreturn⟩ := Action.bind_eq_ok_iff.1 h
    cases hreturn
    exact Action.mapError_eq_ok_iff.1 hbless

/-- **Stale scratch never leaks.** Take two workspaces that differ in nothing but what is in the scratch
directories of a case, each of which is absent or a directory, where the path of the case leads to its
directory without their help. Then the two runs are the same, whatever the tools do. If the path of the
scratch directories is too long, both fail before they change anything. The accepted outputs of a run that
was blessed are what its tools have made of empty scratch directories. -/
theorem run_forgets_scratch (hreaches : s.toWorkspace.Reaches (scratchRegion d) (c.home config) d)
    (hclear : Clearable d s.toWorkspace) (hclear' : Clearable d w)
    (hsame : Workspace.SameOutside (scratchRegion d) s.toWorkspace w) :
    (FileSystem.requireFit ((c.home config).join (.ofName binName)) = .ok () →
      c.run config samples invoker { s with toWorkspace := w } = c.run config samples invoker s) ∧
    (∀ e, FileSystem.requireFit ((c.home config).join (.ofName binName)) = .error e →
      ∀ s' : Session σ, c.run config samples invoker s' =
        (.error (Failure.ofIo (.remove ((c.home config).join (.ofName binName))) e),
          s'.report (.caseRunning c.name))) ∧
    ∀ t, c.run config samples invoker s = (.ok .blessed, t) → ∃ u v : Session σ,
      Fresh d s.toWorkspace u.toWorkspace ∧ c.make config samples invoker u = (.ok (), v) ∧
      v.files.Replaced t.files (FileSystem.called v.cwd (c.home config) ++ [outName])
        (FileSystem.called v.cwd (c.home config) ++ [expectedName]) ∧
      (v.cwd.location = s.cwd.location → FileSystem.called v.cwd (c.home config) = d) := by
  have hstart : (s.report (.caseRunning c.name)).toWorkspace.Reaches (scratchRegion d) (c.home config)
      d := hreaches
  refine ⟨fun hbin => ?_, fun e he s' => ?_, fun t hrun => ?_⟩
  · have hreaches' := hreaches.of_sameOutside hsame hclear'.anchored
    have hfirst := prepare_of_clearable hstart hclear hbin
    have hsecond := prepare_of_clearable
      (s := ({ s with toWorkspace := w } : Session σ).report (.caseRunning c.name)) hreaches' hclear' hbin
    have hworkspace := applyAll_scratchRenewal_eq hclear hclear' hsame hreaches.leads_tree.directory
    rw [run_of_prepare hfirst, run_of_prepare hsecond]
    exact congrArg (fun x => (c.build config samples invoker).onFailure (c.cleanUp config)
      { s.report (.caseRunning c.name) with toWorkspace := x }) hworkspace
  · rw [run_of_prepare (prepare_of_not_fit he _)]
  · obtain ⟨u, v, hprepare, hmake, hjudge⟩ := run_eq_ok hrun
    have hbless := bless_of_judge hjudge rfl
    have hbin : FileSystem.requireFit ((c.home config).join (.ofName binName)) = .ok () := by
      cases hfit : FileSystem.requireFit ((c.home config).join (.ofName binName)) with
      | ok _ => rfl
      | error e =>
        rw [prepare_of_not_fit hfit] at hprepare
        cases hprepare
    rw [prepare_of_clearable hstart hclear hbin] at hprepare
    cases hprepare
    have hleads := hreaches.leads_tree
    refine ⟨_, v, (fresh_scratchRenewal (holds_binName d) hclear.anchored hleads.directory).1, hmake,
      Golden.replaced_of_bless_join hleads.nonempty (by decide) hbless, fun hcwd => ?_⟩
    rw [FileSystem.called_congr hcwd, hleads.called_eq]

/-- A case whose outputs of an earlier run were left, and one without them. -/
theorem run_forgets_left_output :
    let dir : Location := [⟨"c", by decide⟩]
    let clean := (FileSystem.empty.put dir .directory).put (dir ++ [⟨"a.cpp", by decide⟩]) (.file [] false)
    let stale := (clean.put (dir ++ [outName]) .directory).put
      (dir ++ [outName] ++ [⟨"left", by decide⟩]) (.file [1] false)
    let config := Example.config .bless (.ofString ".")
    let invoker := Example.writing [2] [dir ++ [outName] ++ [⟨"output", by decide⟩]]
    (⟨.ofString "c"⟩ : TestCase).run config .relative invoker (.start ⟨stale, .root⟩ ()) =
      (⟨.ofString "c"⟩ : TestCase).run config .relative invoker (.start ⟨clean, .root⟩ ()) := by
  intro dir clean stale config invoker
  have hreaches : (⟨clean, .root⟩ : Workspace).Reaches (scratchRegion dir)
      ((⟨.ofString "c"⟩ : TestCase).home config) dir := ⟨rfl, rfl, rfl, rfl, rfl⟩
  have hclean : Clearable dir ⟨clean, .root⟩ := ⟨rfl, by decide, by decide⟩
  have hstale : Clearable dir ⟨stale, .root⟩ := ⟨rfl, by decide, by decide⟩
  have hsame : Workspace.SameOutside (scratchRegion dir) ⟨clean, .root⟩ ⟨stale, .root⟩ := by
    refine ⟨?_, rfl⟩
    exact (FileSystem.outside_put (holds_scratchRegion.2 (.inr (List.prefix_append _ _))) _).trans
      (FileSystem.outside_put (holds_outName dir) _)
  exact (run_forgets_scratch (s := .start ⟨clean, .root⟩ ()) hreaches hclean hstale hsame).1
    (by decide +kernel)

/-- **Scratch that leaks.** The path of a case leads through a directory in its outputs. Making the outputs
anew brings that directory back, so it is blessed, although no tool has written anything. Where a file of an
earlier run stands in its place, the case fails. -/
theorem run_leaks_through_outputs :
    let dir : Location := [⟨"c", by decide⟩]
    let x : FileName := ⟨"x", by decide⟩
    let files := (FileSystem.empty.put dir .directory).put (dir ++ [outName]) .directory
    let first := files.put (dir ++ [outName] ++ [x]) .directory
    let second := files.put (dir ++ [outName] ++ [x]) (.file [] false)
    let config := Example.config .bless (.ofString "c/_out/x/../../..")
    let run := fun files : FileSystem =>
      (⟨.ofString "c"⟩ : TestCase).run config .relative Example.idle (.start ⟨files, .root⟩ ())
    second.outside (scratchRegion dir) = first.outside (scratchRegion dir) ∧
      (run first).1 = .ok .blessed ∧
      (run first).2.files.get? (dir ++ [expectedName] ++ [x]) = some .directory ∧
      (run second).1.isOk = false := by
  intro dir x files first second config run
  refine ⟨?_, by decide +kernel⟩
  have hx : (scratchRegion dir).holds (dir ++ [outName] ++ [x]) = true :=
    holds_scratchRegion.2 (.inr (List.prefix_append _ _))
  exact (FileSystem.outside_put hx _).trans (FileSystem.outside_put hx _).symm

end TestCase

end LinkBench
