import LinkBench.Proofs.Golden.Verdict
import LinkBench.Proofs.TestCase.Building

/-!
# Verifying what was blessed

A case that was blessed has moved its outputs to the place of the accepted ones. Run again, it starts from
the same sources and empty scratch directories, makes the same outputs, and finds them accepted
(`Blessing.verifies`).
-/

namespace LinkBench

namespace TestCase

variable {σ : Type} {c : TestCase} {config : Config} {samples : Sample.Inputs} {z : Region}
  {d : Location} {path : Path} {w w' : Workspace} {s t u v : Session σ} {invoker : Invoker σ}
  {outcome : Outcome}

/-! ### Preparations that succeed -/

theorem Fresh.underway (hfresh : Fresh d w w') (hreaches : w'.Reaches z path d)
    (helsewhere : (scratchRegion d).holds w'.cwd.base = false) : Underway z path d w' w' where
  reaches := hreaches
  elsewhere := helsewhere
  bin := hfresh.bin
  out := hfresh.out
  named name hname := by
    have hholds : (scratchRegion d).holds (d ++ [outName] ++ [name]) = true :=
      holds_scratchRegion.2 (.inr (List.prefix_append _ _))
    refine absurd (hfresh.empty _ hholds (fun heq => ?_) (by simp)) hname
    have hlength := congrArg List.length heq
    simp at hlength
  cwd := rfl
  kept := rfl

/-- Empty scratch directories look alike. -/
theorem Fresh.twins {x x' : Workspace} (hfresh : Fresh d w x) (hfresh' : Fresh d w' x')
    (h : Underway z path d x x) (h' : Underway z path d x' x')
    (hsame : Workspace.SameOutside z x x') : Twins z path d x x' x x' where
  first := h
  second := h'
  alike := by
    refine ⟨hsame, fun l hl => ?_⟩
    by_cases hbin : l = d ++ [binName]
    · rw [hbin, hfresh.bin, hfresh'.bin]
    by_cases hout : l = d ++ [outName]
    · rw [hout, hfresh.out, hfresh'.out]
    rw [hfresh.empty l hl hbin hout, hfresh'.empty l hl hbin hout]

theorem run_of_prepare {result : Except Failure Unit}
    (hprepare : (c.scratch config).forM renew (s.report (.caseRunning c.name)) = (result, u)) :
    c.run config samples invoker s = match result with
      | .ok _ => (c.build config samples invoker).onFailure (c.cleanUp config) u
      | .error e => (.error e, u) := by
  refine (Action.bind_of_ok (a := ()) rfl _).trans ?_
  cases result with
  | ok _ => exact Action.bind_of_ok hprepare _
  | error e => exact Action.bind_of_error hprepare _

/-- A case that succeeds has been prepared, made and judged. -/
theorem run_eq_ok (hrun : c.run config samples invoker s = (.ok outcome, t)) :
    ∃ u v, (c.scratch config).forM renew (s.report (.caseRunning c.name)) = (.ok (), u) ∧
      c.make config samples invoker u = (.ok (), v) ∧ c.judge config v = (.ok outcome, t) := by
  obtain ⟨⟨⟩, r, hreport, hrun⟩ := Action.bind_eq_ok_iff.1 hrun
  cases hreport
  obtain ⟨⟨⟩, u, hprepare, hbuild⟩ := Action.bind_eq_ok_iff.1 hrun
  have hsuccess : c.build config samples invoker u = (.ok outcome, t) := by
    unfold Action.onFailure at hbuild
    cases hpair : c.build config samples invoker u with
    | mk result x =>
      rw [hpair] at hbuild
      cases result <;> cases hbuild
      rfl
  rw [build_eq] at hsuccess
  obtain ⟨⟨⟩, v, hmake, hjudge⟩ := Action.bind_eq_ok_iff.1 hsuccess
  exact ⟨u, v, hprepare, hmake, hjudge⟩

theorem run_of_parts (hprepare : (c.scratch config).forM renew (s.report (.caseRunning c.name)) =
      (.ok (), u)) (hmake : c.make config samples invoker u = (.ok (), v))
    (hjudge : c.judge config v = (.ok outcome, t)) :
    c.run config samples invoker s = (.ok outcome, t) := by
  have hbuild : c.build config samples invoker u = (.ok outcome, t) := by
    rw [build_eq]
    exact (Action.bind_of_ok hmake _).trans hjudge
  have hguarded : (c.build config samples invoker).onFailure (c.cleanUp config) u =
      (.ok outcome, t) := by
    unfold Action.onFailure
    rw [hbuild]
  exact (Action.bind_of_ok (a := ()) rfl _).trans ((Action.bind_of_ok hprepare _).trans hguarded)

/-! ### Blessing the outputs of a case -/

section Moved

variable {v w : Workspace} (hreplaced : v.files.Replaced w.files (d ++ [outName]) (d ++ [expectedName]))
  (hcwd : w.cwd = v.cwd.without (d ++ [expectedName]))

include hreplaced hcwd

/-- What is moved to the place of the accepted outputs shows nowhere else. -/
theorem sameOutside_of_moved (howns : Owns z d) : Workspace.SameOutside z v w where
  files := by
    refine FileSystem.outside_eq_iff.2 fun l hl => hreplaced.kept l ?_ ?_
    · rintro ⟨rest, rfl⟩
      rw [Region.holds_append howns.out rest] at hl
      cases hl
    · rintro ⟨rest, rfl⟩
      rw [Region.holds_append howns.expected rest] at hl
      cases hl
  cwd := by rw [hcwd, Place.outside_without howns.expected]

theorem anchored_of_moved (h : Prepared z path d v) : w.files.Anchors w.cwd := by
  have hbelow : w.cwd.base <+: v.cwd.base := by
    rw [hcwd]
    exact Place.base_without_above _ _
  have hout : ¬d ++ [outName] <+: w.cwd.base := fun hpre => by
    have helsewhere := h.elsewhere
    rw [holds_scratchRegion.2 (.inr (hpre.trans hbelow))] at helsewhere
    cases helsewhere
  have hexpected : ¬d ++ [expectedName] <+: w.cwd.base := by
    rw [hcwd]
    exact Place.not_below_base_without (by simp) _
  rw [FileSystem.Anchors, hreplaced.kept _ hout hexpected]
  exact FileSystem.get?_above hbelow h.reaches.anchored

end Moved

/-- What a run that was blessed has gone through: `u` is the session behind its preparation, and `v` the
one before the judgement. -/
structure Blessing (c : TestCase) (config : Config) (samples : Sample.Inputs) (invoker : Invoker σ)
    (z : Region) (d : Location) (s u v s₁ : Session σ) : Prop where
  bin : FileSystem.requireFit ((c.home config).join (.ofName binName)) = .ok ()
  out : FileSystem.requireFit ((c.home config).join (.ofName outName)) = .ok ()
  expected : FileSystem.requireFit ((c.home config).join (.ofName expectedName)) = .ok ()
  prepared : Workspace.SameOutside z s.toWorkspace u.toWorkspace
  fresh : Fresh d s.toWorkspace u.toWorkspace
  start : Underway z (c.home config) d u.toWorkspace u.toWorkspace
  make : c.make config samples invoker u = (.ok (), v)
  made : Underway z (c.home config) d u.toWorkspace v.toWorkspace
  replaced : v.files.Replaced s₁.files (d ++ [outName]) (d ++ [expectedName])
  cwd : s₁.cwd = v.cwd.without (d ++ [expectedName])

section Rerun

variable {s₁ : Session σ} (howns : Owns z d)
  (hserves : ∀ inv, Issues c config samples inv → Serves invoker z (c.home config) d inv)

include howns hserves

end Rerun

/-! ### What a blessing leaves as it was -/

section Blessed

variable {s₁ : Session σ} (h : Blessing c config samples invoker z d s u v s₁)

include h

theorem Blessing.files_kept {l : Location} (hl : (workRegion d).holds l = false) :
    s₁.files.get? l = s.files.get? l := by
  rw [Bool.eq_false_iff, Ne, holds_workRegion, not_or, not_or] at hl
  have hscratch : (scratchRegion d).holds l = false := by
    rw [Bool.eq_false_iff, Ne, holds_scratchRegion, not_or]
    exact ⟨hl.1, hl.2.1⟩
  rw [h.replaced.kept l hl.2.1 hl.2.2, FileSystem.outside_eq_iff.1 h.made.kept l hscratch,
    FileSystem.outside_eq_iff.1 h.fresh.kept l hscratch]

theorem Blessing.sameOutside (howns : Owns z d) :
    Workspace.SameOutside z s.toWorkspace s₁.toWorkspace := by
  have hmade : Workspace.SameOutside z u.toWorkspace v.toWorkspace :=
    ⟨howns.outside_eq h.made.kept, by rw [h.made.cwd]⟩
  exact h.prepared.trans (hmade.trans (sameOutside_of_moved h.replaced h.cwd howns))

theorem Blessing.anchored : s₁.files.Anchors s₁.cwd :=
  anchored_of_moved h.replaced h.cwd h.made.toPrepared

/-- Nothing is in the way of a second run. -/
theorem Blessing.free {l : Location} (hl : l = d ++ [binName] ∨ l = d ++ [outName]) :
    ¬Blocked s₁.files l := by
  rw [free_iff]
  obtain rfl | rfl := hl
  · refine .inr ?_
    rw [h.replaced.kept _ (not_prefix_concat (by decide)) (not_prefix_concat (by decide)), h.made.bin]
  · refine .inl ?_
    have hgone := h.replaced.gone []
    rwa [List.append_nil] at hgone

end Blessed

theorem judge_yields {n : Nat} (hmode : config.mode = .verify)
    (h : (Golden.verify ((c.home config).join (.ofName expectedName))
      ((c.home config).join (.ofName outName)) : Action σ GoldenError Nat).Yields w n) :
    (c.judge config : Action σ Failure Outcome).Yields w (.verified n) := by
  unfold judge
  rw [hmode, join_outDir, join_expectedDir]
  exact .bind (.mapError h _) (.bind (.report _) (.pure _))

theorem not_holds_expected (d rest : Location) :
    (scratchRegion d).holds (d ++ [expectedName] ++ rest) = false := by
  rw [Bool.eq_false_iff, Ne, holds_scratchRegion, not_or]
  exact ⟨not_prefix_sibling (by decide) rest, not_prefix_sibling (by decide) rest⟩

/-- The outputs of a second run are the accepted ones. -/
theorem verify_yields_of_same
    (hw : Underway z path d w' w)
    (hout : FileSystem.requireFit (path.join (.ofName outName)) = .ok ())
    (hexpected : FileSystem.requireFit (path.join (.ofName expectedName)) = .ok ())
    (hsame : ∀ rest, w.files.get? (d ++ [expectedName] ++ rest) =
      w.files.get? (d ++ [outName] ++ rest)) :
    (Golden.verify (path.join (.ofName expectedName)) (path.join (.ofName outName)) :
      Action σ GoldenError Nat).Yields w
        (Golden.accepted w.files (path.join (.ofName expectedName)) (d ++ [expectedName])).length := by
  have hleads := hw.reaches.leads_tree
  have htop := hsame []
  rw [List.append_nil, List.append_nil, hw.out] at htop
  refine Golden.verify_yields (hleads.join hexpected (by decide) htop)
    (hleads.join hout not_isTooLong_outName hw.out) (fun name hname => ?_) fun name => hsame [name]
  obtain ⟨⟨bytes, executable, hentry⟩, hlong⟩ := Golden.mem_accepted.1 hname
  obtain ⟨hshort, hnul⟩ := hw.named name (by rw [← hsame, hentry]; exact nofun)
  exact ⟨hshort, Path.requireFit_join_of_shorter hexpected (Nat.le_refl _) hlong hnul,
    Path.requireFit_join_of_shorter hout (by decide) hlong hnul⟩

/-- What a second run has gone through before its judgement: `u'` is the session behind its preparation,
and `x` the one with the outputs, which are those that the first run had in `v`. -/
structure Remade (c : TestCase) (config : Config) (samples : Sample.Inputs) (invoker : Invoker σ)
    (z : Region) (d : Location) (v t u' x : Session σ) : Prop where
  prepare : (c.scratch config).forM renew (t.report (.caseRunning c.name)) = (.ok (), u')
  make : c.make config samples invoker u' = (.ok (), x)
  prepared : Workspace.SameOutside z t.toWorkspace u'.toWorkspace
  made : Underway z (c.home config) d u'.toWorkspace x.toWorkspace
  kept : x.files.outside (scratchRegion d) = t.files.outside (scratchRegion d)
  outputs : ∀ rest, x.files.get? (d ++ [outName] ++ rest) = v.files.get? (d ++ [outName] ++ rest)

theorem Remade.accepted {x : Session σ} (h : Remade c config samples invoker z d v t u x)
    (rest : Location) : x.files.get? (d ++ [expectedName] ++ rest) =
      t.files.get? (d ++ [expectedName] ++ rest) :=
  FileSystem.outside_eq_iff.1 h.kept _ (not_holds_expected d rest)

section Verified

variable {s₁ : Session σ} (h : Blessing c config samples invoker z d s u v s₁) (howns : Owns z d)
  (hserves : ∀ inv, Issues c config samples inv → Serves invoker z (c.home config) d inv)
  (ht : t.files.Anchors t.cwd) (hsame : Workspace.SameOutside z s.toWorkspace t.toWorkspace)
  (hwork : ∀ l, (workRegion d).holds l = true → t.files.get? l = s₁.files.get? l)

include h howns hserves ht hsame hwork

/-- From the same sources, the same outputs are made again. -/
theorem Blessing.remade : ∃ u' x, Remade c config samples invoker z d v t u' x := by
  have hreaches : (t.report (.caseRunning c.name)).toWorkspace.Reaches z (c.home config) d :=
    h.start.reaches.of_sameOutside (h.prepared.symm.trans hsame) ht
  have hfree : ∀ l, l = d ++ [binName] ∨ l = d ++ [outName] → ¬Blocked t.files l := fun l hl => by
    have hheld : (workRegion d).holds l = true := holds_workRegion.2 (by
      obtain rfl | rfl := hl
      · exact .inl (List.prefix_refl _)
      · exact .inr (.inl (List.prefix_refl _)))
    rw [Blocked, hwork l hheld]
    exact h.free hl
  obtain ⟨changes, hprepare, hwithin, hfresh, helsewhere⟩ := prepare_of_free hreaches howns h.bin h.out
    (hfree _ (.inl rfl)) (hfree _ (.inr rfl))
  have hstart := hfresh.underway (hreaches.applyAll hwithin) helsewhere
  have hprepared : Workspace.SameOutside z t.toWorkspace
      ((t.report (.caseRunning c.name)).change changes).toWorkspace :=
    Workspace.sameOutside_applyAll hwithin
  -- Both runs start from empty scratch directories, so the tools cannot tell them apart.
  have htwins := h.fresh.twins hfresh h.start hstart
    (h.prepared.symm.trans (hsame.trans hprepared))
  obtain ⟨hresult, hmade⟩ := make_agree howns h.bin h.out hserves _ _ htwins
  rw [h.make] at hresult hmade
  cases hrun : c.make config samples invoker ((t.report (.caseRunning c.name)).change changes) with
  | mk result x =>
    rw [hrun] at hresult hmade
    cases hresult
    exact ⟨_, x, hprepare, hrun, hprepared, hmade.second, hmade.second.kept.trans hfresh.kept,
      fun rest => hmade.alike.own _ (holds_scratchRegion.2 (.inr (List.prefix_append _ rest)))⟩

/-- **A blessed case verifies.** From a workspace with the same sources, where what the case works on is as
the blessing has left it, the case is verified, and all its accepted files are counted. -/
theorem Blessing.verifies :
    ∃ t₁, c.run { config with mode := .verify } samples invoker t = (.ok (.verified (Golden.accepted
        t.files ((c.home config).join (.ofName expectedName)) (d ++ [expectedName])).length), t₁) ∧
      t₁.files.outside (scratchRegion d) = t.files.outside (scratchRegion d) ∧
      Workspace.SameOutside z t.toWorkspace t₁.toWorkspace ∧ t₁.files.Anchors t₁.cwd := by
  obtain ⟨u', x, hagain⟩ := h.remade howns hserves ht hsame hwork
  -- The accepted outputs are the moved ones of the first run, which the second has made again.
  have houtputs : ∀ rest, x.files.get? (d ++ [expectedName] ++ rest) =
      x.files.get? (d ++ [outName] ++ rest) := fun rest => by
    rw [hagain.accepted, hwork _ (holds_workRegion.2 (.inr (.inr (List.prefix_append _ rest)))),
      h.replaced.moved, hagain.outputs]
  have hverified := verify_yields_of_same (σ := σ) hagain.made h.out h.expected houtputs
  rw [Golden.accepted_congr fun name => hagain.accepted [name]] at hverified
  have hmode : ({ config with mode := .verify } : Config).mode = .verify := rfl
  obtain ⟨t₁, hjudge, ht₁⟩ := judge_yields hmode hverified x rfl
  have hmake := hagain.make
  rw [← make_withMode config .verify] at hmake
  refine ⟨t₁, run_of_parts hagain.prepare hmake hjudge, ?_, ?_, ?_⟩
  · rw [ht₁]
    exact hagain.kept
  · rw [ht₁]
    refine ⟨howns.outside_eq hagain.kept, ?_⟩
    rw [hagain.made.cwd]
    exact hagain.prepared.cwd
  · rw [ht₁]
    exact hagain.made.reaches.anchored

end Verified

end TestCase

end LinkBench
