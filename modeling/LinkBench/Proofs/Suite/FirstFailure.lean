import Mathlib.Data.List.Basic
import LinkBench.Proofs.Suite.Acceptance
import LinkBench.Proofs.TestCase.Order

/-!
# The first failure of a suite

Cases run in name order until one fails. Each keeps to its own directory, so the cases before that one are left
as their own runs have left them, and those behind it are not touched at all
(`runAll_stops_at_first_failure`). That is said of every tree without links, which is all that a
`FileSystem` can be.
-/

namespace LinkBench

open TestCase (binName outName)

namespace TestCase

variable {c : TestCase} {config : Config} {samples : Sample.Inputs} {inv : Invocation} {r l : Location}
  {m n : FileName}

theorem Issues.outputs_ne_nil (h : Issues c config samples inv) : inv.outputs ≠ [] := by
  cases h with
  | build language entry source h => cases language <;> exact List.cons_ne_nil _ _
  | static objects _ h =>
    simp only [Toolchain.staticLinks, List.mem_cons, List.not_mem_nil, or_false] at h
    obtain rfl | rfl := h <;> exact List.cons_ne_nil _ _
  | dynamic objects => exact List.cons_ne_nil _ _

/-- What is below the directory of one case is not what another works on. -/
theorem not_holds_work_below (hne : n ≠ m) (hl : r ++ [m] <+: l) :
    (workRegion (r ++ [n])).holds l = false := by
  rw [Bool.eq_false_iff]
  intro hn
  obtain ⟨x, -, hx⟩ := holds_workRegion_iff.1 hn
  have hcase : r ++ [n] = r ++ [m] :=
    (List.prefix_of_prefix_length_le ((List.prefix_append _ _).trans hx) hl (by simp)).eq_of_length
      (by simp)
  exact hne (List.singleton_inj.1 (List.append_cancel_left hcase))

theorem not_holds_work_case (r : Location) (n m : FileName) :
    (workRegion (r ++ [n])).holds (r ++ [m]) = false := by
  rw [Bool.eq_false_iff]
  intro h
  obtain ⟨x, -, hx⟩ := holds_workRegion_iff.1 h
  have hlength := hx.length_le
  simp at hlength

end TestCase

namespace Suite

variable {σ : Type} {config : Config} {samples : Sample.Inputs} {invoker : Invoker σ} {r l : Location}
  {m n name : FileName} {names ns : List FileName} {inv : Invocation} {s t u : Session σ} {e : Failure}
  {outcome : Outcome} {outcomes : List (TestCase × Outcome)} {result : Except Failure Outcome}

/-! ### Invocations -/

/-- What lies in a directory of a case begins with the name of the case. -/
theorem head_of_output (scratch : FileName) {file : Path} (hfile : file.isAbsolute = false) :
    (((caseOf name).dir.join (.ofName scratch)).join file).segments.head? = some name.text := by
  have hstem : (Path.ofName name).stem = [name.text] := if_neg name.valid.1
  rw [Path.segments_join hfile]
  change (((Path.ofName name).join (.ofName scratch)).stem ++ _).head? = _
  rw [Path.stem_join_ofName, hstem]
  rfl

/-- The outputs of an invocation tell which case it belongs to. -/
theorem case_of_issues (hn : (caseOf n).Issues config samples inv)
    (hm : (caseOf m).Issues config samples inv) : n = m := by
  have hfirst : ∀ {name : FileName}, (caseOf name).Issues config samples inv →
      ∀ output ∈ inv.outputs, output.segments.head? = some name.text := by
    intro name h output houtput
    obtain ⟨scratch, file, segment, -, hfile, rfl⟩ := h.looks.outputs output houtput
    exact head_of_output scratch (Path.isAbsolute_of_singleton hfile)
  obtain ⟨output, houtput⟩ := List.exists_mem_of_ne_nil _ hn.outputs_ne_nil
  have hsame := (hfirst hn output houtput).symm.trans (hfirst hm output houtput)
  exact FileName.ext_text (Option.some.inj hsame)

/-! ### Cases one after the other -/

/-- The cases of the names succeed one after the other, with these outcomes. -/
inductive Visits (config : Config) (samples : Sample.Inputs) (invoker : Invoker σ) :
    List FileName → Session σ → List (TestCase × Outcome) → Session σ → Prop
  | nil (s : Session σ) : Visits config samples invoker [] s [] s
  | cons {name : FileName} {rest : List FileName} {s t u : Session σ} {outcome : Outcome}
      {outcomes : List (TestCase × Outcome)}
      (first : (caseOf name).run config samples invoker s = (.ok outcome, t))
      (others : Visits config samples invoker rest t outcomes u) :
      Visits config samples invoker (name :: rest) s ((caseOf name, outcome) :: outcomes) u

theorem Visits.split {ns' : List FileName} (h : Visits config samples invoker (ns ++ ns') s outcomes t) :
    ∃ outcomes₁ outcomes₂ u, Visits config samples invoker ns s outcomes₁ u ∧
      Visits config samples invoker ns' u outcomes₂ t := by
  induction ns generalizing s outcomes with
  | nil => exact ⟨[], outcomes, s, .nil s, h⟩
  | cons name rest ih =>
    cases h with
    | cons first others =>
      obtain ⟨outcomes₁, outcomes₂, u, hrest, hothers⟩ := ih others
      exact ⟨_, outcomes₂, u, .cons first hrest, hothers⟩

theorem runCases_eq_ok_iff : runCases config samples invoker (ns.map caseOf) s = (.ok outcomes, t) ↔
    Visits config samples invoker ns s outcomes t := by
  induction ns generalizing s outcomes with
  | nil =>
    constructor
    · intro h
      cases h
      exact .nil _
    · intro h
      cases h
      rfl
  | cons name rest ih =>
    constructor
    · intro h
      obtain ⟨outcome, u, hfirst, h⟩ := Action.bind_eq_ok_iff.1 h
      obtain ⟨others, v, hothers, hreturn⟩ := Action.bind_eq_ok_iff.1 h
      cases hreturn
      exact .cons (Action.mapError_eq_ok_iff.1 hfirst) (ih.1 hothers)
    · intro h
      cases h with
      | cons first others =>
        exact (Action.bind_of_ok (Action.mapError_eq_ok_iff.2 first) _).trans
          ((Action.bind_of_ok (ih.2 others) _).trans rfl)

theorem runCases_eq_error (h : runCases config samples invoker (ns.map caseOf) s = (.error e, t)) :
    ∃ before name after outcomes u e', ns = before ++ name :: after ∧
      Visits config samples invoker before s outcomes u ∧
      (caseOf name).run config samples invoker u = (.error e', t) ∧
      e = e'.during (.testCase (caseOf name).name) := by
  induction ns generalizing s with
  | nil => cases h
  | cons name rest ih =>
    obtain hfirst | ⟨outcome, u, hfirst, h⟩ := Action.bind_eq_error_iff.1 h
    · obtain ⟨e', hrun, rfl⟩ := Action.mapError_eq_error_iff.1 hfirst
      exact ⟨[], name, rest, [], s, e', rfl, .nil s, hrun, rfl⟩
    · rw [Action.mapError_eq_ok_iff] at hfirst
      obtain hothers | ⟨_, _, _, hreturn⟩ := Action.bind_eq_error_iff.1 h
      · obtain ⟨before, last, after, outcomes, v, e', rfl, hbefore, hrun, he⟩ := ih hothers
        exact ⟨name :: before, last, after, _, v, e', rfl, .cons hfirst hbefore, hrun, he⟩
      · cases hreturn

theorem Visits.calls (h : Visits config samples invoker ns s outcomes t) :
    ∃ issued, t.calls = s.calls ++ issued ∧
      ∀ inv ∈ issued, ∃ n ∈ ns, (caseOf n).Issues config samples inv := by
  induction h with
  | nil s => exact ⟨[], (List.append_nil _).symm, nofun⟩
  | @cons name rest s t u outcome outcomes first others ih =>
    obtain ⟨issued, hcalls, hissued⟩ := TestCase.run_calls.of_eq first
    obtain ⟨issued', hcalls', hissued'⟩ := ih
    refine ⟨issued ++ issued', by rw [hcalls', hcalls, List.append_assoc],
      List.forall_mem_append.2 ⟨fun inv hinv => ?_, fun inv hinv => ?_⟩⟩
    · exact ⟨name, List.mem_cons_self, hissued inv hinv⟩
    · obtain ⟨n, hn, hissues⟩ := hissued' inv hinv
      exact ⟨n, List.mem_cons_of_mem name hn, hissues⟩

/-! ### What the cases leave alone -/

/-- A case whose path or name the system does not take fails at once. -/
theorem run_of_unusable (h : s.files.Leads s.cwd config.testsDir r)
    (hbad : ¬(FileSystem.requireFit (config.testsDir.join (.ofName name)) = .ok () ∧
      name.isTooLong = false)) :
    ∃ e, (caseOf name).run config samples invoker s =
      (.error e, s.report (.caseRunning (caseOf name).name)) := by
  have hrenew : ∃ e, TestCase.renew (((caseOf name).home config).join (.ofName binName))
      (s.report (.caseRunning (caseOf name).name)) =
        (.error e, s.report (.caseRunning (caseOf name).name)) := by
    cases hfit : FileSystem.requireFit (((caseOf name).home config).join (.ofName binName)) with
    | error e => exact ⟨_, TestCase.renew_of_not_fit hfit⟩
    | ok _ =>
      have hlong : name.isTooLong = true := by
        rw [← Bool.not_eq_false]
        exact fun hshort => hbad ⟨Path.requireFit_join_of_join hfit, hshort⟩
      have hresolve := resolve_of_long_name h hfit hlong
      exact ⟨_, TestCase.renew_of_resolve_error hresolve nofun⟩
  obtain ⟨e, hrenew⟩ := hrenew
  have hprepare : ((caseOf name).scratch config).forM TestCase.renew
      (s.report (.caseRunning (caseOf name).name)) =
        (.error e, s.report (.caseRunning (caseOf name).name)) := by
    rw [TestCase.scratch_eq]
    exact Action.bind_of_error hrenew _
  exact ⟨e, TestCase.run_of_prepare hprepare⟩

/-- The tools change files only in the scratch directories of the case that they are invoked for. -/
def Tidy (config : Config) (samples : Sample.Inputs) (invoker : Invoker σ) (r : Location)
    (names : List FileName) : Prop :=
  ∀ n ∈ names, ∀ inv, (caseOf n).Issues config samples inv → ∀ w tools,
    Workspace.SameOutside (TestCase.scratchRegion (r ++ [n])) w (invoker inv w tools).workspace

/-- The outputs of all cases. -/
def outputRegion (r : Location) (names : List FileName) : Region :=
  .below (names.map fun n => r ++ [n] ++ [outName]) (by simp)

/-- Blessing, which moves the outputs of a case away, does not move what the path leads through. -/
def Beside (config : Config) (r : Location) (names : List FileName) (cwd : Place) : Prop :=
  config.mode = .bless → FileSystem.Avoids (outputRegion r names) cwd config.testsDir

theorem avoids_home (hs : s.files.Leads s.cwd config.testsDir r) (hname : name ∈ names)
    (h : FileSystem.Avoids (outputRegion r names) s.cwd config.testsDir) :
    FileSystem.Avoids (.below [r ++ [name] ++ [outName]] (by simp)) s.cwd
      (config.testsDir.join (.ofName name)) := by
  have hone : FileSystem.Avoids (.below [r ++ [name] ++ [outName]] (by simp)) s.cwd config.testsDir :=
    h.mono fun l hl => by
      obtain ⟨top, htop, hpre⟩ := Region.holds_below.1 hl
      rw [List.mem_singleton.1 htop] at hpre
      exact Region.holds_below.2 ⟨_, List.mem_map_of_mem hname, hpre⟩
  refine hone.join hs.nonempty ?_
  rw [hs.called_eq, Bool.eq_false_iff, Ne, Region.holds_below]
  rintro ⟨top, htop, hpre⟩
  rw [List.mem_singleton.1 htop] at hpre
  exact FileSystem.not_concat_below hpre

section Frame

variable (htidy : Tidy config samples invoker r names) (hs : s.files.Leads s.cwd config.testsDir r)

include htidy hs

/-- However a case ends, it has changed nothing but what it works on. -/
theorem run_changes_own_work (hname : name ∈ names) (hdir : s.files.get? (r ++ [name]) = some .directory)
    (hrun : (caseOf name).run config samples invoker s = (result, t))
    (hl : (TestCase.workRegion (r ++ [name])).holds l = false) : t.files.get? l = s.files.get? l := by
  by_cases husable : FileSystem.requireFit (config.testsDir.join (.ofName name)) = .ok () ∧
      name.isTooLong = false
  · have hframe := TestCase.run_outside (hs.join husable.1 husable.2 hdir) (htidy name hname) hrun
    exact FileSystem.outside_eq_iff.1 hframe.1 l hl
  · have hunusable : ∃ e, (caseOf name).run config samples invoker s = (.error e, _) :=
      run_of_unusable hs husable
    obtain ⟨e, hfailed⟩ := hunusable
    rw [hfailed] at hrun
    cases hrun
    rfl

/-- Behind a case that has succeeded, the tests directory is reached as before. -/
theorem leads_of_run (hbeside : Beside config r names s.cwd) (hname : name ∈ names)
    (hdir : s.files.get? (r ++ [name]) = some .directory)
    (hrun : (caseOf name).run config samples invoker s = (.ok outcome, t)) :
    t.files.Leads t.cwd config.testsDir r ∧ Beside config r names t.cwd := by
  by_cases husable : FileSystem.requireFit (config.testsDir.join (.ofName name)) = .ok () ∧
      name.isTooLong = false
  · obtain ⟨hleads, horigin⟩ := TestCase.leads_of_run_ok (hs.join husable.1 husable.2 hdir)
      (htidy name hname) (fun hmode => avoids_home hs hname (hbeside hmode)) hrun
    change (FileSystem.origin _ (config.testsDir.join (.ofName name))).location =
      (FileSystem.origin _ (config.testsDir.join (.ofName name))).location at horigin
    rw [FileSystem.origin_join_ofName _ hs.nonempty, FileSystem.origin_join_ofName _ hs.nonempty] at horigin
    have hcalled : FileSystem.called t.cwd config.testsDir = r := by
      rw [← hs.called_eq, FileSystem.called, FileSystem.called, horigin]
    have htests := FileSystem.leads_of_resolve_join hs.fit hs.nonempty hleads.resolve_eq
    rw [hcalled] at htests
    exact ⟨htests, fun hmode => (hbeside hmode).congr horigin⟩
  · have hunusable : ∃ e, (caseOf name).run config samples invoker s = (.error e, _) :=
      run_of_unusable hs husable
    obtain ⟨e, hfailed⟩ := hunusable
    rw [hfailed] at hrun
    cases hrun

theorem Visits.kept (hbeside : Beside config r names s.cwd) (h : Visits config samples invoker ns s outcomes t)
    (hns : ∀ n ∈ ns, n ∈ names) (hdirs : ∀ n ∈ names, s.files.get? (r ++ [n]) = some .directory) :
    t.files.Leads t.cwd config.testsDir r ∧ Beside config r names t.cwd ∧
      (∀ n ∈ names, t.files.get? (r ++ [n]) = some .directory) ∧
      ∀ l, (∀ n ∈ ns, (TestCase.workRegion (r ++ [n])).holds l = false) →
        t.files.get? l = s.files.get? l := by
  induction h with
  | nil s => exact ⟨hs, hbeside, hdirs, fun _ _ => rfl⟩
  | @cons name rest s u t outcome outcomes first others ih =>
    obtain ⟨hname, hrest⟩ := List.forall_mem_cons.1 hns
    obtain ⟨hu, hbeside'⟩ := leads_of_run htidy hs hbeside hname (hdirs name hname) first
    have hchanged : ∀ {l}, (TestCase.workRegion (r ++ [name])).holds l = false →
        u.files.get? l = s.files.get? l := run_changes_own_work htidy hs hname (hdirs name hname) first
    obtain ⟨hleads, hlast, hdirs', hkept⟩ := ih hu hbeside' hrest fun n hn =>
      (hchanged (TestCase.not_holds_work_case r name n)).trans (hdirs n hn)
    refine ⟨hleads, hlast, hdirs', fun l hl => ?_⟩
    obtain ⟨hfirst, hothers⟩ := List.forall_mem_cons.1 hl
    exact (hkept l hothers).trans (hchanged hfirst)

end Frame

/-! ### The whole suite -/

/-- The run of cases from `s` that ends in `t` with the failure `e` has come to the case `name`, the first that
fails. It was `u` when that case began. -/
structure StoppedAt (config : Config) (samples : Sample.Inputs) (invoker : Invoker σ) (r : Location)
    (before : List FileName) (name : FileName) (after : List FileName) (s u t : Session σ)
    (e : Failure) : Prop where
  visited : ∃ outcomes, Visits config samples invoker before s outcomes u
  failed : ∃ e', (caseOf name).run config samples invoker u = (.error e', t) ∧
    e = e'.during (.testCase name.text)
  /-- The directory of an earlier case is as that case has left it. -/
  earlier : ∀ visited other rest, before = visited ++ other :: rest → ∃ outcomes v,
    Visits config samples invoker (visited ++ [other]) s outcomes v ∧
      ∀ l, r ++ [other] <+: l → t.files.get? l = v.files.get? l
  /-- No invocation of a later case was issued. -/
  unissued : ∃ issued, t.calls = s.calls ++ issued ∧
    ∀ later ∈ after, ∀ inv ∈ issued, ¬(caseOf later).Issues config samples inv
  untouched : ∀ later ∈ after, ∀ l, r ++ [later] <+: l → t.files.get? l = s.files.get? l

theorem stoppedAt_of_runCases (htidy : Tidy config samples invoker r names)
    (hs : s.files.Leads s.cwd config.testsDir r) (hbeside : Beside config r names s.cwd) (hnodup : names.Nodup)
    (hdirs : ∀ n ∈ names, s.files.get? (r ++ [n]) = some .directory)
    (h : runCases config samples invoker (names.map caseOf) s = (.error e, t)) :
    ∃ before name after u, names = before ++ name :: after ∧
      StoppedAt config samples invoker r before name after s u t e := by
  obtain ⟨before, name, after, outcomes, u, e', rfl, hvisits, hrun, rfl⟩ := runCases_eq_error h
  refine ⟨before, name, after, u, rfl, ?_⟩
  obtain ⟨hbefore, htail, hapart⟩ := List.nodup_append.1 hnodup
  obtain ⟨hfresh, -⟩ := List.nodup_cons.1 htail
  have hname : name ∈ before ++ name :: after := by simp
  obtain ⟨hu, -, hdirs', hkept⟩ :=
    hvisits.kept htidy hs hbeside (fun n hn => List.mem_append_left _ hn) hdirs
  have hlast : ∀ {other : FileName} {l : Location}, name ≠ other → r ++ [other] <+: l →
      t.files.get? l = u.files.get? l := fun hne hl =>
    run_changes_own_work htidy hu hname (hdirs' name hname) hrun (TestCase.not_holds_work_below hne hl)
  refine ⟨⟨outcomes, hvisits⟩, ⟨e', hrun, rfl⟩, fun visited other rest hsplit => ?_, ?_,
    fun later hlater l hl => ?_⟩
  · obtain rfl : before = visited ++ [other] ++ rest := by
      rw [hsplit, List.append_assoc]
      rfl
    obtain ⟨outcomes₁, outcomes₂, v, hfirst, hothers⟩ := hvisits.split
    have hmem : ∀ n ∈ visited ++ [other], n ∈ visited ++ [other] ++ rest ++ name :: after := fun n hn =>
      List.mem_append_left _ (List.mem_append_left _ hn)
    obtain ⟨hv, hbesidev, hdirsv, -⟩ := hfirst.kept htidy hs hbeside hmem hdirs
    obtain ⟨-, -, -, hkeptv⟩ := hothers.kept htidy hv hbesidev
      (fun n hn => List.mem_append_left _ (List.mem_append_right _ hn)) hdirsv
    refine ⟨outcomes₁, v, hfirst, fun l hl => ?_⟩
    have hother : other ∈ visited ++ [other] := by simp
    have hlater : ∀ n ∈ rest, n ≠ other := fun n hn heq =>
      (List.nodup_append.1 hbefore).2.2 other hother n hn heq.symm
    have hne : name ≠ other := fun heq =>
      hapart other (List.mem_append_left _ hother) name List.mem_cons_self heq.symm
    rw [hlast hne hl]
    exact hkeptv l fun n hn => TestCase.not_holds_work_below (hlater n hn) hl
  · obtain ⟨issued, hcalls, hissued⟩ := hvisits.calls
    obtain ⟨issued', hcalls', hissued'⟩ := TestCase.run_calls.of_eq hrun
    refine ⟨issued ++ issued', by rw [hcalls', hcalls, List.append_assoc], ?_⟩
    intro later hlater inv hinv hissues
    obtain hinv | hinv := List.mem_append.1 hinv
    · obtain ⟨n, hn, hissues'⟩ := hissued inv hinv
      exact hapart n hn later (List.mem_cons_of_mem name hlater) (case_of_issues hissues' hissues)
    · exact hfresh (case_of_issues (hissued' inv hinv) hissues ▸ hlater)
  · have hne : name ≠ later := fun heq => hfresh (heq ▸ hlater)
    rw [hlast hne hl]
    exact hkept l fun n hn => TestCase.not_holds_work_below
      (hapart n hn later (List.mem_cons_of_mem name hlater)) hl

/-- **The first failure stops the run.** Take tools that keep to the scratch directories of the case that they
are invoked for, and a path of the tests directory that does not lead through what blessing moves away. Then
the cases are the directories in the tests directory that are not hidden and that its path can call, in name
order. The run succeeds if and only if they succeed one after the other, and yields what these yield.
Otherwise it stops at the first that fails: the earlier cases are left as they were after their own runs, and
of the later ones none has had a tool invoked for it or anything below its directory changed. -/
theorem runAll_stops_at_first_failure
    (hleads : s.files.Leads s.cwd config.testsDir r)
    (hbeside : Beside config r (caseNames s.files config.testsDir r) s.cwd)
    (htidy : Tidy config .relative invoker r (caseNames s.files config.testsDir r)) :
    (caseNames s.files config.testsDir r).Pairwise (· < ·) ∧
    (∀ name, name ∈ caseNames s.files config.testsDir r ↔
      s.files.get? (r ++ [name]) = some .directory ∧ name.isHidden = false ∧
        (config.testsDir.join (.ofName name)).isTooLong = false) ∧
    ∃ events,
      (∀ outcomes t, runAll config invoker s = (.ok outcomes, t) ↔
        Visits config .relative invoker (caseNames s.files config.testsDir r) { s with events }
          outcomes t) ∧
      ∀ e t, runAll config invoker s = (.error e, t) → ∃ before name after u,
        caseNames s.files config.testsDir r = before ++ name :: after ∧
        StoppedAt config .relative invoker r before name after { s with events } u t e := by
  refine ⟨sorted_caseNames _ _ _, fun name => mem_caseNames_iff, ?_⟩
  have hcases : ∃ events, runAll config invoker s = runCases config .relative invoker
      ((caseNames s.files config.testsDir r).map caseOf) { s with events } :=
    runAll_eq_runCases hleads
  obtain ⟨events, hrun⟩ := hcases
  refine ⟨events, fun outcomes t => ?_, fun e t hfailed => ?_⟩
  · rw [hrun]
    exact runCases_eq_ok_iff
  · rw [hrun] at hfailed
    exact stoppedAt_of_runCases htidy hleads hbeside (nodup_caseNames _ _ _) (fun n hn => mem_caseNames hn) hfailed

/-- Three cases, with tools that write nothing: the second one has a source and fails, and what an earlier run has
left of the third stays. -/
theorem runAll_stops_at_second_case :
    let a : FileName := ⟨"a", by decide⟩
    let b : FileName := ⟨"b", by decide⟩
    let c : FileName := ⟨"c", by decide⟩
    let left : Location := [c] ++ [outName] ++ [⟨"left", by decide⟩]
    let files := (((((FileSystem.empty.put [a] .directory).put [b] .directory).put
      ([b] ++ [⟨"s.cpp", by decide⟩]) (.file [] false)).put [c] .directory).put ([c] ++ [outName])
        .directory).put left (.file [1] false)
    let config := Example.config .bless (.ofString ".")
    let s : Session Unit := .start ⟨files, .root⟩ ()
    ∃ e events u t, runAll config Example.idle s = (.error e, t) ∧
      StoppedAt config .relative Example.idle [] [a] b [c] { s with events } u t e ∧
      t.files.get? left = some (.file [1] false) := by
  intro a b c left files config s
  have hnames : caseNames s.files config.testsDir [] = [a, b, c] := by decide +kernel
  have hleft : s.files.get? left = some (.file [1] false) := by decide +kernel
  have hleads : s.files.Leads s.cwd config.testsDir [] := ⟨rfl, rfl, rfl, rfl⟩
  have hbeside : Beside config [] (caseNames s.files config.testsDir []) s.cwd := by
    intro _ front hfront
    change front <+: [] ++ ["."] at hfront
    rw [List.prefix_concat_iff, List.prefix_nil] at hfront
    obtain rfl | rfl := hfront
    · exact Region.rootless _
    · exact Region.rootless _
  have htidy : Tidy config .relative Example.idle [] (caseNames s.files config.testsDir []) :=
    fun _ _ _ _ w _ => .refl _ w
  obtain ⟨-, -, events, -, hstops⟩ := runAll_stops_at_first_failure hleads hbeside htidy
  have hfailed : (runAll config Example.idle s).1 = .error
      ⟨[.testCase "b"], .tool (.missingOutput "cc" (.ofString "b/_bin/s.o") ⟨some 0⟩)⟩ := by
    decide +kernel
  cases hrun : runAll config Example.idle s with
  | mk result t =>
    rw [hrun] at hfailed
    cases hfailed
    obtain ⟨before, name, after, u, hsplit, hstopped⟩ := hstops _ t hrun
    obtain ⟨e', -, he⟩ := hstopped.failed
    obtain rfl : name = b := FileName.ext_text (Task.testCase.inj (List.head_eq_of_cons_eq
      (congrArg Failure.tasks he))).symm
    rw [hnames] at hsplit
    obtain ⟨rfl, -, rfl⟩ := (@List.append_cons_inj_of_notMem _ [a] before [c] after b b (by decide)
      (by decide)).1 hsplit
    exact ⟨_, events, u, t, rfl, hstopped,
      (hstopped.untouched c (List.mem_singleton.2 rfl) left (by decide)).trans hleft⟩

/-- **A later case that reaches back.** The path of the tests directory leads through the outputs of the first
case. These are gone once that case is blessed, and making the scratch directories of the second case brings
them back. -/
theorem runAll_changes_blessed_case :
    let a : FileName := ⟨"a", by decide⟩
    let b : FileName := ⟨"b", by decide⟩
    let files := ((((FileSystem.empty.put [a] .directory).put ([a] ++ [outName]) .directory).put
      ([a] ++ [outName] ++ [⟨"x", by decide⟩]) .directory).put [b] .directory).put
        ([b] ++ [⟨"s.cpp", by decide⟩]) (.file [] false)
    let config := Example.config .bless (.ofString "a/_out/x/../../..")
    let s : Session Unit := .start ⟨files, .root⟩ ()
    let first := (caseOf a).run config .relative Example.idle s
    let whole := runAll config Example.idle s
    first.1 = .ok .blessed ∧
    first.2.files.get? ([a] ++ [outName]) = none ∧
    whole.1 = .error ⟨[.testCase "b"], .tool (.missingOutput "cc" (.ofString "b/_bin/s.o") ⟨some 0⟩)⟩ ∧
    whole.2.files.get? ([a] ++ [outName]) = some .directory := by
  decide +kernel

end Suite

end LinkBench
