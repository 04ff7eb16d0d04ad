import LinkBench.Suite
import LinkBench.Proofs.TestCase.Rerun

/-!
# Accepting the outputs of a suite

Cases that are blessed one after the other stay out of each other's way: each changes its own scratch
directories and accepted outputs, and nothing else (`Blessings.files_kept`). So when all cases run again,
each finds its accepted outputs as its own blessing has left them, and is verified. Two cases have two
directories, since a tree has no links from one to the other.
-/

namespace LinkBench

open TestCase (binName outName expectedName)

/-! ### The parts of the tree that cases work on -/

namespace TestCase

variable {r d l : Location} {m n : FileName}

theorem holds_workRegion_iff : (workRegion d).holds l = true ↔
    ∃ x, (x = binName ∨ x = outName ∨ x = expectedName) ∧ d ++ [x] <+: l := by
  rw [holds_workRegion]
  simp [or_and_right, exists_or]

theorem holds_work_of_scratch (h : (scratchRegion d).holds l = true) : (workRegion d).holds l = true :=
  (owns_workRegion d).holds_scratch h

/-- What one case works on is not what another works on. -/
theorem not_holds_work_of_ne (hne : n ≠ m) (hn : (workRegion (r ++ [n])).holds l = true) :
    (workRegion (r ++ [m])).holds l = false := by
  rw [Bool.eq_false_iff]
  intro hm
  obtain ⟨x, -, hx⟩ := holds_workRegion_iff.1 hn
  obtain ⟨y, -, hy⟩ := holds_workRegion_iff.1 hm
  have heq : r ++ [n] ++ [x] = r ++ [m] ++ [y] :=
    (List.prefix_of_prefix_length_le hx hy (by simp)).eq_of_length (by simp)
  have hcase := List.append_cancel_left (List.append_inj_left' heq rfl)
  exact hne (List.singleton_inj.1 hcase)

end TestCase

namespace Suite

variable {σ : Type} {config : Config} {samples : Sample.Inputs} {invoker : Invoker σ} {r l : Location}
  {name : FileName} {names : List FileName} {w : Workspace} {s t s₁ : Session σ}

def caseOf (name : FileName) : TestCase := ⟨.ofName name⟩

/-- The scratch directories and the accepted outputs of all cases. -/
def workRegion (r : Location) (names : List FileName) : Region :=
  .below (names.flatMap fun n => [r ++ [n] ++ [binName], r ++ [n] ++ [outName],
    r ++ [n] ++ [expectedName]]) (by simp)

theorem holds_workRegion : (workRegion r names).holds l = true ↔
    ∃ n ∈ names, (TestCase.workRegion (r ++ [n])).holds l = true := by
  rw [workRegion, Region.holds_below]
  constructor
  · rintro ⟨top, htop, hpre⟩
    obtain ⟨n, hn, htop⟩ := List.mem_flatMap.1 htop
    refine ⟨n, hn, TestCase.holds_workRegion.2 ?_⟩
    simp only [List.mem_cons, List.not_mem_nil, or_false] at htop
    obtain rfl | rfl | rfl := htop
    · exact .inl hpre
    · exact .inr (.inl hpre)
    · exact .inr (.inr hpre)
  · rintro ⟨n, hn, hwork⟩
    obtain hpre | hpre | hpre := TestCase.holds_workRegion.1 hwork
    all_goals exact ⟨_, List.mem_flatMap.2 ⟨n, hn, by simp⟩, hpre⟩

theorem owns_case (hname : name ∈ names) :
    TestCase.Owns (workRegion r names) (r ++ [name]) where
  bin := holds_workRegion.2 ⟨name, hname, (TestCase.owns_workRegion _).bin⟩
  out := holds_workRegion.2 ⟨name, hname, (TestCase.owns_workRegion _).out⟩
  expected := holds_workRegion.2 ⟨name, hname, (TestCase.owns_workRegion _).expected⟩
  only other h := by
    obtain ⟨n, -, hn⟩ := holds_workRegion.1 h
    obtain ⟨x, hx, hpre⟩ := TestCase.holds_workRegion_iff.1 hn
    have heq : r ++ [n] ++ [x] = r ++ [name] ++ [other] := hpre.eq_of_length (by simp)
    rwa [← List.singleton_inj.1 (List.append_inj_right' heq rfl)]

/-! ### Finding the cases -/

/-- The names of the case directories that are found in the tests directory. -/
def caseNames (files : FileSystem) (testsDir : Path) (r : Location) : List FileName :=
  (((files.children r).filter fun x => !(testsDir.join (.ofName x.1)).isTooLong).filter
    fun x => !x.1.isHidden && x.2.isDirectory).map (·.1)

theorem discover_eq {testsDir : Path} (h : s.files.Leads s.cwd testsDir r) :
    discover testsDir s = (.ok ((caseNames s.files testsDir r).map caseOf), s) := by
  rw [caseNames, List.map_map]
  refine Action.bind_of_ok (Action.mapError_eq_ok_iff.2 ?_) _
  exact congrArg (fun result => (result, s)) h.listDirectory_eq

theorem sorted_caseNames (files : FileSystem) (testsDir : Path) (r : Location) :
    (caseNames files testsDir r).Pairwise (· < ·) :=
  List.pairwise_map.2 (((files.children_sorted r).filter _).filter _)

theorem mem_caseNames_iff {files : FileSystem} {testsDir : Path} :
    name ∈ caseNames files testsDir r ↔ files.get? (r ++ [name]) = some .directory ∧
      name.isHidden = false ∧ (testsDir.join (.ofName name)).isTooLong = false := by
  rw [caseNames, List.mem_map]
  constructor
  · rintro ⟨⟨_, entry⟩, hmem, rfl⟩
    obtain ⟨hmem, htest⟩ := List.mem_filter.1 hmem
    rw [List.mem_filter, FileSystem.mem_children] at hmem
    rw [Bool.and_eq_true, Bool.not_eq_true'] at htest
    obtain ⟨hvisible, hdir⟩ := htest
    cases entry with
    | directory => exact ⟨hmem.1, hvisible, by simpa using hmem.2⟩
    | file bytes executable => cases hdir
    | device d => cases hdir
  · rintro ⟨hdir, hvisible, hshort⟩
    refine ⟨(name, .directory), List.mem_filter.2 ⟨List.mem_filter.2 ⟨?_, ?_⟩, ?_⟩, rfl⟩
    · exact FileSystem.mem_children.2 hdir
    · simpa using hshort
    · simpa using ⟨hvisible, rfl⟩

theorem mem_caseNames {files : FileSystem} {testsDir : Path} (h : name ∈ caseNames files testsDir r) :
    files.get? (r ++ [name]) = some .directory :=
  (mem_caseNames_iff.1 h).1

theorem nodup_caseNames (files : FileSystem) (testsDir : Path) (r : Location) :
    (caseNames files testsDir r).Nodup := by
  refine (sorted_caseNames files testsDir r).imp fun hlt => ?_
  rintro rfl
  exact Std.Irrefl.irrefl _ hlt

/-! ### Reaching the cases -/

/-- The path of a scratch directory leads nowhere if the name of its case is too long. -/
theorem resolve_of_long_name {path : Path} {scratch : FileName} (h : s.files.Leads s.cwd path r)
    (hfit : FileSystem.requireFit ((path.join (.ofName name)).join (.ofName scratch)) = .ok ())
    (hlong : name.isTooLong = true) :
    s.files.resolve s.cwd ((path.join (.ofName name)).join (.ofName scratch)) =
      .error .nameTooLong := by
  have hstep : s.files.step (.ofLocation r) name.text = .error .nameTooLong := by
    rw [FileSystem.step, FileSystem.entryAt?_ofLocation, h.directory]
    simp only [name.ofString?_text, hlong]
    rfl
  rw [FileSystem.resolve_of_fit _ _ hfit (Path.isEmpty_join_ofName _ _),
    FileSystem.origin_join_ofName _ (Path.isEmpty_join_ofName _ _),
    FileSystem.origin_join_ofName _ h.nonempty, Path.segments_join_join_ofName,
    FileSystem.walk_append, h.walk_stem]
  change s.files.walk (.ofLocation r) (name.text :: [scratch.text]) = _
  rw [FileSystem.walk_cons, hstep]
  rfl

/-- A run in which the cases of the names are blessed one after the other. -/
inductive Blessings (config : Config) (samples : Sample.Inputs) (invoker : Invoker σ) (z : Region)
    (r : Location) : List FileName → Session σ → Session σ → Prop
  | nil (s : Session σ) : Blessings config samples invoker z r [] s s
  | cons {name : FileName} {rest : List FileName} {s u v s₁ s₂ : Session σ}
      (first : (caseOf name).Blessing config samples invoker z (r ++ [name]) s u v s₁)
      (others : Blessings config samples invoker z r rest s₁ s₂) :
      Blessings config samples invoker z r (name :: rest) s s₂

section Runs

variable {ns : List FileName} {s₂ : Session σ} (hns : ∀ n ∈ ns, n ∈ names)

theorem Blessings.files_kept (h : Blessings config samples invoker (workRegion r names) r ns s s₂)
    (hl : ∀ n ∈ ns, (TestCase.workRegion (r ++ [n])).holds l = false) :
    s₂.files.get? l = s.files.get? l := by
  induction h with
  | nil s => rfl
  | cons first others ih =>
    obtain ⟨hfirst, hrest⟩ := List.forall_mem_cons.1 hl
    rw [ih hrest, first.files_kept hfirst]

include hns

theorem Blessings.sameOutside
    (h : Blessings config samples invoker (workRegion r names) r ns s s₂) :
    Workspace.SameOutside (workRegion r names) s.toWorkspace s₂.toWorkspace := by
  induction h with
  | nil s => exact .refl _ _
  | cons first others ih =>
    obtain ⟨hfirst, hrest⟩ := List.forall_mem_cons.1 hns
    exact (first.sameOutside (owns_case hfirst)).trans (ih hrest)

omit hns in
theorem Blessings.anchored (h : Blessings config samples invoker (workRegion r names) r ns s s₂)
    (hs : s.files.Anchors s.cwd) : s₂.files.Anchors s₂.cwd := by
  induction h with
  | nil s => exact hs
  | cons first others ih => exact ih first.anchored

variable (hserves : ∀ n ∈ names, ∀ inv, (caseOf n).Issues config samples inv →
  TestCase.Serves invoker (workRegion r names) ((caseOf n).home config) (r ++ [n]) inv)

include hserves

/-- Each case finds its accepted outputs as its own blessing has left them. -/
theorem Blessings.verify (h : Blessings config samples invoker (workRegion r names) r ns s s₂)
    (hnodup : ns.Nodup) (ht : t.files.Anchors t.cwd)
    (hsame : Workspace.SameOutside (workRegion r names) s.toWorkspace t.toWorkspace)
    (hwork : ∀ n ∈ ns, ∀ l, (TestCase.workRegion (r ++ [n])).holds l = true →
      t.files.get? l = s₂.files.get? l) :
    ∃ t₁, runCases { config with mode := .verify } samples invoker (ns.map caseOf) t =
      (.ok (ns.map fun n => (caseOf n, .verified (Golden.accepted s₂.files
        (((caseOf n).home config).join (.ofName expectedName))
          (r ++ [n] ++ [expectedName])).length)), t₁) := by
  induction h generalizing t with
  | nil s => exact ⟨t, rfl⟩
  | @cons name rest s u v s₁ s₂ first others ih =>
    obtain ⟨hname, hrest⟩ := List.forall_mem_cons.1 hns
    obtain ⟨hfresh, hnodup⟩ := List.nodup_cons.1 hnodup
    obtain ⟨hfirstWork, hrestWork⟩ := List.forall_mem_cons.1 hwork
    -- The cases that were blessed later have left the work of this one alone.
    have hapart : ∀ l, (TestCase.workRegion (r ++ [name])).holds l = true →
        ∀ n ∈ rest, (TestCase.workRegion (r ++ [n])).holds l = false := fun l hl n hn =>
      TestCase.not_holds_work_of_ne (fun heq : name = n => hfresh (heq ▸ hn)) hl
    obtain ⟨t₁, hrun, hkept, hsame₁, ht₁⟩ := first.verifies (owns_case hname) (hserves name hname) ht
      hsame fun l hl => (hfirstWork l hl).trans (others.files_kept (hapart l hl))
    have hcount : ∀ n, t.files.get? (r ++ [name] ++ [expectedName] ++ [n]) =
        s₂.files.get? (r ++ [name] ++ [expectedName] ++ [n]) := fun n =>
      hfirstWork _ (TestCase.holds_workRegion.2 (.inr (.inr (List.prefix_append _ _))))
    obtain ⟨t₂, hothers⟩ := ih hrest hnodup ht₁
      ((first.sameOutside (owns_case hname)).symm.trans (hsame.trans hsame₁)) fun n hn l hl => by
        have hscratch : (TestCase.scratchRegion (r ++ [name])).holds l = false := by
          rw [Bool.eq_false_iff]
          intro hscratch
          rw [hapart l (TestCase.holds_work_of_scratch hscratch) n hn] at hl
          cases hl
        rw [FileSystem.outside_eq_iff.1 hkept l hscratch, hrestWork n hn l hl]
    refine ⟨t₂, ?_⟩
    rw [Golden.accepted_congr hcount] at hrun
    exact (Action.bind_of_ok (Action.mapError_eq_ok_iff.2 hrun) _).trans
      ((Action.bind_of_ok hothers _).trans rfl)

end Runs

/-! ### The whole suite -/

/-- A run of the suite is a run of the cases that are found. -/
theorem runAll_of_discover {cases : List TestCase} (h : discover config.testsDir s = (.ok cases, s)) :
    ∃ events, runAll config invoker s =
      runCases config .relative invoker cases { s with events } := by
  rw [runAll, Action.bind_of_ok h]
  split
  · exact ⟨s.events ++ [.noTestCases config.testsDir], rfl⟩
  · exact ⟨s.events, rfl⟩

theorem runAll_eq_runCases (h : s.files.Leads s.cwd config.testsDir r) :
    ∃ events, runAll config invoker s = runCases config .relative invoker
      ((caseNames s.files config.testsDir r).map caseOf) { s with events } :=
  runAll_of_discover (discover_eq h)

end Suite

end LinkBench
