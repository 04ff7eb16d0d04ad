import LinkBench.Proofs.FileSystem.Fit
import LinkBench.Proofs.Golden.Blessing
import LinkBench.Proofs.TestCase.Example

/-!
# Scratch directories

A case makes its scratch directories anew, one after the other, and removes both when it fails later
(`cleanUp_gone`). Between the first and the second nobody feels responsible:
`run_error_leaves_no_scratch_iff` says which prior states end with a scratch directory that stays. The
states are all trees, which have neither links nor access rights: what is in the way of a removal is a
file, or the length of a path.
-/

namespace LinkBench.TestCase

variable {σ : Type} {c : TestCase} {config : Config} {z : Region} {d m : Location}
  {w w' : Workspace} {s t : Session σ} {name : FileName} {path : Path}

def binName : FileName := ⟨"_bin", by decide⟩

def outName : FileName := ⟨"_out", by decide⟩

def expectedName : FileName := ⟨"expected", by decide⟩

/-- The case directory, as seen from the working directory. -/
def home (c : TestCase) (config : Config) : Path :=
  config.testsDir.join c.dir

theorem join_binDir (c : TestCase) (config : Config) :
    config.testsDir.join c.binDir = (c.home config).join (.ofName binName) :=
  Path.join_join config.testsDir c.dir (Path.isAbsolute_ofName binName)

theorem join_outDir (c : TestCase) (config : Config) :
    config.testsDir.join c.outDir = (c.home config).join (.ofName outName) :=
  Path.join_join config.testsDir c.dir (Path.isAbsolute_ofName outName)

theorem join_expectedDir (c : TestCase) (config : Config) :
    config.testsDir.join c.expectedDir = (c.home config).join (.ofName expectedName) :=
  Path.join_join config.testsDir c.dir (Path.isAbsolute_ofName expectedName)

theorem scratch_eq (c : TestCase) (config : Config) : c.scratch config =
    [(c.home config).join (.ofName binName), (c.home config).join (.ofName outName)] := by
  rw [scratch, join_binDir, join_outDir]

/-! ### What a case works on -/

/-- The scratch directories of the case directory `d`, with all that is below them. -/
def scratchRegion (d : Location) : Region :=
  .below [d ++ [binName], d ++ [outName]] (by simp)

/-- The scratch directories and the accepted outputs of the case directory `d`. -/
def workRegion (d : Location) : Region :=
  .below [d ++ [binName], d ++ [outName], d ++ [expectedName]] (by simp)

/-- The region holds what the case works on, and nothing else of the case directory. -/
structure Owns (z : Region) (d : Location) : Prop where
  bin : z.holds (d ++ [binName]) = true
  out : z.holds (d ++ [outName]) = true
  expected : z.holds (d ++ [expectedName]) = true
  only : ∀ name, z.holds (d ++ [name]) = true → name = binName ∨ name = outName ∨ name = expectedName

theorem holds_workRegion {l : Location} : (workRegion d).holds l = true ↔
    d ++ [binName] <+: l ∨ d ++ [outName] <+: l ∨ d ++ [expectedName] <+: l := by
  simp [workRegion, Region.holds_below]

theorem owns_workRegion (d : Location) : Owns (workRegion d) d where
  bin := holds_workRegion.2 (.inl (List.prefix_refl _))
  out := holds_workRegion.2 (.inr (.inl (List.prefix_refl _)))
  expected := holds_workRegion.2 (.inr (.inr (List.prefix_refl _)))
  only name h := by
    rw [holds_workRegion] at h
    simpa [List.prefix_append_right_inj, eq_comm] using h

theorem holds_scratchRegion {l : Location} :
    (scratchRegion d).holds l = true ↔ d ++ [binName] <+: l ∨ d ++ [outName] <+: l := by
  simp [scratchRegion, Region.holds_below]

theorem Owns.holds_scratch (h : Owns z d) {l : Location} (hl : (scratchRegion d).holds l = true) :
    z.holds l = true := by
  obtain ⟨rest, rfl⟩ | ⟨rest, rfl⟩ := holds_scratchRegion.1 hl
  · exact Region.holds_append h.bin rest
  · exact Region.holds_append h.out rest

theorem not_prefix_concat {name other : FileName} (h : name ≠ other) :
    ¬d ++ [name] <+: d ++ [other] := by
  rw [List.prefix_append_right_inj]
  simpa using h

theorem not_prefix_sibling {name other : FileName} (h : name ≠ other) (rest : Location) :
    ¬d ++ [name] <+: d ++ [other] ++ rest := by
  rw [List.append_assoc, List.prefix_append_right_inj]
  simpa using h

/-! ### Making a scratch directory anew -/

/-- The second workspace is the first one with an empty directory at `m`. -/
structure Renewed (w w' : Workspace) (m : Location) : Prop where
  top : w'.files.get? m = some .directory
  empty : ∀ rest, rest ≠ [] → w'.files.get? (m ++ rest) = none
  kept : ∀ l, ¬m <+: l → w'.files.get? l = w.files.get? l
  cwd : w'.cwd = w.cwd.without m

theorem get?_put_of_free {fs : FileSystem} {e : Entry} (hm : fs.get? (d ++ [name]) = none)
    (hdir : fs.get? d = some .directory) (l : Location) :
    (fs.put (d ++ [name]) e).get? l = if l = d ++ [name] then some e else fs.get? l := by
  refine FileSystem.get?_put ⟨by simp, by rwa [List.dropLast_concat], ?_⟩ e l
  rw [hm]
  exact nofun

theorem renewed_of_free (hanchored : w.files.Anchors w.cwd)
    (hm : w.files.get? (d ++ [name]) = none) (hdir : w.files.get? d = some .directory) :
    Renewed w (w.applyAll [.put (d ++ [name]) .directory]) (d ++ [name]) where
  top := (get?_put_of_free hm hdir _).trans (if_pos rfl)
  empty rest hrest := by
    refine (get?_put_of_free hm hdir _).trans ?_
    rw [if_neg (by simpa using hrest)]
    exact FileSystem.get?_eq_none_of_below hm (List.prefix_append _ rest)
  kept l hl := by
    refine (get?_put_of_free hm hdir _).trans (if_neg ?_)
    rintro rfl
    exact hl (List.prefix_refl _)
  cwd := by
    refine (if_neg fun hin => ?_).symm
    have hgone := FileSystem.get?_eq_none_of_below hm hin.2
    rw [hanchored] at hgone
    cases hgone

theorem renewed_of_directory (hdir : w.files.get? d = some .directory) :
    Renewed w (w.applyAll [.clear (d ++ [name]), .erase (d ++ [name]), .put (d ++ [name]) .directory])
      (d ++ [name]) := by
  have hne : d ++ [name] ≠ [] := by simp
  have hfiles : (w.applyAll [.clear (d ++ [name]), .erase (d ++ [name]),
      .put (d ++ [name]) .directory]).files = (w.files.erase (d ++ [name])).put (d ++ [name])
        .directory := by
    change ((w.files.clear _).erase _).put _ _ = _
    rw [FileSystem.erase_clear _ hne]
  have hfree : (w.files.erase (d ++ [name])).get? (d ++ [name]) = none := by
    rw [FileSystem.get?_erase _ hne, if_pos (List.prefix_refl _)]
  have habove : (w.files.erase (d ++ [name])).get? d = some .directory := by
    rw [FileSystem.get?_erase _ hne, if_neg, hdir]
    exact FileSystem.not_concat_below
  refine ⟨?_, fun rest hrest => ?_, fun l hl => ?_, Place.without_after_clear hne w.cwd⟩
  · rw [hfiles, get?_put_of_free hfree habove, if_pos rfl]
  · rw [hfiles, get?_put_of_free hfree habove, if_neg (by simpa using hrest)]
    exact FileSystem.get?_eq_none_of_below hfree (List.prefix_append _ rest)
  · have hlm : l ≠ d ++ [name] := by
      rintro rfl
      exact hl (List.prefix_refl _)
    rw [hfiles, get?_put_of_free hfree habove, if_neg hlm, FileSystem.get?_erase _ hne, if_neg hl]

/-- The changes that make a directory anew where nothing or another directory stands. -/
def renewal (files : FileSystem) (l : Location) : List Change :=
  if files.get? l = none then [.put l .directory] else [.clear l, .erase l, .put l .directory]

theorem renewal_congr {files files' : FileSystem} {l : Location} (h : files.get? l = files'.get? l) :
    renewal files l = renewal files' l := by
  rw [renewal, renewal, h]

theorem renewal_within {l : Location} (hz : z.holds l = true) (files : FileSystem) :
    ∀ change ∈ renewal files l, change.Within z := by
  unfold renewal
  split <;> simp [Change.Within, hz]

theorem renewed_renewal (hanchored : w.files.Anchors w.cwd) (hdir : w.files.get? d = some .directory)
    (name : FileName) :
    Renewed w (w.applyAll (renewal w.files (d ++ [name]))) (d ++ [name]) := by
  unfold renewal
  split
  · exact renewed_of_free hanchored ‹_› hdir
  · exact renewed_of_directory hdir

theorem renew_eq_ok {dir : Path} {removed made : List Change}
    (hremove : Golden.removeIfPresent s.files s.cwd dir = (.ok (), removed))
    (hcreate : (s.change removed).files.createDirAll (s.change removed).cwd dir = (.ok (), made)) :
    renew dir s = (.ok (), (s.change removed).change made) := by
  have hfirst : (Action.altering fun files cwd => Golden.removeIfPresent files cwd dir) s =
      (.ok (), s.change removed) := Action.altering_eq_iff.2 ⟨removed, hremove, rfl⟩
  refine (Action.bind_of_ok (Action.mapError_eq_ok_iff.2 hfirst) _).trans ?_
  exact Action.mapError_eq_ok_iff.2 (Action.altering_eq_iff.2 ⟨made, hcreate, rfl⟩)

theorem renew_of_resolve_error {dir : Path} {e : IoError}
    (h : s.files.resolve s.cwd dir = .error e) (he : e ≠ .notFound) :
    renew dir s = (.error (Failure.ofIo (.remove dir) e), s) := by
  have hremove : Golden.removeIfPresent s.files s.cwd dir = (.error e, []) := by
    rw [FileSystem.removeIfPresent_eq, FileSystem.removeDirAll, h]
    exact FileSystem.forgiving_error he []
  refine Action.bind_of_error (Action.mapError_eq_error_iff.2 ⟨e, ?_, rfl⟩) _
  exact Action.altering_eq_iff.2 ⟨[], hremove, rfl⟩

/-- A path that the system does not take is in nobody's way, but nothing is made of it either. -/
theorem renew_of_not_fit {dir : Path} {e : IoError} (h : FileSystem.requireFit dir = .error e) :
    renew dir s = (.error (Failure.ofIo (.remove dir) e), s) := by
  have hresolve : s.files.resolve s.cwd dir = .error e := by
    rw [FileSystem.resolve, h]
    rfl
  refine renew_of_resolve_error hresolve ?_
  rintro rfl
  unfold FileSystem.requireFit at h
  split at h
  · cases h
  · split at h <;> cases h

section Renew

variable (h : s.toWorkspace.Reaches z path d) (hz : z.holds (d ++ [name]) = true)
  (hfit : FileSystem.requireFit (path.join (.ofName name)) = .ok ()) (hshort : name.isTooLong = false)

include h hz hfit hshort

theorem renew_of_free (hfree : s.files.get? (d ++ [name]) = none ∨
      s.files.get? (d ++ [name]) = some .directory) :
    renew (path.join (.ofName name)) s = (.ok (), s.change (renewal s.files (d ++ [name]))) := by
  have hremove := FileSystem.removeIfPresent_join h hz hfit hshort
  obtain hnone | hdirectory := hfree
  · rw [renewal, if_pos hnone]
    rw [hnone] at hremove
    exact renew_eq_ok hremove (h.leads_tree.createDirAll_join hfit hshort hnone)
  · rw [renewal, if_neg (by rw [hdirectory]; exact nofun)]
    rw [hdirectory] at hremove
    have hreaches : (s.change [.clear (d ++ [name]), .erase (d ++ [name])]).toWorkspace.Reaches z
        path d := h.applyAll (by simp [Change.Within, hz])
    refine renew_eq_ok hremove (hreaches.leads_tree.createDirAll_join hfit hshort ?_)
    change ((s.files.clear _).erase _).get? _ = none
    rw [FileSystem.get?_erase _ (by simp), if_pos (List.prefix_refl _)]

theorem renew_of_blocked {e : Entry} (hentry : s.files.get? (d ++ [name]) = some e)
    (he : e ≠ .directory) :
    renew (path.join (.ofName name)) s =
      (.error (Failure.ofIo (.remove (path.join (.ofName name))) .notADirectory), s) := by
  have hremove := FileSystem.removeIfPresent_join h hz hfit hshort
  rw [hentry] at hremove
  have hblocked : Golden.removeIfPresent s.files s.cwd (path.join (.ofName name)) =
      (.error .notADirectory, []) := by
    rw [hremove]
    cases e <;> first | rfl | exact absurd rfl he
  refine Action.bind_of_error (Action.mapError_eq_error_iff.2 ⟨IoError.notADirectory, ?_, rfl⟩) _
  exact Action.altering_eq_iff.2 ⟨[], hblocked, rfl⟩

end Renew

/-! ### Removing a scratch directory -/

section Discard

variable (h : s.toWorkspace.Reaches z path d) (hz : z.holds (d ++ [name]) = true)
  (hfit : FileSystem.requireFit (path.join (.ofName name)) = .ok ()) (hshort : name.isTooLong = false)

include h hz hfit hshort

/-- A directory that is discarded has gone, and nothing else has. -/
theorem discard_gone :
    ∃ changes, (discard s (path.join (.ofName name))).toWorkspace = s.toWorkspace.applyAll changes ∧
      (∀ change ∈ changes, change.Within z) ∧
      (s.files.applyAll changes).get? (d ++ [name]) ≠ some .directory ∧
      ∀ l, ¬d ++ [name] <+: l → (s.files.applyAll changes).get? l = s.files.get? l := by
  rw [discard, FileSystem.removeIfPresent_join h hz hfit hshort]
  have hne : d ++ [name] ≠ [] := by simp
  by_cases hdir : s.files.get? (d ++ [name]) = some .directory
  · refine ⟨[.clear (d ++ [name]), .erase (d ++ [name])], by rw [hdir]; rfl, ?_, ?_, fun l hl => ?_⟩
    · simp [Change.Within, hz]
    · change ((s.files.clear _).erase _).get? _ ≠ _
      rw [FileSystem.get?_erase _ hne, if_pos (List.prefix_refl _)]
      exact nofun
    · change ((s.files.clear _).erase _).get? _ = _
      rw [FileSystem.erase_clear _ hne, FileSystem.get?_erase _ hne, if_neg hl]
  · refine ⟨[], ?_, nofun, hdir, fun _ _ => rfl⟩
    cases hentry : s.files.get? (d ++ [name]) with
    | none => rfl
    | some e =>
      rw [hentry] at hdir
      cases e <;> first | rfl | exact absurd rfl hdir

end Discard

theorem not_isTooLong_binName : binName.isTooLong = false := by decide

theorem not_isTooLong_outName : outName.isTooLong = false := by decide

/-- What is left by a case that fails behind its preparation: neither scratch directory. -/
theorem cleanUp_gone (hkeep : config.keepFailed = false)
    (h : s.toWorkspace.Reaches z (c.home config) d) (howns : Owns z d)
    (hbin : FileSystem.requireFit ((c.home config).join (.ofName binName)) = .ok ())
    (hout : FileSystem.requireFit ((c.home config).join (.ofName outName)) = .ok ()) :
    (c.cleanUp config s).files.get? (d ++ [binName]) ≠ some .directory ∧
      (c.cleanUp config s).files.get? (d ++ [outName]) ≠ some .directory := by
  rw [cleanUp, hkeep, scratch_eq]
  obtain ⟨first, hfirst, hwithin, hgone, -⟩ :=
    discard_gone h howns.bin hbin not_isTooLong_binName
  have hnext : (discard s ((c.home config).join (.ofName binName))).toWorkspace.Reaches z
      (c.home config) d := by
    rw [hfirst]
    exact h.applyAll hwithin
  obtain ⟨second, hsecond, -, hgone', hkept⟩ :=
    discard_gone hnext howns.out hout not_isTooLong_outName
  have hfiles := congrArg Workspace.files hfirst
  have hfiles' := congrArg Workspace.files hsecond
  rw [Workspace.files_applyAll] at hfiles hfiles'
  refine ⟨?_, ?_⟩
  · change (discard (discard s _) _).files.get? _ ≠ _
    rw [hfiles', hkept _ (not_prefix_concat (by decide)), hfiles]
    exact hgone
  · change (discard (discard s _) _).files.get? _ ≠ _
    rw [hfiles']
    exact hgone'

/-! ### A failed case -/

/-- The tools change files only at some places and below, and leave a working directory that is
elsewhere as it is. -/
def Confined (region : Region) (invoker : Invoker σ) : Prop :=
  ∀ inv w tools, region.holds w.cwd.base = false →
    (invoker inv w tools).workspace.cwd = w.cwd ∧
      (invoker inv w tools).workspace.files.outside region = w.files.outside region

/-- The case directory is reached, and the working directory is in no scratch directory of the case. -/
structure Prepared (z : Region) (path : Path) (d : Location) (w : Workspace) : Prop where
  reaches : w.Reaches z path d
  elsewhere : (scratchRegion d).holds w.cwd.base = false

theorem Owns.outside_eq (howns : Owns z d) {fs gs : FileSystem}
    (h : gs.outside (scratchRegion d) = fs.outside (scratchRegion d)) : gs.outside z = fs.outside z := by
  rw [FileSystem.outside_eq_iff] at h ⊢
  intro l hl
  refine h l ?_
  rw [Bool.eq_false_iff] at hl ⊢
  exact fun hscratch => hl (howns.holds_scratch hscratch)

theorem Prepared.of_confined (howns : Owns z d) (h : Prepared z path d w) (hcwd : w'.cwd = w.cwd)
    (hfiles : w'.files.outside (scratchRegion d) = w.files.outside (scratchRegion d)) :
    Prepared z path d w' := by
  have hanchored : w'.files.Anchors w'.cwd := by
    rw [hcwd, FileSystem.Anchors, FileSystem.outside_eq_iff.1 hfiles _ h.elsewhere]
    exact h.reaches.anchored
  refine ⟨h.reaches.of_sameOutside ⟨howns.outside_eq hfiles, by rw [hcwd]⟩ hanchored, ?_⟩
  rw [hcwd]
  exact h.elsewhere

/-- The invocations that a case can issue. -/
inductive Issues (c : TestCase) (config : Config) (samples : Sample.Inputs) : Invocation → Prop
  | build (language : Language) (entry : FileName × Entry) (source : Source)
      (h : Source.ofEntry? language entry = some source) :
      Issues c config samples
        (config.toolchain.build language (source.path c) (source.objectPath c))
  | static (objects : List Path) (inv : Invocation)
      (h : inv ∈ config.toolchain.staticLinks objects config.staticBase c.externals samples c.outDir) :
      Issues c config samples inv
  | dynamic (objects : List Path) :
      Issues c config samples
        (config.toolchain.dynamicLink objects c.externals config.versions c.outDir)

theorem ofEntry?_of_sources {language : Language} {sources : List Source}
    (h : c.sources config language s = (.ok sources, t)) :
    ∀ source ∈ sources, ∃ x, Source.ofEntry? language x = some source := by
  obtain ⟨entries, u, -, hreturn⟩ := Action.bind_eq_ok_iff.1 h
  cases hreturn
  intro source hsource
  obtain ⟨x, -, hx⟩ := List.mem_filterMap.1 hsource
  exact ⟨x, hx⟩

section Keeps

variable {invoker : Invoker σ} {samples : Sample.Inputs} {I : Workspace → Prop}
  (hinvoker : ∀ inv, Issues c config samples inv →
    ∀ w tools, I w → I (invoker inv w tools).workspace)

include hinvoker

theorem compileEach_keeps (language : Language) (done : List Compiled) (sources : List Source)
    (hsources : ∀ source ∈ sources, ∃ x, Source.ofEntry? language x = some source) :
    (c.compileEach config invoker language done sources).Keeps I := by
  induction sources generalizing done with
  | nil => exact .pure _
  | cons source rest ih =>
    obtain ⟨⟨x, hx⟩, hrest⟩ := List.forall_mem_cons.1 hsources
    rw [compileEach]
    split
    · exact .fail _
    · exact .bind (.mapError (.runTool (hinvoker _ (.build language x source hx))) _) fun _ =>
        ih _ hrest

theorem compileSources_keeps : (c.compileSources config invoker).Keeps I := by
  have hsources : ∀ language, (c.sources config language : Action σ Failure _).Keeps I :=
    fun language => .bind (.mapError (.reading _) _) fun _ => .pure _
  refine .bind_of_ok (hsources .cpp) fun s cpp t hcpp => .bind
    (compileEach_keeps hinvoker .cpp [] cpp (ofEntry?_of_sources hcpp)) fun done => ?_
  exact .bind_of_ok (hsources .assembly) fun s assembly t hassembly => .bind
    (compileEach_keeps hinvoker .assembly done assembly (ofEntry?_of_sources hassembly)) fun _ =>
      .pure _

theorem linkAll_keeps (objects : List Path) :
    (c.linkAll config samples invoker objects).Keeps I :=
  .bind (.forM fun inv hinv => .runTool (hinvoker inv (.static objects inv hinv))) fun _ =>
    .runTool (hinvoker _ (.dynamic objects))

end Keeps

theorem verify_keeps {I : Workspace → Prop} (expectedDir outDir : Path) :
    (Golden.verify expectedDir outDir : Action σ GoldenError Nat).Keeps I := by
  refine .bind (.ask _) fun found => ?_
  split
  · refine .bind (.mapError (.reading _) _) fun names => .bind (.forM fun name _ => ?_) fun _ => .pure _
    refine .bind (.ask _) fun found => ?_
    split
    · refine .bind (.mapError (.reading _) _) fun want => .bind (.mapError (.reading _) _) fun got => ?_
      split
      · exact .fail _
      · exact .report _
    · exact .fail _
  · exact .fail _

/-- A removal by a name in the directory stays within the region also if its path is not fit. -/
theorem removal_within (h : w.Reaches z path d) (hz : z.holds (d ++ [name]) = true)
    (hshort : name.isTooLong = false) :
    ∀ change ∈ (Golden.removeIfPresent w.files w.cwd (path.join (.ofName name))).2,
      change.Within z := by
  have hwhere : ∀ m, w.files.Leads w.cwd (path.join (.ofName name)) m → z.holds m = true :=
    fun m hleads => by
      have hresolve := h.leads_tree.resolve_join hleads.fit hshort
      rw [hleads.resolve_eq] at hresolve
      cases hresolve
      exact hz
  have hremoval := FileSystem.removal h.anchored (path.join (.ofName name))
  generalize Golden.removeIfPresent w.files w.cwd (path.join (.ofName name)) = run at hremoval
  cases hremoval with
  | nothing result hnone hfree => exact nofun
  | whole m hleads hnames => simp [Change.Within, hwhere m hleads]
  | contents m result hleads hlost => simp [Change.Within, hwhere m hleads]

theorem judge_error_reaches {e : Failure} (howns : Owns z d)
    (h : s.toWorkspace.Reaches z (c.home config) d) (hjudge : c.judge config s = (.error e, t)) :
    t.toWorkspace.Reaches z (c.home config) d := by
  unfold judge at hjudge
  cases hmode : config.mode with
  | bless =>
    rw [hmode] at hjudge
    obtain hbless | ⟨_, _, _, hreturn⟩ := Action.bind_eq_error_iff.1 hjudge
    · obtain ⟨e', hbless, -⟩ := Action.mapError_eq_error_iff.1 hbless
      rw [Golden.bless_eq_error hbless, join_expectedDir]
      exact h.applyAll (removal_within h howns.expected (by decide))
    · cases hreturn
  | verify =>
    rw [hmode] at hjudge
    exact Action.Keeps.of_eq (I := fun w => w.Reaches z (c.home config) d)
      (.bind (.mapError (verify_keeps _ _) _) fun files => .bind (.report _) fun _ => .pure _) h hjudge

/-- Wherever a case fails behind its preparation, the case directory is still reached. -/
theorem build_error_reaches {samples : Sample.Inputs} {invoker : Invoker σ} {e : Failure}
    (hconfined : Confined (scratchRegion d) invoker) (howns : Owns z d)
    (h : Prepared z (c.home config) d s.toWorkspace)
    (hbuild : c.build config samples invoker s = (.error e, t)) :
    t.toWorkspace.Reaches z (c.home config) d := by
  have hinvoker : ∀ inv, Issues c config samples inv → ∀ w tools, Prepared z (c.home config) d w →
      Prepared z (c.home config) d (invoker inv w tools).workspace := fun inv _ w tools hw =>
    hw.of_confined howns (hconfined inv w tools hw.elsewhere).1 (hconfined inv w tools hw.elsewhere).2
  obtain hcompile | ⟨objects, u, hcompile, hbuild⟩ := Action.bind_eq_error_iff.1 hbuild
  · exact ((compileSources_keeps hinvoker).of_eq h hcompile).reaches
  have hu := (compileSources_keeps hinvoker).of_eq h hcompile
  obtain hreport | ⟨⟨⟩, v, hreport, hbuild⟩ := Action.bind_eq_error_iff.1 hbuild
  · cases hreport
  have hv := (Action.Keeps.report _).of_eq hu hreport
  have hlinkKeeps : ((c.linkAll config samples invoker objects).mapError Failure.ofTool).Keeps
      (Prepared z (c.home config) d) := .mapError (linkAll_keeps hinvoker objects) _
  obtain hlink | ⟨⟨⟩, x, hlink, hbuild⟩ := Action.bind_eq_error_iff.1 hbuild
  · exact (hlinkKeeps.of_eq hv hlink).reaches
  have hx := hlinkKeeps.of_eq hv hlink
  obtain hreport | ⟨⟨⟩, y, hreport, hjudge⟩ := Action.bind_eq_error_iff.1 hbuild
  · cases hreport
  have hy := (Action.Keeps.report _).of_eq hx hreport
  exact judge_error_reaches howns hy.reaches hjudge

/-! ### The preparation -/

/-- Something other than a directory stands there. -/
def Blocked (files : FileSystem) (l : Location) : Prop :=
  files.get? l ≠ none ∧ files.get? l ≠ some .directory

instance (files : FileSystem) (l : Location) : Decidable (Blocked files l) :=
  inferInstanceAs (Decidable (_ ∧ _))

theorem free_iff {files : FileSystem} {l : Location} :
    ¬Blocked files l ↔ files.get? l = none ∨ files.get? l = some .directory := by
  rw [Blocked, Decidable.not_and_iff_or_not, Decidable.not_not, Decidable.not_not]

/-- The second workspace is the first one with two empty scratch directories. -/
structure Fresh (d : Location) (w w' : Workspace) : Prop where
  bin : w'.files.get? (d ++ [binName]) = some .directory
  out : w'.files.get? (d ++ [outName]) = some .directory
  empty : ∀ l, (scratchRegion d).holds l = true → l ≠ d ++ [binName] → l ≠ d ++ [outName] →
    w'.files.get? l = none
  kept : w'.files.outside (scratchRegion d) = w.files.outside (scratchRegion d)

theorem Renewed.fresh {w₁ w₂ : Workspace} (hbin : Renewed w w₁ (d ++ [binName]))
    (hout : Renewed w₁ w₂ (d ++ [outName])) : Fresh d w w₂ := by
  have hbelow : ∀ rest, w₂.files.get? (d ++ [binName] ++ rest) =
      w₁.files.get? (d ++ [binName] ++ rest) := fun rest =>
        hout.kept _ (not_prefix_sibling (by decide) rest)
  refine ⟨?_, hout.top, fun l hl hneBin hneOut => ?_, FileSystem.outside_eq_iff.2 fun l hl => ?_⟩
  · have htop := hbelow []
    rw [List.append_nil] at htop
    rw [htop, hbin.top]
  · obtain ⟨rest, rfl⟩ | ⟨rest, rfl⟩ := holds_scratchRegion.1 hl
    · rw [hbelow]
      exact hbin.empty rest fun hnil => hneBin (by rw [hnil, List.append_nil])
    · exact hout.empty rest fun hnil => hneOut (by rw [hnil, List.append_nil])
  · rw [Bool.eq_false_iff, Ne, holds_scratchRegion] at hl
    rw [hout.kept l fun hpre => hl (.inr hpre), hbin.kept l fun hpre => hl (.inl hpre)]

theorem Renewed.elsewhere {w₁ w₂ : Workspace} (hbin : Renewed w w₁ (d ++ [binName]))
    (hout : Renewed w₁ w₂ (d ++ [outName])) : (scratchRegion d).holds w₂.cwd.base = false := by
  rw [hout.cwd, hbin.cwd, Bool.eq_false_iff, Ne, holds_scratchRegion]
  rintro (hpre | hpre)
  · exact Place.not_below_base_without (by simp) w.cwd
      (hpre.trans (Place.base_without_above _ _))
  · exact Place.not_below_base_without (by simp) _ hpre

/-- The changes that make both scratch directories anew. -/
def scratchRenewal (files : FileSystem) (d : Location) : List Change :=
  renewal files (d ++ [binName]) ++ renewal files (d ++ [outName])

theorem applyAll_append (w : Workspace) (first second : List Change) :
    w.applyAll (first ++ second) = (w.applyAll first).applyAll second :=
  List.foldl_append

/-- Making the first directory anew does not concern the second one. -/
theorem applyAll_scratchRenewal {w₁ : Workspace} (hbin : Renewed w w₁ (d ++ [binName]))
    (hw₁ : w₁ = w.applyAll (renewal w.files (d ++ [binName]))) :
    w.applyAll (scratchRenewal w.files d) = w₁.applyAll (renewal w₁.files (d ++ [outName])) := by
  have hout := hbin.kept (d ++ [outName]) (not_prefix_concat (by decide))
  rw [scratchRenewal, applyAll_append, ← hw₁, renewal_congr hout]

section Renewal

variable (hbinHeld : z.holds (d ++ [binName]) = true) (houtHeld : z.holds (d ++ [outName]) = true)

include hbinHeld

/-- Behind the preparation, both scratch directories are empty, and the working directory is in neither. -/
theorem fresh_scratchRenewal (hanchored : w.files.Anchors w.cwd)
    (hdir : w.files.get? d = some .directory) :
    Fresh d w (w.applyAll (scratchRenewal w.files d)) ∧
      (scratchRegion d).holds (w.applyAll (scratchRenewal w.files d)).cwd.base = false := by
  have hbin := renewed_renewal hanchored hdir binName
  have hout := renewed_renewal (Workspace.anchors_applyAll (renewal_within hbinHeld w.files) hanchored)
    ((hbin.kept d FileSystem.not_concat_below).trans hdir) outName
  rw [applyAll_scratchRenewal hbin rfl]
  exact ⟨hbin.fresh hout, hbin.elsewhere hout⟩

include houtHeld

theorem scratchRenewal_within (files : FileSystem) :
    ∀ change ∈ scratchRenewal files d, change.Within z :=
  List.forall_mem_append.2 ⟨renewal_within hbinHeld files, renewal_within houtHeld files⟩

/-- Where nothing is in the way, both scratch directories are made anew. -/
theorem prepare_renews (h : s.toWorkspace.Reaches z (c.home config) d)
    (hbin : FileSystem.requireFit ((c.home config).join (.ofName binName)) = .ok ())
    (hout : FileSystem.requireFit ((c.home config).join (.ofName outName)) = .ok ())
    (hbinFree : ¬Blocked s.files (d ++ [binName])) (houtFree : ¬Blocked s.files (d ++ [outName])) :
    (c.scratch config).forM renew s = (.ok (), s.change (scratchRenewal s.files d)) := by
  have hrenewed := renewed_renewal h.anchored h.leads_tree.directory binName
  have hnext : (s.change (renewal s.files (d ++ [binName]))).toWorkspace.Reaches z (c.home config) d :=
    h.applyAll (renewal_within hbinHeld s.files)
  have hfree := free_iff.1 houtFree
  rw [← hrenewed.kept (d ++ [outName]) (not_prefix_concat (by decide))] at hfree
  have hboth : s.change (scratchRenewal s.files d) = (s.change (renewal s.files (d ++ [binName]))).change
      (renewal (s.change (renewal s.files (d ++ [binName]))).files (d ++ [outName])) :=
    congrArg (fun w => { s with toWorkspace := w }) (applyAll_scratchRenewal hrenewed rfl)
  rw [scratch_eq, hboth]
  exact (Action.bind_of_ok (renew_of_free h hbinHeld hbin not_isTooLong_binName
    (free_iff.1 hbinFree)) _).trans ((Action.bind_of_ok
      (renew_of_free hnext houtHeld hout not_isTooLong_outName hfree) _).trans rfl)

end Renewal

section Preparation

variable (h : s.toWorkspace.Reaches z (c.home config) d) (howns : Owns z d)
  (hbin : FileSystem.requireFit ((c.home config).join (.ofName binName)) = .ok ())
  (hout : FileSystem.requireFit ((c.home config).join (.ofName outName)) = .ok ())

include h howns hbin

theorem prepare_of_blocked_bin (hblocked : Blocked s.files (d ++ [binName])) :
    ∃ e, (c.scratch config).forM renew s = (.error e, s) := by
  obtain ⟨entry, hentry⟩ := Option.ne_none_iff_exists'.1 hblocked.1
  have hdir : entry ≠ .directory := by
    rintro rfl
    exact hblocked.2 hentry
  rw [scratch_eq]
  exact ⟨_, Action.bind_of_error
    (renew_of_blocked h howns.bin hbin not_isTooLong_binName hentry hdir) _⟩

omit hbin in
theorem prepare_of_not_first
    (hfirst : FileSystem.requireFit ((c.home config).join (.ofName binName)) ≠ .ok () ∨
      Blocked s.files (d ++ [binName])) : ∃ e, (c.scratch config).forM renew s = (.error e, s) := by
  cases hfit : FileSystem.requireFit ((c.home config).join (.ofName binName)) with
  | ok _ => exact prepare_of_blocked_bin h howns hfit (hfirst.resolve_left fun hne => hne hfit)
  | error e =>
    rw [scratch_eq]
    exact ⟨_, Action.bind_of_error (renew_of_not_fit hfit) _⟩

include hout

/-- The first scratch directory has been made when the second one cannot be. -/
theorem prepare_of_blocked_out (hfree : ¬Blocked s.files (d ++ [binName]))
    (hblocked : Blocked s.files (d ++ [outName])) :
    ∃ e t, (c.scratch config).forM renew s = (.error e, t) ∧
      t.files.get? (d ++ [binName]) = some .directory := by
  have hrenewed := renewed_renewal h.anchored h.leads_tree.directory binName
  have hnext : (s.change (renewal s.files (d ++ [binName]))).toWorkspace.Reaches z (c.home config) d :=
    h.applyAll (renewal_within howns.bin s.files)
  obtain ⟨entry, hentry⟩ := Option.ne_none_iff_exists'.1 hblocked.1
  have hdir : entry ≠ .directory := by
    rintro rfl
    exact hblocked.2 hentry
  rw [scratch_eq]
  refine ⟨_, _, (Action.bind_of_ok (renew_of_free h howns.bin hbin not_isTooLong_binName
    (free_iff.1 hfree)) _).trans (Action.bind_of_error
      (renew_of_blocked hnext howns.out hout not_isTooLong_outName ?_ hdir) _), hrenewed.top⟩
  rw [← hentry]
  exact hrenewed.kept _ (not_prefix_concat (by decide))

/-- Where nothing is in the way, both scratch directories are made, and the working directory is in
neither. -/
theorem prepare_of_free (hbinFree : ¬Blocked s.files (d ++ [binName]))
    (houtFree : ¬Blocked s.files (d ++ [outName])) :
    ∃ changes, (c.scratch config).forM renew s = (.ok (), s.change changes) ∧
      (∀ change ∈ changes, change.Within z) ∧
      Fresh d s.toWorkspace (s.change changes).toWorkspace ∧
      (scratchRegion d).holds (s.change changes).cwd.base = false :=
  ⟨_, prepare_renews howns.bin howns.out h hbin hout hbinFree houtFree,
    scratchRenewal_within howns.bin howns.out s.files,
    fresh_scratchRenewal howns.bin h.anchored h.leads_tree.directory⟩

end Preparation

section Run

variable {samples : Sample.Inputs} {invoker : Invoker σ} {e : Failure}

/-- A case fails before both scratch directories are made, or behind that and cleans up. -/
theorem run_eq_error (hrun : c.run config samples invoker s = (.error e, t)) :
    (c.scratch config).forM renew (s.report (.caseRunning c.name)) = (.error e, t) ∨
      ∃ u v, (c.scratch config).forM renew (s.report (.caseRunning c.name)) = (.ok (), u) ∧
        c.build config samples invoker u = (.error e, v) ∧ t = c.cleanUp config v := by
  obtain hreport | ⟨⟨⟩, r, hreport, hrun⟩ := Action.bind_eq_error_iff.1 hrun
  · cases hreport
  cases hreport
  obtain hprepare | ⟨⟨⟩, u, hprepare, hbuild⟩ := Action.bind_eq_error_iff.1 hrun
  · exact .inl hprepare
  refine .inr ⟨u, ?_⟩
  unfold Action.onFailure at hbuild
  cases hpair : c.build config samples invoker u with
  | mk result v =>
    rw [hpair] at hbuild
    cases result with
    | ok outcome => cases hbuild
    | error e' =>
      cases hbuild
      exact ⟨v, hprepare, rfl, rfl⟩

/-- **What a failed case leaves.** A case whose directory is reached without the help of its own work, and
whose tools keep to the scratch directories, leaves none of these behind when it fails behind their
preparation. If the first one cannot be made, what was there stays; if only the second one cannot, the
first is left. -/
theorem run_error_leaves_no_scratch_iff (hkeep : config.keepFailed = false)
    (hreaches : s.toWorkspace.Reaches (workRegion d) (c.home config) d)
    (hconfined : Confined (scratchRegion d) invoker)
    (hrun : c.run config samples invoker s = (.error e, t)) :
    (t.files.get? (d ++ [binName]) ≠ some .directory ∧
        t.files.get? (d ++ [outName]) ≠ some .directory) ↔
      if FileSystem.requireFit ((c.home config).join (.ofName binName)) ≠ .ok () ∨
          Blocked s.files (d ++ [binName]) then
        s.files.get? (d ++ [binName]) ≠ some .directory ∧
          s.files.get? (d ++ [outName]) ≠ some .directory
      else ¬Blocked s.files (d ++ [outName]) := by
  have howns := owns_workRegion d
  have hstart : (s.report (.caseRunning c.name)).toWorkspace.Reaches (workRegion d) (c.home config) d :=
    hreaches
  have hcases := run_eq_error hrun
  -- The first directory comes first: what is in its way keeps everything else as it was.
  by_cases hfirst : FileSystem.requireFit ((c.home config).join (.ofName binName)) ≠ .ok () ∨
      Blocked s.files (d ++ [binName])
  · obtain ⟨e', hprepare⟩ := prepare_of_not_first hstart howns hfirst
    rw [if_pos hfirst]
    rw [hprepare] at hcases
    obtain hprepared | ⟨u, v, hprepared, -⟩ := hcases
    · cases hprepared
      exact Iff.rfl
    · cases hprepared
  rw [if_neg hfirst]
  obtain ⟨hbin, hblocked⟩ := not_or.1 hfirst
  rw [ne_eq, Decidable.not_not] at hbin
  have hout := Path.requireFit_join_of_le (y := outName) (by decide) (by decide) hbin
  -- From here on the first directory is made, and it is removed only if the second one is made as well.
  by_cases hblockedOut : Blocked s.files (d ++ [outName])
  · obtain ⟨e', u, hprepare, hleft⟩ := prepare_of_blocked_out hstart howns hbin hout hblocked hblockedOut
    rw [hprepare] at hcases
    obtain hprepared | ⟨_, _, hprepared, -⟩ := hcases
    · cases hprepared
      exact ⟨fun h => absurd hleft h.1, fun h => absurd hblockedOut h⟩
    · cases hprepared
  · obtain ⟨changes, hprepare, hwithin, -, helsewhere⟩ :=
      prepare_of_free hstart howns hbin hout hblocked hblockedOut
    rw [hprepare] at hcases
    obtain hprepared | ⟨u, v, hprepared, hbuild, rfl⟩ := hcases
    · cases hprepared
    · cases hprepared
      have hreached := build_error_reaches hconfined howns
        ⟨hstart.applyAll hwithin, helsewhere⟩ hbuild
      exact ⟨fun _ => hblockedOut, fun _ => cleanUp_gone hkeep hreached howns hbin hout⟩

/-- A case with one source, and a compiler that cannot be started. -/
theorem run_error_of_missing_compiler :
    let dir : Location := [⟨"c", by decide⟩]
    let files := ((FileSystem.empty.put dir .directory).put
      (dir ++ [⟨"a.cpp", by decide⟩]) (.file [] false)).put (dir ++ [outName]) .directory
    let config := Example.config .verify (.ofString ".")
    ∃ e t, (⟨.ofString "c"⟩ : TestCase).run config .relative Example.missing
        (.start ⟨files, .root⟩ ()) = (.error e, t) ∧
      t.files.get? (dir ++ [binName]) ≠ some .directory ∧
      t.files.get? (dir ++ [outName]) ≠ some .directory := by
  intro dir files config
  have hreaches : (⟨files, .root⟩ : Workspace).Reaches (workRegion dir)
      ((⟨.ofString "c"⟩ : TestCase).home config) dir := ⟨rfl, rfl, rfl, rfl, rfl⟩
  have hconfined : Confined (scratchRegion dir) Example.missing := fun _ _ _ _ => ⟨rfl, rfl⟩
  have hfailed : ((⟨.ofString "c"⟩ : TestCase).run config .relative Example.missing
      (.start ⟨files, .root⟩ ())).1.isOk = false := by decide +kernel
  cases hrun : (⟨.ofString "c"⟩ : TestCase).run config .relative Example.missing
      (.start ⟨files, .root⟩ ()) with
  | mk result t =>
    rw [hrun] at hfailed
    cases result with
    | ok outcome => cases hfailed
    | error e =>
      exact ⟨e, t, rfl,
        (run_error_leaves_no_scratch_iff rfl hreaches hconfined hrun).2 (by decide +kernel)⟩

/-- **A scratch directory that stays.** A file in the place of the second scratch directory: the case
fails, and the first one is left. -/
theorem run_error_leaves_bin :
    let dir : Location := [⟨"c", by decide⟩]
    let files := (FileSystem.empty.put dir .directory).put (dir ++ [outName]) (.file [0] false)
    let config := Example.config .verify (.ofString ".")
    let run := (⟨.ofString "c"⟩ : TestCase).run config .relative Example.idle
      (.start ⟨files, .root⟩ ())
    Confined (scratchRegion dir) Example.idle ∧
      run.1 = .error (Failure.ofIo (.remove (.ofString "./c/_out")) .notADirectory) ∧
      run.2.files.get? (dir ++ [binName]) = some .directory :=
  ⟨fun _ _ _ _ => ⟨rfl, rfl⟩, rfl, rfl⟩

end Run

end LinkBench.TestCase
