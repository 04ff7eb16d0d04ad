import LinkBench.Proofs.Suite.FirstFailure
import LinkBench.Proofs.TestCase.Artifacts

/-!
# No artifact overwrites another

Over all cases of a suite, no two invocations declare the same output (`runAll_never_overwrites`). The one
source that would have its object elsewhere is one that is called by nothing but its extension. What a run does
between its tools brings no file into a case directory, so such a source is not there later unless it was there
before. Outputs are told apart by their paths, which is enough where a tree has no links.
-/

namespace LinkBench

open TestCase (binName outName expectedName HasFile)

variable {σ : Type} {fs gs : FileSystem} {l d : Location} {change : Change} {changes : List Change}
  {w : Workspace} {cwd p : Place} {path : Path} {entry : Entry}

/-! ### Changes that bring no file -/

namespace FileSystem

/-- A file system where every regular file was one in another before. -/
def NoNewFile (fs gs : FileSystem) : Prop :=
  ∀ l entry, gs.get? l = some entry → entry.isRegular = true → fs.get? l = some entry

theorem noNewFile_restrict (keep : Location → Bool)
    (hkeep : ∀ (l : Location) (name : FileName), keep (l ++ [name]) → keep l) :
    NoNewFile fs (fs.restrict keep hkeep) := by
  intro l entry hentry _
  rw [get?_restrict] at hentry
  split at hentry
  · exact hentry
  · cases hentry

theorem noNewFile_put (fs : FileSystem) (l : Location) : NoNewFile fs (fs.put l .directory) := by
  intro m entry hentry hregular
  by_cases hplace : fs.Placeable l
  · rw [get?_put hplace] at hentry
    split at hentry
    · cases hentry
      cases hregular
    · exact hentry
  · rwa [put, dif_neg hplace] at hentry

theorem mem_makeDirectories {xs : List String} (h : change ∈ (fs.makeDirectories p xs).2) :
    ∃ l, change = .put l .directory := by
  induction xs generalizing fs p with
  | nil => cases h
  | cons segment rest ih =>
    rw [makeDirectories] at h
    split at h
    · cases h
    · split at h
      · exact ih h
      · cases h
      · obtain rfl | hothers := List.mem_cons.1 h
        · exact ⟨_, rfl⟩
        · exact ih hothers

theorem mem_createDirAll (h : change ∈ (fs.createDirAll cwd path).2) : ∃ l, change = .put l .directory := by
  rw [createDirAll] at h
  split at h
  · cases h
  · split at h
    · cases h
    · exact mem_makeDirectories h

/-- A change that removes something or makes a directory. -/
inductive Plain : Change → Prop
  | clear (l : Location) : Plain (.clear l)
  | erase (l : Location) : Plain (.erase l)
  | makeDirectory (l : Location) : Plain (.put l .directory)

theorem Plain.noNewFile (h : Plain change) (fs : FileSystem) : NoNewFile fs (fs.apply change) := by
  cases h with
  | clear l => exact noNewFile_restrict _ _
  | erase l => exact noNewFile_restrict _ _
  | makeDirectory l => exact noNewFile_put fs l

theorem Plain.location (h : Plain change) (p : Place) : (p.after change).location = p.location := by
  cases h with
  | clear l => exact Place.location_after_clear p l
  | erase l => exact Place.location_without p l
  | makeDirectory l => rfl

theorem plain_removeIfPresent (h : change ∈ (Golden.removeIfPresent fs cwd path).2) : Plain change := by
  obtain rfl | rfl := mem_removeIfPresent h
  · exact .clear _
  · exact .erase _

theorem plain_createDirAll (h : change ∈ (fs.createDirAll cwd path).2) : Plain change := by
  obtain ⟨l, rfl⟩ := mem_createDirAll h
  exact .makeDirectory l

end FileSystem

/-! ### Sources without a stem -/

theorem TestCase.HasFile.of_noNewFile {name : FileName} (h : FileSystem.NoNewFile fs gs)
    (hfile : HasFile gs d name) : HasFile fs d name := by
  obtain ⟨entry, hentry, hregular⟩ := hfile
  obtain ⟨hplain, hentry⟩ := FileSystem.get?_of_get?_outside hentry
  exact ⟨entry, (FileSystem.get?_outside_of_not_holds hplain).trans (h _ entry hentry hregular), hregular⟩

namespace Suite

variable {config : Config} {samples : Sample.Inputs} {invoker : Invoker σ} {names ns : List FileName}
  {n m name : FileName} {inv : Invocation} {s t u : Session σ} {r : Location}

/-- A regular file lies directly in the directory that the path of the case calls. -/
def Stands (config : Config) (n : FileName) (w : Workspace) (file : FileName) : Prop :=
  HasFile w.files (FileSystem.called w.cwd ((caseOf n).home config)) file

/-- No case has a source that is called by nothing but its extension. -/
def Stemmed (config : Config) (names : List FileName) (w : Workspace) : Prop :=
  ∀ n ∈ names, ∀ (language : Language) (file : FileName),
    file.text = "." ++ "." ++ language.extension → ¬Stands config n w file

/-- The tools bring no file into the directory of a case. -/
def BringsNoFile (config : Config) (samples : Sample.Inputs) (invoker : Invoker σ) (names : List FileName) :
    Prop :=
  ∀ n ∈ names, ∀ inv, (caseOf n).Issues config samples inv → ∀ w tools, ∀ m ∈ names, ∀ file,
    Stands config m (invoker inv w tools).workspace file → Stands config m w file

theorem Stemmed.applyAll (h : Stemmed config names w)
    (hchanges : ∀ change ∈ changes, FileSystem.Plain change) :
    Stemmed config names (w.applyAll changes) := by
  induction changes generalizing w with
  | nil => exact h
  | cons change rest ih =>
    obtain ⟨hfirst, hrest⟩ := List.forall_mem_cons.1 hchanges
    refine ih (w := w.apply change) (fun n hn language file hfile hstands => ?_) hrest
    refine h n hn language file hfile ?_
    have hcalled := FileSystem.called_congr (hfirst.location w.cwd) ((caseOf n).home config)
    unfold Stands at hstands ⊢
    rw [← hcalled]
    exact hstands.of_noNewFile (hfirst.noNewFile w.files)

/-- The outputs that are accepted take another name beside the sources. -/
theorem Stemmed.move (h : Stemmed config names w)
    (hhome : ∀ k, FileSystem.called w.cwd ((caseOf k).home config) = r ++ [k]) (n : FileName) :
    Stemmed config names
      (w.apply (.move (r ++ [n] ++ [outName]) (r ++ [n] ++ [expectedName]))) := by
  intro m hm language file hfile hstands
  refine h m hm language file hfile ?_
  have hcalled : FileSystem.called (w.cwd.after (.move (r ++ [n] ++ [outName]) (r ++ [n] ++ [expectedName])))
      ((caseOf m).home config) = r ++ [m] := by
    rw [← hhome m]
    refine FileSystem.called_after_move fun hpre => ?_
    rw [hhome] at hpre
    have hlength := hpre.length_le
    simp at hlength
  have hwork : n ∈ [n, m] ∧ m ∈ [n, m] := by simp
  have hplain : (workRegion r [n, m]).holds (r ++ [m] ++ [file]) = false := by
    rw [Bool.eq_false_iff]
    intro hholds
    have hdot : '.' ∉ file.text.toList := by
      obtain rfl | rfl | rfl := (owns_case hwork.2).only file hholds <;> decide
    rw [hfile] at hdot
    simp at hdot
  have hmoved : ((w.files.apply (.move (r ++ [n] ++ [outName]) (r ++ [n] ++ [expectedName]))).outside
      (workRegion r [n, m])) = w.files.outside (workRegion r [n, m]) :=
    FileSystem.outside_move (owns_case hwork.1).out (owns_case hwork.1).expected
  rw [Stands, Workspace.apply, hcalled, TestCase.hasFile_iff hfile,
    FileSystem.outside_eq_iff.1 hmoved _ hplain] at hstands
  rwa [Stands, hhome, TestCase.hasFile_iff hfile]

/-! ### What the harness does between its tools -/

theorem renew_stemmed (dir : Path) :
    (TestCase.renew dir : Action σ Failure Unit).Keeps (Stemmed config names) :=
  .bind (.mapError (.altering fun _ h => h.applyAll fun _ => FileSystem.plain_removeIfPresent) _) fun _ =>
    .mapError (.altering fun _ h => h.applyAll fun _ => FileSystem.plain_createDirAll) _

theorem prepare_stemmed (c : TestCase) :
    ((c.scratch config).forM TestCase.renew : Action σ Failure Unit).Keeps (Stemmed config names) :=
  .forM fun dir _ => renew_stemmed dir

theorem cleanUp_stemmed (c : TestCase) (h : Stemmed config names s.toWorkspace) :
    Stemmed config names (c.cleanUp config s).toWorkspace := by
  have hdiscard : ∀ {s : Session σ} (dir : Path), Stemmed config names s.toWorkspace →
      Stemmed config names (TestCase.discard s dir).toWorkspace := by
    intro s dir hs
    rw [TestCase.workspace_discard]
    exact hs.applyAll fun _ => FileSystem.plain_removeIfPresent
  rw [TestCase.cleanUp, TestCase.scratch_eq]
  split
  · exact h
  · exact hdiscard _ (hdiscard _ h)

theorem bless_stemmed (hne : config.testsDir.isEmpty = false) (n : FileName) :
    (Golden.bless (((caseOf n).home config).join (.ofName outName))
      (((caseOf n).home config).join (.ofName expectedName)) : Action σ GoldenError Unit).Keeps
        (Stemmed config names) := by
  intro s hs
  cases hbless : Golden.bless (((caseOf n).home config).join (.ofName outName))
      (((caseOf n).home config).join (.ofName expectedName)) s with
  | mk result t =>
    cases result with
    | error e =>
      rw [Golden.bless_eq_error hbless]
      exact hs.applyAll fun _ => FileSystem.plain_removeIfPresent
    | ok _ =>
      have hempty : ((caseOf n).home config).isEmpty = false := Path.isEmpty_join_ofName _ n
      obtain ⟨removed, hremove, hremoved, -, -, -, hafter⟩ :=
        Golden.bless_join_eq_ok hempty (by decide) hbless
      have hkept : Stemmed config names (s.toWorkspace.applyAll removed) := hs.applyAll fun change hchange =>
        FileSystem.plain_removeIfPresent (by rwa [hremove])
      have hhome : ∀ k : FileName, FileSystem.called s.cwd ((caseOf k).home config) =
          FileSystem.called s.cwd config.testsDir ++ [k] := FileSystem.called_join hne s.cwd
      rw [hafter, hhome]
      exact hkept.move (fun k => by rw [FileSystem.called_congr (Golden.location_of_removed hremoved), hhome]) n

theorem judge_stemmed (hne : config.testsDir.isEmpty = false) (n : FileName) :
    ((caseOf n).judge config : Action σ Failure Outcome).Keeps (Stemmed config names) := by
  cases hmode : config.mode with
  | verify => exact TestCase.judge_keeps hmode
  | bless =>
    unfold TestCase.judge
    rw [hmode, TestCase.join_outDir, TestCase.join_expectedDir]
    exact .bind (.mapError (bless_stemmed hne n) _) fun _ => .pure _

theorem invoker_stemmed (htools : BringsNoFile config samples invoker names) (hn : n ∈ names) :
    ∀ inv, (caseOf n).Issues config samples inv → ∀ w tools,
      Stemmed config names w → Stemmed config names (invoker inv w tools).workspace :=
  fun inv hinv w tools h m hm language file hfile hstands =>
    h m hm language file hfile (htools n hn inv hinv w tools m hm file hstands)

theorem run_stemmed (hne : config.testsDir.isEmpty = false)
    (htools : BringsNoFile config samples invoker names) (hn : n ∈ names) :
    ((caseOf n).run config samples invoker).Keeps (Stemmed config names) := by
  refine .bind (.report _) fun _ => .bind (prepare_stemmed _) fun _ => .onFailure ?_ fun _ => cleanUp_stemmed _
  rw [TestCase.build_eq]
  exact .bind (TestCase.make_keeps (invoker_stemmed htools hn)) fun _ => judge_stemmed hne n

/-! ### The cases of a suite -/

/-- A listing shows what stands in the directory that the path calls. -/
theorem stem_of_sources (h : Stemmed config names s.toWorkspace) (hn : n ∈ names) {language : Language}
    {sources : List Source} (hlisted : (caseOf n).sources config language s = (.ok sources, t)) :
    ∀ source ∈ sources, source.stem ≠ "." := by
  obtain ⟨entries, u, hread, hreturn⟩ := Action.bind_eq_ok_iff.1 hlisted
  cases hreturn
  have hlist : s.files.listDirectory s.cwd ((caseOf n).home config) = .ok entries :=
    congrArg Prod.fst (Action.mapError_eq_ok_iff.1 hread)
  obtain ⟨p, hresolve, rfl⟩ := FileSystem.listDirectory_eq_ok hlist
  have hlocation := FileSystem.location_of_resolve hresolve
  intro source hsource hdot
  obtain ⟨x, hx, hentry⟩ := List.mem_filterMap.1 hsource
  obtain ⟨hname, -, htext, hregular⟩ := Source.ofEntry?_eq_some_iff.1 hentry
  have hmem := (List.mem_filter.1 hx).1
  split at hmem
  · rename_i hlive
    rw [Place.eq_ofLocation hlive, hlocation] at hmem
    rw [hdot] at htext
    exact h n hn language x.1 htext
      ((TestCase.hasFile_iff htext).2 ⟨x.2, FileSystem.mem_children.1 hmem, hregular⟩)
  · cases hmem

/-- What is found are cases of the tests directory, each once. -/
theorem discover_cases (testsDir : Path) (s : Session σ) :
    (∃ e, discover testsDir s = (.error e, s)) ∨
      ∃ ns : List FileName, ns.Sublist (caseNames s.files testsDir (FileSystem.called s.cwd testsDir)) ∧
        testsDir.isEmpty = false ∧ discover testsDir s = (.ok (ns.map caseOf), s) := by
  cases hlist : s.files.listDirectory s.cwd testsDir with
  | error e =>
    have hread : (Action.reading fun files cwd => files.listDirectory cwd testsDir : Action σ IoError _) s =
        (.error e, s) := congrArg (fun result => (result, s)) hlist
    exact .inl ⟨_, Action.bind_of_error (Action.mapError_eq_error_iff.2 ⟨e, hread, rfl⟩) _⟩
  | ok entries =>
    have hread : (Action.reading fun files cwd => files.listDirectory cwd testsDir : Action σ IoError _) s =
        (.ok entries, s) := congrArg (fun result => (result, s)) hlist
    obtain ⟨p, hresolve, rfl⟩ := FileSystem.listDirectory_eq_ok hlist
    have hlocation := FileSystem.location_of_resolve hresolve
    refine .inr ⟨_, ?_, (FileSystem.resolve_eq_ok_iff.1 hresolve).2.1,
      (Action.bind_of_ok (Action.mapError_eq_ok_iff.2 hread) _).trans
        (congrArg (fun cases => (Except.ok cases, s)) (List.map_map (f := Prod.fst) (g := caseOf)).symm)⟩
    rw [caseNames]
    refine .map _ (.filter _ (.filter _ ?_))
    split
    · rename_i hlive
      rw [Place.eq_ofLocation hlive, hlocation]
      exact List.Sublist.refl _
    · exact List.nil_sublist _

theorem head_of_declared (h : (caseOf n).Declares config samples inv) :
    ∀ output ∈ inv.outputs, output.segments.head? = some n.text := by
  intro output houtput
  cases h with
  | build language source file before hinv houtputs hargs =>
    rw [houtputs] at houtput
    rw [List.mem_singleton.1 houtput]
    exact head_of_output binName (Path.isAbsolute_ofName file)
  | link objects hinv houtputs =>
    obtain ⟨⟨file, rfl⟩, -⟩ := houtputs output houtput
    exact head_of_output outName (Path.isAbsolute_ofName file)

theorem runCases_artifacts {result : Except Failure (List (TestCase × Outcome))}
    (hne : config.testsDir.isEmpty = false) (htools : BringsNoFile config samples invoker names)
    (hs : Stemmed config names s.toWorkspace) (hsub : ns ⊆ names) (hnodup : ns.Nodup)
    (hrun : runCases config samples invoker (ns.map caseOf) s = (result, t)) :
    ∃ issued, t.calls = s.calls ++ issued ∧ (issued.flatMap (·.outputs)).Nodup ∧
      ∀ inv ∈ issued, ∃ n ∈ ns, (caseOf n).Declares config samples inv := by
  induction ns generalizing s t result with
  | nil =>
    cases hrun
    exact ⟨[], (List.append_nil _).symm, .nil, List.forall_mem_nil _⟩
  | cons n rest ih =>
    obtain ⟨hn, hrest⟩ := List.cons_subset.1 hsub
    obtain ⟨hfresh, hnodup⟩ := List.nodup_cons.1 hnodup
    rw [List.map_cons, runCases, Action.bind_apply, Action.mapError] at hrun
    cases hfirst : (caseOf n).run config samples invoker s with
    | mk first u =>
      obtain ⟨issued, hcalls, hartifacts⟩ := TestCase.run_artifacts
        (fun _ _ _ _ h => stem_of_sources h hn) (invoker_stemmed htools hn) (prepare_stemmed _) hs hfirst
      have hown : ∀ inv ∈ issued, ∃ m ∈ n :: rest, (caseOf m).Declares config samples inv :=
        fun inv hinv => ⟨n, List.mem_cons_self, hartifacts.declared inv hinv⟩
      rw [hfirst] at hrun
      cases first with
      | error e =>
        cases hrun
        exact ⟨issued, hcalls, hartifacts.distinct, hown⟩
      | ok outcome =>
        have hu := (run_stemmed hne htools hn).of_eq hs hfirst
        dsimp only at hrun
        rw [Action.bind_apply] at hrun
        cases hothers : runCases config samples invoker (rest.map caseOf) u with
        | mk others v =>
          obtain ⟨issued', hcalls', hdistinct', hdeclared'⟩ := ih hu hrest hnodup hothers
          have hlast : v = t := by
            rw [hothers] at hrun
            cases others <;> cases hrun <;> rfl
          subst hlast
          refine ⟨issued ++ issued', by rw [hcalls', hcalls, List.append_assoc], ?_,
            List.forall_mem_append.2 ⟨hown, fun inv hinv => ?_⟩⟩
          · rw [List.flatMap_append]
            refine List.nodup_append.2 ⟨hartifacts.distinct, hdistinct', ?_⟩
            rintro output houtput _ houtput' rfl
            obtain ⟨inv, hinv, houtput⟩ := List.mem_flatMap.1 houtput
            obtain ⟨inv', hinv', houtput'⟩ := List.mem_flatMap.1 houtput'
            obtain ⟨m, hm, hdeclares⟩ := hdeclared' inv' hinv'
            have hsame := (head_of_declared (hartifacts.declared inv hinv) output houtput).symm.trans
              (head_of_declared hdeclares output houtput')
            exact hfresh (FileName.ext_text (Option.some.inj hsame) ▸ hm)
          · obtain ⟨m, hm, hdeclares⟩ := hdeclared' inv hinv
            exact ⟨m, List.mem_cons_of_mem n hm, hdeclares⟩

/-- **No artifact overwrites another.** Let no case have a source that is called by nothing but its extension,
and let the tools bring no file into a case directory. Then the outputs that all invocations of a run declare
are distinct, however it ends. Each is directly in the scratch directory of its case that is for its kind, and
is what the tool is told to write: a compile step has it behind `-o`, and a link as the value of exactly one
argument. -/
theorem runAll_never_overwrites {result : Except Failure (List (TestCase × Outcome))}
    (hstemmed : Stemmed config
      (caseNames s.files config.testsDir (FileSystem.called s.cwd config.testsDir)) s.toWorkspace)
    (htools : BringsNoFile config .relative invoker
      (caseNames s.files config.testsDir (FileSystem.called s.cwd config.testsDir)))
    (hrun : runAll config invoker s = (result, t)) :
    ∃ issued, t.calls = s.calls ++ issued ∧ (issued.flatMap (·.outputs)).Nodup ∧
      ∀ inv ∈ issued, ∃ n ∈ caseNames s.files config.testsDir (FileSystem.called s.cwd config.testsDir),
        (caseOf n).Declares config .relative inv := by
  obtain ⟨e, hfailed⟩ | ⟨ns, hns, hne, hfound⟩ := discover_cases config.testsDir s
  · rw [runAll, Action.bind_of_error hfailed] at hrun
    cases hrun
    exact ⟨[], (List.append_nil _).symm, .nil, List.forall_mem_nil _⟩
  · have hcases : ∃ events, runAll config invoker s =
        runCases config .relative invoker (ns.map caseOf) { s with events } := runAll_of_discover hfound
    obtain ⟨events, hcases⟩ := hcases
    rw [hcases] at hrun
    obtain ⟨issued, hcalls, hdistinct, hdeclared⟩ := runCases_artifacts hne htools (s := { s with events })
      hstemmed hns.subset (hns.nodup (nodup_caseNames _ _ _)) hrun
    refine ⟨issued, hcalls, hdistinct, fun inv hinv => ?_⟩
    obtain ⟨n, hn, hdeclares⟩ := hdeclared inv hinv
    exact ⟨n, hns.subset hn, hdeclares⟩

theorem stands_of_put {scratch file file' : FileName} (hne : config.testsDir.isEmpty = false)
    (hscratch : m ≠ scratch) (h : Stands config m (w.apply (.put (l ++ [scratch] ++ [file']) entry)) file) :
    Stands config m w file := by
  obtain ⟨found, hfound, hregular⟩ := h
  obtain ⟨hplain, hfound⟩ := FileSystem.get?_of_get?_outside hfound
  refine ⟨found, (FileSystem.get?_outside_of_not_holds hplain).trans ?_, hregular⟩
  have hhome : FileSystem.called w.cwd ((caseOf m).home config) =
      FileSystem.called w.cwd config.testsDir ++ [m] := FileSystem.called_join hne w.cwd m
  change (w.files.put (l ++ [scratch] ++ [file']) entry).get?
    (FileSystem.called w.cwd ((caseOf m).home config) ++ [file]) = some found at hfound
  by_cases hplace : w.files.Placeable (l ++ [scratch] ++ [file'])
  · rw [FileSystem.get?_put hplace, if_neg] at hfound
    · exact hfound
    · rw [hhome]
      intro heq
      have hlast := List.append_inj_right' (List.append_inj_left' heq rfl) rfl
      exact hscratch (List.singleton_inj.1 hlast)
  · rwa [FileSystem.put, dif_neg hplace] at hfound

/-- Two cases with sources of the same name, and a tool that writes both objects. -/
theorem runAll_never_overwrites_equal_names :
    let a : FileName := ⟨"a", by decide⟩
    let b : FileName := ⟨"b", by decide⟩
    let files := (((FileSystem.empty.put [a] .directory).put [b] .directory).put
      ([a] ++ [⟨"x.cpp", by decide⟩]) (.file [] false)).put ([b] ++ [⟨"x.cpp", by decide⟩]) (.file [] false)
    let config := Example.config .bless (.ofString ".")
    let invoker := Example.writing [1]
      [[a] ++ [binName] ++ [⟨"x.o", by decide⟩], [b] ++ [binName] ++ [⟨"x.o", by decide⟩]]
    let s : Session Unit := .start ⟨files, .root⟩ ()
    ∃ t, runAll config invoker s = (.ok [(caseOf a, .blessed), (caseOf b, .blessed)], t) ∧
      t.calls.length = 8 ∧ (t.calls.flatMap (·.outputs)).Nodup ∧
      ∀ inv ∈ t.calls, ∃ n ∈ [a, b], (caseOf n).Declares config .relative inv := by
  intro a b files config invoker s
  have hnames : caseNames s.files config.testsDir (FileSystem.called s.cwd config.testsDir) = [a, b] := by
    decide +kernel
  have hstemmed : Stemmed config [a, b] s.toWorkspace := by
    have hnone : ∀ n ∈ [a, b], ∀ file ∈ ([⟨"..cpp", by decide⟩, ⟨"..S", by decide⟩] : List FileName),
        s.files.get? (FileSystem.called s.cwd ((caseOf n).home config) ++ [file]) = none := by
      decide +kernel
    exact fun n hn => TestCase.not_hasFile_dot (hnone n hn _ (by simp)) (hnone n hn _ (by simp))
  have htools : BringsNoFile config .relative invoker [a, b] := by
    intro _ _ _ _ w _ m hm file hstands
    have hm : m ≠ binName := by
      rintro rfl
      revert hm
      decide
    exact stands_of_put rfl hm (stands_of_put rfl hm hstands)
  have hblessed : (runAll config invoker s).1 = .ok [(caseOf a, .blessed), (caseOf b, .blessed)] := by
    decide +kernel
  have hlength : (runAll config invoker s).2.calls.length = 8 := by decide +kernel
  cases hrun : runAll config invoker s with
  | mk result t =>
    rw [hrun] at hblessed hlength
    cases hblessed
    rw [← hnames] at hstemmed htools
    obtain ⟨issued, hcalls, hdistinct, hdeclared⟩ := runAll_never_overwrites hstemmed htools hrun
    rw [hnames] at hdeclared
    obtain rfl : t.calls = issued := hcalls
    exact ⟨t, rfl, hlength, hdistinct, hdeclared⟩

end Suite

end LinkBench
