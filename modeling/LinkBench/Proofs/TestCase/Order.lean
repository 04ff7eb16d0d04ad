import LinkBench.Proofs.Course
import LinkBench.Proofs.TestCase.Frame

/-!
# The order of a case

A case compiles its C++ sources in name order, then its assembly sources in name order, and links their
objects three times (`run_issues_in_order`). As long as the tools add and remove no file of the case
directory, both listings find what was there before the run, so the plan is known when the case begins.
They find all of it, as every name in a tree is a text and every directory can be read.
-/

namespace LinkBench.TestCase

variable {σ : Type} {c : TestCase} {config : Config} {samples : Sample.Inputs} {invoker : Invoker σ}
  {d : Location} {path : Path} {w w' w'' w₀ : Workspace} {s t u : Session σ} {name : FileName}
  {language : Language} {source : Source} {sources cpp assembly : List Source}
  {result : Except Failure Outcome}

/-! ### What a case issues -/

section Calls

variable {A : Invocation → Prop}

theorem compileEach_calls (language : Language) (done : List Compiled) (sources : List Source)
    (hsources : ∀ source ∈ sources, ∃ x, Source.ofEntry? language x = some source) :
    (c.compileEach config invoker language done sources).Calls (Issues c config samples) := by
  induction sources generalizing done with
  | nil => exact .pure _
  | cons source rest ih =>
    obtain ⟨⟨x, hx⟩, hrest⟩ := List.forall_mem_cons.1 hsources
    rw [compileEach]
    split
    · exact .fail _
    · exact .bind (.mapError (.runTool (.build language x source hx)) _) fun _ => ih _ hrest

theorem compileSources_calls :
    (c.compileSources config invoker).Calls (Issues c config samples) := by
  have hsources : ∀ language, (c.sources config language : Action σ Failure _).Calls
      (Issues c config samples) := fun language => .bind (.mapError (.reading _) _) fun _ => .pure _
  refine .bind_of_ok (hsources .cpp) fun s cpp t hcpp => .bind
    (compileEach_calls .cpp [] cpp (ofEntry?_of_sources hcpp)) fun done => ?_
  exact .bind_of_ok (hsources .assembly) fun s assembly t hassembly => .bind
    (compileEach_calls .assembly done assembly (ofEntry?_of_sources hassembly)) fun _ => .pure _

theorem linkAll_calls (objects : List Path) :
    (c.linkAll config samples invoker objects).Calls (Issues c config samples) :=
  .bind (.forM fun inv hinv => .runTool (.static objects inv hinv)) fun _ =>
    .runTool (.dynamic objects)

theorem renew_calls (dir : Path) : (renew dir : Action σ Failure Unit).Calls A :=
  .bind (.mapError (.altering _) _) fun _ => .mapError (.altering _) _

theorem prepare_calls : ((c.scratch config).forM renew : Action σ Failure Unit).Calls A :=
  .forM fun dir _ => renew_calls dir

theorem verify_calls (expectedDir outDir : Path) :
    (Golden.verify expectedDir outDir : Action σ GoldenError Nat).Calls A := by
  refine .bind (.ask _) fun found => ?_
  split
  · refine .bind (.mapError (.reading _) _) fun names => .bind (.forM fun name _ => ?_) fun _ => .pure _
    refine .bind (.ask _) fun found => ?_
    split
    · refine .bind (.mapError (.reading _) _) fun want => .bind (.mapError (.reading _) _) fun got => ?_
      split
      · exact .fail _
      · exact .report _
    · exact .fail _
  · exact .fail _

theorem judge_calls : (c.judge config : Action σ Failure Outcome).Calls A := by
  unfold judge
  cases config.mode with
  | bless =>
    exact .bind (.mapError (.bind (.mapError (.altering _) _) fun _ =>
      .bind (.mapError (.changing _) _) fun _ => .report _) _) fun _ => .pure _
  | verify =>
    exact .bind (.mapError (verify_calls _ _) _) fun files => .bind (.report _) fun _ => .pure _

theorem calls_cleanUp (c : TestCase) (config : Config) (s : Session σ) :
    (c.cleanUp config s).calls = s.calls := by
  have hdiscard : ∀ (s : Session σ) (dir : Path), (discard s dir).calls = s.calls := fun s dir => by
    unfold discard
    split <;> rfl
  rw [cleanUp, scratch_eq]
  split
  · rfl
  · exact (hdiscard _ _).trans (hdiscard _ _)

/-- The last that a case issues is its last link. -/
theorem calls_behind_make
    (hrun : (c.build config samples invoker).onFailure (c.cleanUp config) u = (result, t)) :
    t.calls = (c.make config samples invoker u).2.calls ∧
      ∀ e, (c.make config samples invoker u).1 = .error e → result = .error e := by
  rw [Action.onFailure, build_eq, Action.bind_apply] at hrun
  cases hmake : c.make config samples invoker u with
  | mk made v =>
    rw [hmake] at hrun
    cases made with
    | error e =>
      cases hrun
      exact ⟨calls_cleanUp c config v, fun e' he => by cases he; rfl⟩
    | ok _ =>
      refine ⟨?_, nofun⟩
      dsimp only at hrun
      cases hjudge : c.judge config v with
      | mk judged x =>
        have hx := judge_calls.calls_eq hjudge
        rw [hjudge] at hrun
        cases judged with
        | ok outcome =>
          cases hrun
          exact hx
        | error e =>
          cases hrun
          exact (calls_cleanUp c config x).trans hx

/-- A case issues nothing but its own invocations. -/
theorem run_calls : (c.run config samples invoker).Calls (Issues c config samples) :=
  .bind (.report _) fun _ => .bind prepare_calls fun _ => .onFailure (.bind compileSources_calls
    fun objects => .bind (.report _) fun _ => .bind (.mapError (linkAll_calls objects) _) fun _ =>
      .bind (.report _) fun _ => judge_calls) (calls_cleanUp c config)

end Calls

/-! ### The sources of a case -/

/-- A regular file lies directly in the case directory. What stands in the place of a scratch directory is not
considered. -/
def HasFile (files : FileSystem) (d : Location) (name : FileName) : Prop :=
  ∃ entry, (files.outside (scratchRegion d)).get? (d ++ [name]) = some entry ∧ entry.isRegular = true

/-- The sources of a language that lie in the case directory and that its path can call, in name order. -/
structure SourceList (files : FileSystem) (path : Path) (d : Location) (language : Language)
    (sources : List Source) : Prop where
  sorted : sources.Pairwise (·.name < ·.name)
  mem_iff : ∀ source, source ∈ sources ↔ source.stem ≠ "" ∧ source.stem ≠ "." ∧
    source.name.text = source.stem ++ "." ++ language.extension ∧ HasFile files d source.name ∧
    (path.join (.ofName source.name)).isTooLong = false

theorem SourceList.unique {files : FileSystem} {sources' : List Source}
    (h : SourceList files path d language sources) (h' : SourceList files path d language sources') :
    sources = sources' :=
  FileSystem.eq_of_mem_iff h.sorted h'.sorted fun source => (h.mem_iff source).trans
    (h'.mem_iff source).symm

theorem SourceList.stem_ne_dot {files : FileSystem} (h : SourceList files path d language sources) :
    ∀ source ∈ sources, source.stem ≠ "." := fun source hsource =>
  ((h.mem_iff source).1 hsource).2.1

theorem SourceList.exists_ofEntry? {files : FileSystem}
    (h : SourceList files path d language sources) :
    ∀ source ∈ sources, ∃ x, Source.ofEntry? language x = some source := by
  intro source hsource
  obtain ⟨hstem, -, htext, ⟨entry, -, hregular⟩, -⟩ := (h.mem_iff source).1 hsource
  exact ⟨(source.name, entry), Source.ofEntry?_eq_some_iff.2 ⟨rfl, hstem, htext, hregular⟩⟩

/-- The tools leave the regular files of the case directory where they are, the path of the case where it
leads, and the working directory below the case directory if it is there, as long as this holds a file. -/
structure Undisturbed (path : Path) (d : Location) (w w' : Workspace) : Prop where
  called : FileSystem.called w'.cwd path = FileSystem.called w.cwd path
  within : ∀ name, HasFile w'.files d name → d <+: w.cwd.base → d <+: w'.cwd.base
  files : ∀ name, HasFile w'.files d name ↔ HasFile w.files d name

theorem Undisturbed.trans (h : Undisturbed path d w w') (h' : Undisturbed path d w' w'') :
    Undisturbed path d w w'' where
  called := h'.called.trans h.called
  within name hname hpre := h'.within name hname (h.within name ((h'.files name).1 hname) hpre)
  files name := (h'.files name).trans (h.files name)

/-- What is done in the scratch directories disturbs nothing. -/
theorem Undisturbed.of_sameOutside (h : Workspace.SameOutside (scratchRegion d) w w') (path : Path) :
    Undisturbed path d w w' where
  called := FileSystem.called_congr (Place.location_eq_of_outside h.cwd) path
  within _ _ hpre := Place.below_base_of_outside (not_holds_scratch_self d) h.cwd hpre
  files name := by rw [HasFile, HasFile, h.files]

theorem Undisturbed.refl (path : Path) (d : Location) (w : Workspace) : Undisturbed path d w w :=
  .of_sameOutside (.refl _ w) path

theorem hasFile_iff {files : FileSystem} {stem extension : String}
    (hname : name.text = stem ++ "." ++ extension) : HasFile files d name ↔
      ∃ entry, files.get? (d ++ [name]) = some entry ∧ entry.isRegular = true := by
  have hdot : '.' ∈ name.text.toList := by
    rw [hname]
    simp
  have hplain : (scratchRegion d).holds (d ++ [name]) = false := by
    rw [Bool.eq_false_iff, Ne, holds_scratchRegion, List.prefix_append_right_inj,
      List.prefix_append_right_inj]
    rintro (hpre | hpre)
    · obtain rfl : binName = name := by simpa using hpre
      revert hdot
      decide
    · obtain rfl : outName = name := by simpa using hpre
      revert hdot
      decide
  rw [HasFile, FileSystem.get?_outside_of_not_holds hplain]

/-- Without entries of these two names there is no source whose stem is a dot. -/
theorem not_hasFile_dot {files : FileSystem} (hcpp : files.get? (d ++ [⟨"..cpp", by decide⟩]) = none)
    (hassembly : files.get? (d ++ [⟨"..S", by decide⟩]) = none) (language : Language) (name : FileName)
    (hname : name.text = "." ++ "." ++ language.extension) : ¬HasFile files d name := by
  intro hfile
  obtain ⟨entry, hentry, -⟩ := (hasFile_iff hname).1 hfile
  cases language with
  | cpp =>
    obtain rfl : name = ⟨"..cpp", by decide⟩ := FileName.ext_text hname
    rw [hcpp] at hentry
    cases hentry
  | assembly =>
    obtain rfl : name = ⟨"..S", by decide⟩ := FileName.ext_text hname
    rw [hassembly] at hentry
    cases hentry

section Listing

variable (hleads : w₀.files.Leads w₀.cwd path d)
  (hdots : ∀ (language : Language) (name : FileName), name.text = "." ++ "." ++ language.extension →
    ¬HasFile w₀.files d name)

include hleads

/-- A case directory that holds a file has not been lost. -/
theorem isLive_of_hasFile {p : Place} (hw : Undisturbed path d w₀ w)
    (hresolve : w.files.resolve w.cwd path = .ok p) (hname : HasFile w.files d name) :
    p.isLive = true := by
  cases hlost : p.isLive with
  | true => rfl
  | false =>
    obtain ⟨hbelow, hbase⟩ := hleads.of_lost hresolve hlost
    have hpre := hw.within name hname hbelow
    have hlocation := FileSystem.location_of_resolve hresolve
    rw [hw.called, hleads.called_eq] at hlocation
    rw [← hbase, ← hlocation] at hpre
    have hlength := hpre.length_le
    have hnil : p.lost = [] := by
      rw [Place.location, List.length_append] at hlength
      exact List.eq_nil_of_length_eq_zero (by omega)
    rw [Place.isLive, hnil] at hlost
    cases hlost

include hdots

/-- A listing that succeeds finds the sources that were there before. -/
theorem sourceList_of_listDirectory {entries : List (FileName × Entry)}
    (hw : Undisturbed path d w₀ w) (hlist : w.files.listDirectory w.cwd path = .ok entries) :
    SourceList w₀.files path d language (entries.filterMap (Source.ofEntry? language)) := by
  obtain ⟨p, hresolve, rfl⟩ := FileSystem.listDirectory_eq_ok hlist
  have hlocation := FileSystem.location_of_resolve hresolve
  rw [hw.called, hleads.called_eq] at hlocation
  refine ⟨?_, fun source => ?_⟩
  · have hsorted : (if p.isLive then w.files.children p.base else []).Pairwise (·.1 < ·.1) := by
      split
      · exact w.files.children_sorted p.base
      · exact .nil
    refine List.Pairwise.filterMap _ (fun x y hlt source hsource source' hsource' => ?_) (hsorted.filter _)
    rw [(Source.ofEntry?_eq_some_iff.1 hsource).1, (Source.ofEntry?_eq_some_iff.1 hsource').1]
    exact hlt
  · rw [List.mem_filterMap]
    constructor
    · rintro ⟨x, hx, hsource⟩
      obtain ⟨hname, hstem, htext, hregular⟩ := Source.ofEntry?_eq_some_iff.1 hsource
      obtain ⟨hmem, hshort⟩ := List.mem_filter.1 hx
      split at hmem
      · rename_i hlive
        rw [Place.eq_ofLocation hlive, hlocation] at hmem
        rw [← hname] at htext hshort
        have hfile : HasFile w₀.files d source.name :=
          (hw.files _).1 ((hasFile_iff htext).2 ⟨x.2, hname ▸ FileSystem.mem_children.1 hmem, hregular⟩)
        refine ⟨hstem, fun hdot => ?_, htext, hfile, by simpa using hshort⟩
        rw [hdot] at htext
        exact hdots language source.name htext hfile
      · cases hmem
    · rintro ⟨hstem, -, htext, hfile, hshort⟩
      have hnow := (hw.files _).2 hfile
      have hlive := isLive_of_hasFile hleads hw hresolve hnow
      obtain ⟨entry, hentry, hregular⟩ := (hasFile_iff htext).1 hnow
      refine ⟨(source.name, entry), List.mem_filter.2 ⟨?_, by simp [hshort]⟩,
        Source.ofEntry?_eq_some_iff.2 ⟨rfl, hstem, htext, hregular⟩⟩
      rw [if_pos hlive, Place.eq_ofLocation hlive, hlocation]
      exact FileSystem.mem_children.2 hentry

theorem exists_sourceList (language : Language) :
    ∃ sources, SourceList w₀.files path d language sources :=
  ⟨_, sourceList_of_listDirectory hleads hdots (.refl path d w₀) hleads.listDirectory_eq⟩

end Listing

/-! ### The plan of a case -/

/-- Where the object of a source goes. -/
def objectOf (c : TestCase) (source : Source) : Path :=
  c.binDir.join (.ofString (source.stem ++ ".o"))

def builds (c : TestCase) (config : Config) (language : Language) (sources : List Source) :
    List Invocation :=
  sources.map fun source => config.toolchain.build language (source.path c) (c.objectOf source)

def links (c : TestCase) (config : Config) (samples : Sample.Inputs) (objects : List Path) :
    List Invocation :=
  config.toolchain.staticLinks objects config.staticBase c.externals samples c.outDir ++
    [config.toolchain.dynamicLink objects c.externals config.versions c.outDir]

theorem objectPath_eq (hdot : source.stem ≠ ".") : source.objectPath c = c.objectOf source := by
  rw [Source.objectPath, Source.objectName, if_neg hdot, objectOf]

section Follows

variable {I : Workspace → Prop}
  (hinvoker : ∀ inv, Issues c config samples inv →
    ∀ w tools, I w → I (invoker inv w tools).workspace)

include hinvoker

/-- Compiling goes through the sources, unless one would overwrite the object of another. -/
theorem compileEach_follows (done : List Compiled) (hdots : ∀ source ∈ sources, source.stem ≠ ".")
    (hsources : ∀ source ∈ sources, ∃ x, Source.ofEntry? language x = some source) :
    (c.compileEach config invoker language done sources).Follows invoker I
      (c.builds config language sources) fun all =>
        all.map (·.object) = done.map (·.object) ++ sources.map c.objectOf ∧
          ((done.map (·.object)).Nodup → (all.map (·.object)).Nodup) := by
  induction sources generalizing done with
  | nil => exact .pure ⟨(List.append_nil _).symm, id⟩
  | cons source rest ih =>
    obtain ⟨hdot, hdots⟩ := List.forall_mem_cons.1 hdots
    obtain ⟨⟨x, hx⟩, hrest⟩ := List.forall_mem_cons.1 hsources
    have hissues : Issues c config samples
        (config.toolchain.build language (source.path c) (source.objectPath c)) :=
      .build language x source hx
    rw [compileEach]
    dsimp only
    rw [objectPath_eq hdot] at hissues ⊢
    split
    · exact .fail _
    · rename_i hfree
      have hnew : c.objectOf source ∉ done.map (·.object) := by
        rw [List.mem_map]
        rintro ⟨first, hfirst, heq⟩
        exact List.find?_eq_none.1 hfree first hfirst (by simpa using heq)
      rw [builds, List.map_cons, ← List.singleton_append]
      refine .bind (.mapError (.runTool (hinvoker _ hissues)) _) fun _ _ => ?_
      have hothers := ih (done ++ [⟨c.objectOf source, source.path c⟩]) hdots hrest
      refine .imp hothers fun all hall => ?_
      rw [List.map_append, List.append_assoc] at hall
      refine ⟨hall.1, fun hnodup => hall.2 (List.nodup_append.2 ⟨hnodup, by simp, ?_⟩)⟩
      rintro object hobject _ hlast rfl
      obtain rfl : object = c.objectOf source := by simpa using hlast
      exact hnew hobject

theorem linkAll_follows (objects : List Path) :
    (c.linkAll config samples invoker objects).Follows invoker I (c.links config samples objects)
      fun _ => True :=
  .bind (.runTools fun inv hinv => hinvoker inv (.static objects inv hinv)) fun _ _ =>
    .runTool (hinvoker _ (.dynamic objects))

/-- What is made of the objects. -/
theorem links_follow (objects : List Path) :
    (Action.report (.caseCompiled c.name objects.length) >>= fun _ =>
      (c.linkAll config samples invoker objects).mapError Failure.ofTool >>= fun _ =>
        Action.report (.caseLinked c.name)).Follows invoker I (c.links config samples objects)
      fun _ => True := by
  rw [← List.append_nil (c.links config samples objects), ← List.nil_append (c.links _ _ _ ++ [])]
  exact .bind (.report _) fun _ _ => .bind (.mapError (linkAll_follows hinvoker objects) _) fun _ _ =>
    .report _

end Follows

section Sources

variable (hleads : w₀.files.Leads w₀.cwd (c.home config) d)
  (hdots : ∀ (language : Language) (name : FileName), name.text = "." ++ "." ++ language.extension →
    ¬HasFile w₀.files d name)

include hleads hdots

theorem sources_follows (h : SourceList w₀.files (c.home config) d language sources) :
    (c.sources config language : Action σ Failure _).Follows invoker
      (Undisturbed (c.home config) d w₀) [] (· = sources) := by
  rw [← List.append_nil []]
  exact .bind (.mapError (.reading fun _ _ hw hlist =>
    (sourceList_of_listDirectory hleads hdots hw hlist).unique h) _) fun _ hentries => .pure hentries

variable (hcpp : SourceList w₀.files (c.home config) d .cpp cpp)
  (hassembly : SourceList w₀.files (c.home config) d .assembly assembly)
  (htools : ∀ inv, Issues c config samples inv →
    ∀ w tools, Undisturbed (c.home config) d w (invoker inv w tools).workspace)

omit hleads hdots in
include htools in
theorem undisturbed_invoker : ∀ inv, Issues c config samples inv → ∀ w tools,
    Undisturbed (c.home config) d w₀ w →
      Undisturbed (c.home config) d w₀ (invoker inv w tools).workspace :=
  fun inv hinv w tools hw => hw.trans (htools inv hinv w tools)

include hcpp hassembly htools

theorem compileSources_follows :
    (c.compileSources config invoker).Follows invoker (Undisturbed (c.home config) d w₀)
      (c.builds config .cpp cpp ++ c.builds config .assembly assembly) fun objects =>
        objects = (cpp ++ assembly).map c.objectOf ∧ objects.Nodup := by
  have hsources : ∀ {language : Language} {sources : List Source},
      SourceList w₀.files (c.home config) d language sources →
        (c.sources config language : Action σ Failure _).Follows invoker
          (Undisturbed (c.home config) d w₀) [] (· = sources) := sources_follows hleads hdots
  have hfollows : (c.compileSources config invoker).Follows invoker (Undisturbed (c.home config) d w₀)
      ([] ++ (c.builds config .cpp cpp ++ ([] ++ (c.builds config .assembly assembly ++ []))))
      fun objects => objects = (cpp ++ assembly).map c.objectOf ∧ objects.Nodup := by
    refine .bind (hsources hcpp) fun _ hfound => ?_
    rw [hfound]
    refine .bind (compileEach_follows (undisturbed_invoker htools) [] hcpp.stem_ne_dot hcpp.exists_ofEntry?)
      fun done hdone => .bind (hsources hassembly) fun _ hfound' => ?_
    rw [hfound']
    refine .bind (compileEach_follows (undisturbed_invoker htools) done hassembly.stem_ne_dot
      hassembly.exists_ofEntry?) fun all hall => .pure ⟨?_, hall.2 (hdone.2 .nil)⟩
    rw [hall.1, hdone.1, List.map_append]
    rfl
  rwa [List.nil_append, List.nil_append, List.append_nil] at hfollows

/-- Up to the judgement, a case follows its plan. There is nothing to be linked where two sources have the same
object. -/
theorem make_follows :
    (c.make config samples invoker).Follows invoker (Undisturbed (c.home config) d w₀)
      (c.builds config .cpp cpp ++ c.builds config .assembly assembly ++
        if ((cpp ++ assembly).map c.objectOf).Nodup then
          c.links config samples ((cpp ++ assembly).map c.objectOf)
        else []) fun _ => ((cpp ++ assembly).map c.objectOf).Nodup := by
  refine .bind (compileSources_follows hleads hdots hcpp hassembly htools) fun objects hobjects => ?_
  obtain ⟨rfl, hnodup⟩ := hobjects
  rw [if_pos hnodup]
  exact .imp (links_follow (undisturbed_invoker htools) _) fun _ _ => hnodup

omit hdots hcpp hassembly htools hleads in
theorem requireOutputs_of_mem_links {inv : Invocation} {objects : List Path}
    (h : inv ∈ c.links config samples objects) : inv.requireOutputs = false := by
  simp only [links, Toolchain.staticLinks, List.cons_append, List.nil_append, List.mem_cons,
    List.not_mem_nil, or_false] at h
  obtain rfl | rfl | rfl := h <;> rfl

omit hdots hcpp hassembly htools hleads in
theorem requireOutputs_of_mem_builds {inv : Invocation}
    (h : inv ∈ c.builds config language sources) : inv.requireOutputs = true := by
  obtain ⟨source, -, rfl⟩ := List.mem_map.1 h
  cases language <;> rfl

/-- What a case issues behind its preparation. -/
theorem issued_of_prepare (hu : Undisturbed (c.home config) d w₀ u.toWorkspace)
    (hrun : (c.build config samples invoker).onFailure (c.cleanUp config) u = (result, t)) :
    ∃ issued, t.calls = u.calls ++ issued ∧ Issued invoker
      (c.builds config .cpp cpp ++ c.builds config .assembly assembly ++
        if ((cpp ++ assembly).map c.objectOf).Nodup then
          c.links config samples ((cpp ++ assembly).map c.objectOf)
        else []) u result issued ∧
      ∀ outcome, result = .ok outcome → ((cpp ++ assembly).map c.objectOf).Nodup := by
  obtain ⟨hcourse, hmade⟩ := make_follows hleads hdots hcpp hassembly htools u hu
  obtain ⟨hquiet, hfailed⟩ := calls_behind_make hrun
  obtain ⟨issued, hcalls, hissued⟩ := hcourse.issued
  have hok : ∀ outcome, result = .ok outcome → (c.make config samples invoker u).1 = .ok () := by
    rintro outcome rfl
    cases hmake : (c.make config samples invoker u).1 with
    | error e => cases hfailed e hmake
    | ok _ => rfl
  exact ⟨issued, hquiet.trans hcalls, hissued.of_result fun outcome h => ⟨(), hok outcome h⟩,
    fun outcome h => (hmade () (hok outcome h)).1⟩

end Sources

/-! ### A case without sources -/

theorem sources_eq (hleads : s.files.Leads s.cwd (c.home config) d) (language : Language) :
    c.sources config language s = (.ok (((s.files.children d).filter fun x =>
      !((c.home config).join (.ofName x.1)).isTooLong).filterMap (Source.ofEntry? language)), s) := by
  refine Action.bind_of_ok (Action.mapError_eq_ok_iff.2 ?_) _
  exact congrArg (fun result => (result, s)) hleads.listDirectory_eq

/-- A case has no source of a language if the path of each file of that language is too long. -/
theorem sources_eq_nil (hleads : s.files.Leads s.cwd (c.home config) d)
    (hlong : ∀ x ∈ s.files.children d, Source.ofEntry? language x ≠ none →
      ((c.home config).join (.ofName x.1)).isTooLong = true) :
    c.sources config language s = (.ok [], s) := by
  have hnone : (((s.files.children d).filter fun x =>
      !((c.home config).join (.ofName x.1)).isTooLong).filterMap (Source.ofEntry? language)) = [] := by
    refine List.filterMap_eq_nil_iff.2 fun x hx => ?_
    obtain ⟨hmem, hshort⟩ := List.mem_filter.1 hx
    cases hsource : Source.ofEntry? language x with
    | none => rfl
    | some source =>
      rw [hlong x hmem (by rw [hsource]; nofun)] at hshort
      cases hshort
  rw [sources_eq hleads, hnone]

theorem compileSources_of_no_sources (hsources : ∀ language, c.sources config language s = (.ok [], s)) :
    c.compileSources config invoker s = (.ok [], s) :=
  (Action.bind_of_ok (hsources .cpp) _).trans ((Action.bind_of_ok rfl _).trans
    ((Action.bind_of_ok (hsources .assembly) _).trans rfl))

/-- Without sources, the first tool that runs is the linker. -/
theorem build_of_no_sources (hsources : ∀ language, c.sources config language s = (.ok [], s))
    {e : ToolError} (hlink : ∀ w tools, (invoker (config.toolchain.primaryStaticLink [] config.staticBase
      c.externals samples c.outDir) w tools).result = .error e) :
    c.build config samples invoker s = (.error (.ofTool e), (invoke invoker
      (config.toolchain.primaryStaticLink [] config.staticBase c.externals samples c.outDir)
        (s.report (.caseCompiled c.name 0))).2) := by
  have hcompile : c.compileSources config invoker s = (.ok [], s) :=
    compileSources_of_no_sources hsources
  have hinvoke : ∀ s : Session σ, invoke invoker (config.toolchain.primaryStaticLink [] config.staticBase
      c.externals samples c.outDir) s = (.error e, _) := fun s =>
    congrArg (fun result => (result, _)) (hlink s.toWorkspace s.tools)
  have hreport : (Action.report (.caseCompiled c.name ([] : List Path).length) : Action σ Failure Unit) s =
      (.ok (), s.report (.caseCompiled c.name 0)) := rfl
  refine (Action.bind_of_ok hcompile _).trans ((Action.bind_of_ok hreport _).trans
    (Action.bind_of_error (Action.mapError_eq_error_iff.2 ⟨e, ?_, rfl⟩) _))
  exact Action.bind_of_error (Action.bind_of_error (Action.bind_of_error (hinvoke _) _) _) _

/-! ### The whole run -/

/-- **The order of a case.** If the path of the case leads to a directory whose regular files the tools
leave where they are, a case that could be prepared issues a beginning of its plan: the builds of its C++
sources in name order, those of its assembly sources, the two links at a fixed address and that of the
module. It issues all of it if it succeeds, and nothing behind an invocation that does not pass. No link is
issued unless the objects differ from each other and each was a regular file right behind its own build. -/
theorem run_issues_in_order (hleads : s.files.Leads s.cwd (c.home config) d)
    (hdots : ∀ (language : Language) (name : FileName),
      name.text = "." ++ "." ++ language.extension → ¬HasFile s.files d name)
    (htools : ∀ inv, Issues c config samples inv →
      ∀ w tools, Undisturbed (c.home config) d w (invoker inv w tools).workspace)
    (hrun : c.run config samples invoker s = (result, t)) :
    ∃ cpp assembly issued,
      SourceList s.files (c.home config) d .cpp cpp ∧
      SourceList s.files (c.home config) d .assembly assembly ∧
      t.calls = s.calls ++ issued ∧
      ((∃ e, (c.scratch config).forM renew (s.report (.caseRunning c.name)) = (.error e, t) ∧
          result = .error e ∧ issued = []) ∨
        ∃ u, (c.scratch config).forM renew (s.report (.caseRunning c.name)) = (.ok (), u) ∧
          Issued invoker (c.builds config .cpp cpp ++ c.builds config .assembly assembly ++
            c.links config samples ((cpp ++ assembly).map c.objectOf)) u result issued ∧
          ∀ link ∈ c.links config samples ((cpp ++ assembly).map c.objectOf), link ∈ issued →
            ((cpp ++ assembly).map c.objectOf).Nodup ∧ ∃ w tools,
              Passed invoker (c.builds config .cpp cpp ++ c.builds config .assembly assembly)
                u.toWorkspace u.tools w tools) := by
  obtain ⟨cpp, hcpp⟩ := exists_sourceList hleads hdots .cpp
  obtain ⟨assembly, hassembly⟩ := exists_sourceList hleads hdots .assembly
  cases hprepare : (c.scratch config).forM renew (s.report (.caseRunning c.name)) with
  | mk prepared u =>
    have hquiet := prepare_calls.calls_eq hprepare
    change u.calls = s.calls at hquiet
    have hundisturbed := Undisturbed.of_sameOutside (prepare_sameOutside hleads hprepare rfl) (c.home config)
    rw [run_of_prepare hprepare] at hrun
    cases prepared with
    | error e =>
      cases hrun
      exact ⟨cpp, assembly, [], hcpp, hassembly, by rw [hquiet, List.append_nil], .inl ⟨e, rfl, rfl, rfl⟩⟩
    | ok _ =>
      obtain ⟨issued, hcalls, hissued, hnodup⟩ :=
        issued_of_prepare hleads hdots hcpp hassembly htools hundisturbed hrun
      rw [hquiet] at hcalls
      refine ⟨cpp, assembly, issued, hcpp, hassembly, hcalls, .inr ⟨u, rfl, ?_⟩⟩
      have hlater : ∀ link ∈ c.links config samples ((cpp ++ assembly).map c.objectOf),
          link ∉ c.builds config .cpp cpp ++ c.builds config .assembly assembly := by
        intro link hlink hbuild
        have hlinked := requireOutputs_of_mem_links hlink
        obtain hbuild | hbuild := List.mem_append.1 hbuild
        · rw [requireOutputs_of_mem_builds hbuild] at hlinked
          cases hlinked
        · rw [requireOutputs_of_mem_builds hbuild] at hlinked
          cases hlinked
      split at hissued
      · exact ⟨hissued, fun link hlink hmem => ⟨‹_›, hissued.passed_first hmem (hlater link hlink)⟩⟩
      · rename_i hclash
        rw [List.append_nil] at hissued
        refine ⟨hissued.extend (fun outcome hok => hclash (hnodup outcome hok)) _,
          fun link hlink hmem => ?_⟩
        exact absurd (hissued.isPrefix.subset hmem) (hlater link hlink)

/-- A case of one C++ source, with a tool that writes its object. -/
theorem run_issues_plan_of_one_source :
    let dir : Location := [⟨"c", by decide⟩]
    let source : Source := ⟨⟨"a.cpp", by decide⟩, "a"⟩
    let files := (FileSystem.empty.put dir .directory).put (dir ++ [source.name]) (.file [] false)
    let config := Example.config .bless (.ofString ".")
    let c : TestCase := ⟨.ofString "c"⟩
    let invoker := Example.writing [1] [dir ++ [binName] ++ [⟨"a.o", by decide⟩]]
    ∃ t cpp assembly, c.run config .relative invoker (.start ⟨files, .root⟩ ()) = (.ok .blessed, t) ∧
      source ∈ cpp ∧ SourceList files (c.home config) dir .cpp cpp ∧
      SourceList files (c.home config) dir .assembly assembly ∧
      t.calls = c.builds config .cpp cpp ++ c.builds config .assembly assembly ++
        c.links config .relative ((cpp ++ assembly).map c.objectOf) := by
  intro dir source files config c invoker
  have hleads : files.Leads .root (c.home config) dir := ⟨rfl, rfl, rfl, rfl⟩
  have hdots : ∀ (language : Language) (name : FileName),
      name.text = "." ++ "." ++ language.extension → ¬HasFile files dir name :=
    not_hasFile_dot rfl rfl
  have htools : ∀ inv, Issues c config .relative inv → ∀ w tools,
      Undisturbed (c.home config) dir w (invoker inv w tools).workspace := fun inv _ w tools =>
    .of_sameOutside (Example.writing_sameOutside
      (List.forall_mem_singleton.2 (holds_scratchRegion.2 (.inl (List.prefix_append _ _)))) inv w tools) _
  have hblessed : (c.run config .relative invoker (.start ⟨files, .root⟩ ())).1 = .ok .blessed := by
    decide +kernel
  cases hrun : c.run config .relative invoker (.start ⟨files, .root⟩ ()) with
  | mk result t =>
    rw [hrun] at hblessed
    cases hblessed
    obtain ⟨cpp, assembly, issued, hcpp, hassembly, hcalls, hissued⟩ :=
      run_issues_in_order hleads hdots htools hrun
    refine ⟨t, cpp, assembly, rfl, ?_, hcpp, hassembly, ?_⟩
    · exact (hcpp.mem_iff source).2 ⟨by decide, by decide, rfl, ⟨.file [] false, rfl, rfl⟩, by decide +kernel⟩
    · obtain ⟨e, -, hfailed, -⟩ | ⟨u, -, hissued, -⟩ := hissued
      · cases hfailed
      · rw [hcalls, hissued.all _ rfl]
        rfl

/-- **A source that is left out.** The path of a case is so long that the system does not take that of its
source: the case links without it. -/
theorem run_leaves_out_long_path :
    let dir : Location := [⟨"c", by decide⟩]
    let source : FileName := ⟨"longer_name.cpp", by decide⟩
    let files := (FileSystem.empty.put dir .directory).put (dir ++ [source]) (.file [] false)
    let config := Example.config .bless (.dots 2039)
    let c : TestCase := ⟨.ofString "c"⟩
    files.get? (dir ++ [source]) = some (.file [] false) ∧
      (c.run config .relative Example.missing (.start ⟨files, .root⟩ ())).2.calls =
        [config.toolchain.primaryStaticLink [] 0 c.externals .relative c.outDir] := by
  intro dir source files config c
  refine ⟨rfl, ?_⟩
  have hhome : c.home config = (Path.dots 2039).join (.ofName ⟨"c", by decide⟩) := rfl
  have hfit : ∀ name ∈ [binName, outName],
      FileSystem.requireFit ((c.home config).join (.ofName name)) = .ok () := by
    rw [hhome]
    exact fun name hname => Path.requireFit_behind_dots (by decide) (by revert name; decide)
      (by revert name; decide)
  have hlong : ((c.home config).join (.ofName source)).isTooLong = true := by
    rw [← Bool.not_eq_false, hhome, Path.isTooLong_behind_dots]
    decide
  have hleads : (files.outside (workRegion dir)).Leads .root
      ((Path.dots 2039).join (.ofName ⟨"c", by decide⟩)) dir :=
    FileSystem.leads_behind_dots (by decide) (by decide) (by decide) rfl
  have hreaches : (⟨files, .root⟩ : Workspace).Reaches (workRegion dir) (c.home config) dir :=
    ⟨rfl, hleads⟩
  have howns := owns_workRegion dir
  let u : Session Unit := ((Session.start ⟨files, .root⟩ ()).report (.caseRunning c.name)).change
    (scratchRenewal files dir)
  have hprepare : (c.scratch config).forM renew
      ((Session.start ⟨files, .root⟩ ()).report (.caseRunning c.name)) = (.ok (), u) :=
    prepare_renews howns.bin howns.out hreaches (hfit _ (by simp)) (hfit _ (by simp)) (by decide) (by decide)
  have hleads' : u.files.Leads u.cwd (c.home config) dir :=
    (hreaches.applyAll (scratchRenewal_within howns.bin howns.out files)).leads_tree
  have hchildren : u.files.children dir =
      [(binName, .directory), (outName, .directory), (source, .file [] false)] := by
    decide +kernel
  have hsources : ∀ language, c.sources config language u = (.ok [], u) := fun language => by
    refine sources_eq_nil hleads' fun x hx hsource => ?_
    rw [hchildren] at hx
    simp only [List.mem_cons, List.not_mem_nil, or_false] at hx
    obtain rfl | rfl | rfl := hx
    · exact absurd rfl hsource
    · exact absurd rfl hsource
    · exact hlong
  let link := config.toolchain.primaryStaticLink [] 0 c.externals .relative c.outDir
  let v := (invoke Example.missing link (u.report (.caseCompiled c.name 0))).2
  have hbuild : c.build config .relative Example.missing u =
      (.error (.ofTool (.spawn link.toolName .notFound)), v) :=
    build_of_no_sources hsources fun _ _ => rfl
  have hrun : c.run config .relative Example.missing (.start ⟨files, .root⟩ ()) =
      (c.build config .relative Example.missing).onFailure (c.cleanUp config) u := run_of_prepare hprepare
  rw [Action.onFailure, hbuild] at hrun
  rw [hrun]
  have hcalls : v.calls = [link] := rfl
  exact (calls_cleanUp c config v).trans hcalls

end LinkBench.TestCase
