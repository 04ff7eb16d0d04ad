import LinkBench.Proofs.TestCase.Scratch

/-!
# Building a case twice

Between its preparation and the judgement on its outputs, a case depends on its sources, on what its tools
do and on its own scratch directories. `make_agree` relates two such runs: from workspaces that only what
is hidden from the tools tells apart, they have the same result and leave the same scratch directories.
-/

namespace LinkBench

theorem splitAtEach_of_not_mem {separator : Char} {cs : List Char} (h : separator ∉ cs) :
    splitAtEach separator cs = [cs] := by
  induction cs with
  | nil => rfl
  | cons c cs ih =>
    rw [List.mem_cons, not_or] at h
    rw [splitAtEach, if_neg (Ne.symm h.1), ih h.2]

theorem Path.segments_ofString {text : String} (h : '/' ∉ text.toList) :
    (Path.ofString text).segments = [text] := by
  change (splitAtEach '/' text.toList).map String.ofList = [text]
  rw [splitAtEach_of_not_mem h, List.map_singleton, String.ofList_toList]

/-- The extension is what stands behind the last dot, if anything stands before it. -/
theorem FileName.splitExtension?_eq_some_iff {name : FileName} {stem extension : String} :
    name.splitExtension? = some (stem, extension) ↔
      stem ≠ "" ∧ '.' ∉ extension.toList ∧ name.text = stem ++ "." ++ extension := by
  unfold FileName.splitExtension?
  dsimp only
  constructor
  · intro h
    have hsplit := List.takeWhile_append_dropWhile (p := (· != '.')) (l := name.text.toList.reverse)
    have hbefore := List.all_takeWhile (p := (· != '.')) (l := name.text.toList.reverse)
    have hdot := List.head?_dropWhile_not (· != '.') name.text.toList.reverse
    generalize List.takeWhile (· != '.') name.text.toList.reverse = behind at h hsplit hbefore
    split at h
    · rename_i dot c rest hdrop
      cases h
      rw [hdrop] at hsplit hdot
      obtain rfl : dot = '.' := by simpa using hdot
      refine ⟨fun hnil => ?_, fun hmem => ?_, String.toList_inj.1 ?_⟩
      · simpa using congrArg String.toList hnil
      · rw [String.toList_ofList, List.mem_reverse] at hmem
        simpa using List.all_eq_true.1 hbefore _ hmem
      · have hwhole := congrArg List.reverse hsplit
        rw [List.reverse_reverse] at hwhole
        rw [← hwhole]
        simp
    · cases h
  · rintro ⟨hstem, hextension, htext⟩
    have hback : name.text.toList.reverse = extension.toList.reverse ++ '.' :: stem.toList.reverse := by
      rw [htext]
      simp
    have hbefore : ∀ c ∈ extension.toList.reverse, (c != '.') = true := fun c hc => by
      rw [List.mem_reverse] at hc
      exact bne_iff_ne.2 fun heq => hextension (heq ▸ hc)
    rw [hback, List.takeWhile_append_of_pos hbefore, List.dropWhile_append_of_pos hbefore]
    cases hchars : stem.toList.reverse with
    | nil => exact absurd (String.toList_inj.1 (by simpa using hchars)) hstem
    | cons c rest =>
      have hwhole : (c :: rest).reverse = stem.toList := by rw [← hchars, List.reverse_reverse]
      simp [hwhole]

theorem Source.ofEntry?_eq_some_iff {language : Language} {x : FileName × Entry} {source : Source} :
    Source.ofEntry? language x = some source ↔ source.name = x.1 ∧ source.stem ≠ "" ∧
      x.1.text = source.stem ++ "." ++ language.extension ∧ x.2.isRegular = true := by
  obtain ⟨name, entry⟩ := x
  obtain ⟨name', stem⟩ := source
  have hdotless : '.' ∉ language.extension.toList := by cases language <;> decide
  constructor
  · intro h
    unfold Source.ofEntry? at h
    split at h
    · rename_i bytes executable stem' extension hentry hsplit
      split at h
      · rename_i hextension
        cases h
        obtain ⟨hstem, -, htext⟩ := FileName.splitExtension?_eq_some_iff.1 hsplit
        rw [hextension] at htext
        dsimp only at hentry
        rw [hentry]
        exact ⟨rfl, hstem, htext, rfl⟩
      · cases h
    · cases h
  · rintro ⟨hname, hstem, htext, hregular⟩
    dsimp only at hname hstem htext hregular
    have hsplit := FileName.splitExtension?_eq_some_iff.2 ⟨hstem, hdotless, htext⟩
    cases entry with
    | file bytes executable =>
      rw [Source.ofEntry?, hsplit, hname]
      exact if_pos rfl
    | directory => cases hregular
    | device d => cases hregular

namespace TestCase

variable {σ : Type} {c : TestCase} {config : Config} {samples : Sample.Inputs} {z : Region}
  {d : Location} {path : Path} {w w' u u' : Workspace} {s t : Session σ} {name : FileName}
  {invoker : Invoker σ} {inv : Invocation}

/-! ### Sources -/

/-- The sources that are seen in a case directory when nothing stands in the region. -/
def sourcesIn (z : Region) (files : FileSystem) (path : Path) (d : Location) (language : Language) :
    List Source :=
  (((files.outside z).children d).filter fun x => !(path.join (.ofName x.1)).isTooLong).filterMap
    (Source.ofEntry? language)

theorem ofEntry?_of_owned (howns : Owns z d) {language : Language} {x : FileName × Entry}
    (hx : z.holds (d ++ [x.1]) = true) : Source.ofEntry? language x = none := by
  obtain ⟨name, entry⟩ := x
  have hplain : name.splitExtension? = none := by
    obtain rfl | rfl | rfl := howns.only name hx <;> decide
  rw [Source.ofEntry?, hplain]
  cases entry <;> rfl

/-- No source is hidden by the region. -/
theorem sources_yields (howns : Owns z d) (h : w.Reaches z (c.home config) d) (language : Language) :
    (c.sources config language : Action σ Failure _).Yields w
      (sourcesIn z w.files (c.home config) d language) := by
  have hsame : ((w.files.children d).filter fun x => !((c.home config).join
      (.ofName x.1)).isTooLong).filterMap (Source.ofEntry? language) =
      sourcesIn z w.files (c.home config) d language := by
    rw [sourcesIn, FileSystem.children_outside, List.filter_filter, List.filterMap_filter,
      List.filterMap_filter]
    refine congrArg (fun f => List.filterMap f _) (funext fun x => ?_)
    cases hx : z.holds (d ++ [x.1]) with
    | false => simp
    | true => simp [ofEntry?_of_owned howns hx]
  rw [← hsame]
  exact .bind (.mapError (.reading h.leads_tree.listDirectory_eq) _) (.pure _)

theorem segments_objectName {language : Language} {x : FileName × Entry} {source : Source}
    (h : Source.ofEntry? language x = some source) :
    (Path.ofString source.objectName).segments = [source.objectName] := by
  obtain ⟨-, -, htext, -⟩ := Source.ofEntry?_eq_some_iff.1 h
  have hstem : '/' ∉ source.stem.toList := fun hslash => by
    refine x.1.valid.2.2.2 ?_
    rw [htext]
    simp [hslash]
  refine Path.segments_ofString ?_
  rw [Source.objectName]
  split
  · decide
  · rw [String.toList_append, List.mem_append, not_or]
    exact ⟨hstem, by decide⟩

/-! ### Tools -/

/-- A name that the system takes. -/
def Usable (name : FileName) : Prop :=
  name.isTooLong = false ∧ '\x00' ∉ name.text.toList

/-- Both scratch directories are there, and the outputs have names that the system takes. -/
structure Ready (z : Region) (path : Path) (d : Location) (w : Workspace) : Prop
    extends Prepared z path d w where
  bin : w.files.get? (d ++ [binName]) = some .directory
  out : w.files.get? (d ++ [outName]) = some .directory
  named : ∀ name, w.files.get? (d ++ [outName] ++ [name]) ≠ none → Usable name

/-- Nothing tells the two workspaces apart but what lies in the region, and of this nothing in the
scratch directories of the case. -/
structure Alike (z : Region) (d : Location) (w w' : Workspace) : Prop where
  same : Workspace.SameOutside z w w'
  own : ∀ l, (scratchRegion d).holds l = true → w'.files.get? l = w.files.get? l

/-- What is asked of the tools for an invocation: they write only in the scratch directories of the case
and leave both as directories, and what they do does not depend on what lies elsewhere in the region. -/
structure Serves (invoker : Invoker σ) (z : Region) (path : Path) (d : Location)
    (inv : Invocation) : Prop where
  cwd : ∀ w tools, Ready z path d w → (invoker inv w tools).workspace.cwd = w.cwd
  kept : ∀ w tools, Ready z path d w →
    (invoker inv w tools).workspace.files.outside (scratchRegion d) = w.files.outside (scratchRegion d)
  bin : ∀ w tools, Ready z path d w →
    (invoker inv w tools).workspace.files.get? (d ++ [binName]) = some .directory
  out : ∀ w tools, Ready z path d w →
    (invoker inv w tools).workspace.files.get? (d ++ [outName]) = some .directory
  named : ∀ w tools, Ready z path d w → ∀ name,
    (invoker inv w tools).workspace.files.get? (d ++ [outName] ++ [name]) ≠ none → Usable name
  result : ∀ w tools w' tools', Ready z path d w → Ready z path d w' → Alike z d w w' →
    (invoker inv w tools).result = (invoker inv w' tools').result
  own : ∀ w tools w' tools', Ready z path d w → Ready z path d w' → Alike z d w w' →
    ∀ l, (scratchRegion d).holds l = true → (invoker inv w' tools').workspace.files.get? l =
      (invoker inv w tools).workspace.files.get? l

/-- A workspace on the way from `u`, where the case was prepared. -/
structure Underway (z : Region) (path : Path) (d : Location) (u w : Workspace) : Prop
    extends Ready z path d w where
  cwd : w.cwd = u.cwd
  kept : w.files.outside (scratchRegion d) = u.files.outside (scratchRegion d)

/-- Two workspaces on the way from `u` and `u'` that the tools cannot tell apart. -/
structure Twins (z : Region) (path : Path) (d : Location) (u u' w w' : Workspace) : Prop where
  first : Underway z path d u w
  second : Underway z path d u' w'
  alike : Alike z d w w'

theorem Serves.underway (howns : Owns z d) (h : Serves invoker z path d inv) (tools : σ)
    (hw : Underway z path d u w) : Underway z path d u (invoker inv w tools).workspace where
  toPrepared := hw.toPrepared.of_confined howns (h.cwd w tools hw.toReady) (h.kept w tools hw.toReady)
  bin := h.bin w tools hw.toReady
  out := h.out w tools hw.toReady
  named := h.named w tools hw.toReady
  cwd := (h.cwd w tools hw.toReady).trans hw.cwd
  kept := (h.kept w tools hw.toReady).trans hw.kept

theorem Serves.twins (howns : Owns z d) (h : Serves invoker z path d inv) (tools tools' : σ)
    (hw : Twins z path d u u' w w') :
    Twins z path d u u' (invoker inv w tools).workspace (invoker inv w' tools').workspace where
  first := h.underway howns tools hw.first
  second := h.underway howns tools' hw.second
  alike := by
    have hready := hw.first.toReady
    have hready' := hw.second.toReady
    refine ⟨⟨?_, ?_⟩, h.own w tools w' tools' hready hready' hw.alike⟩
    · rw [howns.outside_eq (h.kept w' tools' hready'), howns.outside_eq (h.kept w tools hready)]
      exact hw.alike.same.files
    · rw [h.cwd w' tools' hready', h.cwd w tools hready]
      exact hw.alike.same.cwd

/-! ### Outputs -/

/-- Twins show the same in a scratch directory. -/
theorem Twins.isFile_join (h : Twins z path d u u' w w') {scratch : FileName} {output : Path}
    {segment : String} (hscratch : scratch = binName ∨ scratch = outName)
    (hfit : FileSystem.requireFit (path.join (.ofName scratch)) = .ok ())
    (houtput : output.segments = [segment]) :
    w.files.isFile w.cwd ((path.join (.ofName scratch)).join output) =
      w'.files.isFile w'.cwd ((path.join (.ofName scratch)).join output) := by
  have hshort : scratch.isTooLong = false := by obtain rfl | rfl := hscratch <;> decide
  have hholds : ∀ rest, (scratchRegion d).holds (d ++ [scratch] ++ rest) = true := fun rest => by
    rw [holds_scratchRegion]
    obtain rfl | rfl := hscratch
    · exact .inl (List.prefix_append _ rest)
    · exact .inr (List.prefix_append _ rest)
  have hdir : ∀ {v x : Workspace}, Underway z path d v x →
      x.files.get? (d ++ [scratch]) = some .directory := fun hx => by
    obtain rfl | rfl := hscratch
    · exact hx.bin
    · exact hx.out
  have hleads : ∀ {v x : Workspace}, Underway z path d v x →
      x.files.Leads x.cwd (path.join (.ofName scratch)) (d ++ [scratch]) := fun hx =>
    hx.reaches.leads_tree.join hfit hshort (hdir hx)
  refine FileSystem.isFile_join_congr (hleads h.first) (hleads h.second) houtput ?_ fun name =>
    (h.alike.own _ (hholds [name])).symm
  rw [List.dropLast_concat]
  exact h.first.reaches.leads_tree.directory.trans h.second.reaches.leads_tree.directory.symm

/-- Where a case looks for an output: a path of one more segment than that of a scratch directory. -/
structure Looks (c : TestCase) (config : Config) (inv : Invocation) : Prop where
  currentDir : inv.currentDir = config.testsDir
  outputs : ∀ output ∈ inv.outputs, ∃ scratch file segment,
    (scratch = binName ∨ scratch = outName) ∧ Path.segments file = [segment] ∧
      output = (c.dir.join (.ofName scratch)).join file

theorem looks_build {language : Language} {x : FileName × Entry} {source : Source}
    (h : Source.ofEntry? language x = some source) :
    Looks c config (config.toolchain.build language (source.path c) (source.objectPath c)) := by
  have hobject : ∃ scratch file segment, (scratch = binName ∨ scratch = outName) ∧
      Path.segments file = [segment] ∧
      source.objectPath c = (c.dir.join (.ofName scratch)).join file :=
    ⟨binName, .ofString source.objectName, _, .inl rfl, segments_objectName h, rfl⟩
  cases language <;> exact ⟨rfl, fun output houtput => List.mem_singleton.1 houtput ▸ hobject⟩

theorem looks_of_outDir (hdir : inv.currentDir = config.testsDir)
    (h : ∀ output ∈ inv.outputs, ∃ text, '/' ∉ String.toList text ∧
      output = c.outDir.join (.ofString text)) : Looks c config inv where
  currentDir := hdir
  outputs output houtput := by
    obtain ⟨text, hslash, rfl⟩ := h output houtput
    exact ⟨outName, .ofString text, text, .inr rfl, Path.segments_ofString hslash, rfl⟩

theorem looks_static {objects : List Path}
    (h : inv ∈ config.toolchain.staticLinks objects config.staticBase c.externals samples c.outDir) :
    Looks c config inv := by
  obtain rfl | hsecond := List.mem_cons.1 h
  · refine looks_of_outDir rfl fun output houtput => ?_
    obtain hplain | hpatched := List.mem_append.1 houtput
    · obtain ⟨⟨option, path⟩, hmem, rfl⟩ := List.mem_map.1 hplain
      obtain ⟨⟨option', file⟩, hfile, heq⟩ := List.mem_map.1 hmem
      cases heq
      have hslash : ∀ x ∈ Toolchain.staticOutputs, '/' ∉ x.2.toList := by decide
      exact ⟨file, hslash _ hfile, rfl⟩
    · obtain rfl | hlast := List.mem_cons.1 hpatched
      · exact ⟨"output-dol.dol", by decide, rfl⟩
      · cases List.mem_singleton.1 hlast
        exact ⟨"output-alf_104.alf", by decide, rfl⟩
  · cases List.mem_singleton.1 hsecond
    refine looks_of_outDir rfl fun output houtput => ?_
    cases List.mem_singleton.1 houtput
    exact ⟨"output-alf_105.alf", by decide, rfl⟩

theorem looks_dynamic {objects : List Path} : Looks c config
    (config.toolchain.dynamicLink objects c.externals config.versions c.outDir) := by
  refine looks_of_outDir rfl fun output houtput => ?_
  cases List.mem_singleton.1 houtput
  exact ⟨"output-map-dynamic.map", by decide, rfl⟩

theorem Issues.looks (h : Issues c config samples inv) : Looks c config inv := by
  cases h with
  | build language entry source h => exact looks_build h
  | static objects _ h => exact looks_static h
  | dynamic objects => exact looks_dynamic

/-! ### Up to the judgement -/

/-- What happens between clean scratch directories and the judgement. -/
def make (c : TestCase) (config : Config) (samples : Sample.Inputs) (invoker : Invoker σ) :
    Action σ Failure Unit := do
  let objects ← c.compileSources config invoker
  Action.report (.caseCompiled c.name objects.length)
  (c.linkAll config samples invoker objects).mapError Failure.ofTool
  Action.report (.caseLinked c.name)

theorem build_eq (c : TestCase) (config : Config) (samples : Sample.Inputs) (invoker : Invoker σ) :
    c.build config samples invoker = c.make config samples invoker >>= fun _ => c.judge config := by
  simp only [build, make, bind_assoc]

theorem make_keeps {I : Workspace → Prop} (hinvoker : ∀ inv, Issues c config samples inv →
      ∀ w tools, I w → I (invoker inv w tools).workspace) :
    (c.make config samples invoker).Keeps I :=
  .bind (compileSources_keeps hinvoker) fun objects => .bind (.report _) fun _ =>
    .bind (.mapError (linkAll_keeps hinvoker objects) _) fun _ => .report _

theorem compileEach_withMode (config : Config) (mode : Mode) (language : Language)
    (done : List Compiled) (sources : List Source) :
    c.compileEach { config with mode } invoker language done sources =
      c.compileEach config invoker language done sources := by
  induction sources generalizing done with
  | nil => rfl
  | cons source rest ih =>
    rw [compileEach, compileEach]
    simp only [ih]

/-- What is done with the outputs does not matter before they are there. -/
theorem make_withMode (config : Config) (mode : Mode) :
    c.make { config with mode } samples invoker = c.make config samples invoker := by
  unfold make compileSources
  simp only [compileEach_withMode]
  rfl

section Agreement

variable (howns : Owns z d)
  (hbin : FileSystem.requireFit ((c.home config).join (.ofName binName)) = .ok ())
  (hout : FileSystem.requireFit ((c.home config).join (.ofName outName)) = .ok ())
  (hserves : ∀ inv, Issues c config samples inv → Serves invoker z (c.home config) d inv)

include howns hbin hout hserves

theorem runTool_agree (h : Issues c config samples inv) :
    (runTool invoker inv).Agree (Twins z (c.home config) d u u') (runTool invoker inv) := by
  refine .runTool (fun w tools w' tools' hw => ?_) fun output houtput w w' hw => ?_
  · exact ⟨(hserves inv h).result w tools w' tools' hw.first.toReady hw.second.toReady hw.alike,
      (hserves inv h).twins howns tools tools' hw⟩
  · obtain ⟨scratch, file, segment, hscratch, hfile, rfl⟩ := h.looks.outputs output houtput
    have hpath : inv.outputPath ((c.dir.join (.ofName scratch)).join file) =
        ((c.home config).join (.ofName scratch)).join file := by
      rw [Invocation.outputPath, h.looks.currentDir,
        Path.join_join _ _ (Path.isAbsolute_of_singleton hfile),
        Path.join_join _ _ (Path.isAbsolute_ofName scratch)]
      rfl
    rw [hpath]
    refine hw.isFile_join hscratch ?_ hfile
    obtain rfl | rfl := hscratch
    · exact hbin
    · exact hout

theorem compileEach_agree (language : Language) (done : List Compiled) (sources : List Source)
    (hsources : ∀ source ∈ sources, ∃ x, Source.ofEntry? language x = some source) :
    (c.compileEach config invoker language done sources).Agree (Twins z (c.home config) d u u')
      (c.compileEach config invoker language done sources) := by
  induction sources generalizing done with
  | nil => exact .pure _
  | cons source rest ih =>
    obtain ⟨⟨x, hx⟩, hrest⟩ := List.forall_mem_cons.1 hsources
    rw [compileEach]
    split
    · exact .fail _
    · exact .bind (.mapError (runTool_agree howns hbin hout hserves (.build language x source hx)) _)
        fun _ => ih _ hrest

omit hbin hout hserves in
theorem sources_agree {α : Type} (language : Language) {f f' : List Source → Action σ Failure α}
    (hf : ∀ sources, (∀ source ∈ sources, ∃ x, Source.ofEntry? language x = some source) →
      (f sources).Agree (Twins z (c.home config) d u u') (f' sources)) :
    (c.sources config language >>= f).Agree (Twins z (c.home config) d u u')
      (c.sources config language >>= f') := by
  refine .bind_of_yields fun w w' h => ⟨sourcesIn z w.files (c.home config) d language,
    sources_yields howns h.first.reaches language, ?_, hf _ fun source hsource => ?_⟩
  · have hsame : sourcesIn z w'.files (c.home config) d language =
        sourcesIn z w.files (c.home config) d language := by
      rw [sourcesIn, sourcesIn, h.alike.same.files]
    rw [← hsame]
    exact sources_yields howns h.second.reaches language
  · obtain ⟨x, -, hx⟩ := List.mem_filterMap.1 hsource
    exact ⟨x, hx⟩

theorem compileSources_agree :
    (c.compileSources config invoker).Agree (Twins z (c.home config) d u u')
      (c.compileSources config invoker) := by
  refine sources_agree howns .cpp fun cpp hcpp =>
    .bind (compileEach_agree howns hbin hout hserves .cpp [] cpp hcpp) fun done => ?_
  exact sources_agree howns .assembly fun assembly hassembly =>
    .bind (compileEach_agree howns hbin hout hserves .assembly done assembly hassembly) fun _ => .pure _

theorem linkAll_agree (objects : List Path) :
    (c.linkAll config samples invoker objects).Agree (Twins z (c.home config) d u u')
      (c.linkAll config samples invoker objects) :=
  .bind (.forM fun inv hinv => runTool_agree howns hbin hout hserves (.static objects inv hinv))
    fun _ => runTool_agree howns hbin hout hserves (.dynamic objects)

/-- **The same case twice.** Workspaces that the tools cannot tell apart are made into workspaces that the
tools cannot tell apart, with the same result. -/
theorem make_agree :
    (c.make config samples invoker).Agree (Twins z (c.home config) d u u')
      (c.make config samples invoker) :=
  .bind (compileSources_agree howns hbin hout hserves) fun objects => .bind (.report _) fun _ =>
    .bind (.mapError (linkAll_agree howns hbin hout hserves objects) _) fun _ => .report _

end Agreement

end TestCase

end LinkBench
