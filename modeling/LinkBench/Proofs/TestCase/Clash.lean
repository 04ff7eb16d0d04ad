import LinkBench.Proofs.TestCase.Order

/-!
# Sources that share an object

What compiling a list of sources comes to, whatever the tools do (`compileEach_compiles`): all of them are
built, or one would overwrite the object of an earlier one, or a build fails. Before each build, the objects
up to it are distinct.

A C++ source and an assembly source with the same stem would be compiled to the same object. This is found
before the assembly source would overwrite it, and nothing else is taken for a clash
(`compileSources_detects_clashes`). Within one language no two sources can clash: the name of the object
tells the stem, and the stem with the extension is the name.
-/

namespace LinkBench.TestCase

variable {σ : Type} {c : TestCase} {config : Config} {samples : Sample.Inputs} {invoker : Invoker σ}
  {files files' : FileSystem} {path : Path} {d : Location} {language language' : Language}
  {a b source : Source} {sources cpp assembly before after : List Source} {s t u : Session σ}
  {x y : FileName} {stem : String} {w w' : Workspace}

/-! ### Compiling one source after the other -/

section Compiling

variable {done : List Compiled} {result : Except Failure (List Compiled)}

/-- The object of a source with the source. -/
def compiled (c : TestCase) (source : Source) : Compiled :=
  ⟨source.objectPath c, source.path c⟩

/-- The invocations that build sources. -/
def requests (c : TestCase) (config : Config) (language : Language) (sources : List Source) :
    List Invocation :=
  sources.map fun source => config.toolchain.build language (source.path c) (source.objectPath c)

/-- No two of the objects are the same. -/
def Distinct (done : List Compiled) : Prop :=
  (done.map (·.object)).Nodup

/-- How compiling sources one after the other can end, where `done` are the ones before them. -/
inductive Compiles (c : TestCase) (config : Config) (invoker : Invoker σ) (language : Language)
    (done : List Compiled) (sources : List Source) (s : Session σ) :
    Except Failure (List Compiled) → Session σ → Prop
  | finished (t : Session σ) (hcalls : t.calls = s.calls ++ c.requests config language sources)
      (hpassed : Passed invoker (c.requests config language sources) s.toWorkspace s.tools
        t.toWorkspace t.tools)
      (hdistinct : Distinct done → Distinct (done ++ sources.map c.compiled)) :
    Compiles c config invoker language done sources s (.ok (done ++ sources.map c.compiled)) t
  /-- A source has the object of an earlier one and is not built. -/
  | clashed (t : Session σ) {before after : List Source} {source : Source} {first : Compiled}
      (hsources : sources = before ++ source :: after)
      (hcalls : t.calls = s.calls ++ c.requests config language before)
      (hpassed : Passed invoker (c.requests config language before) s.toWorkspace s.tools
        t.toWorkspace t.tools)
      (hdistinct : Distinct done → Distinct (done ++ before.map c.compiled))
      (hfirst : first ∈ done ++ before.map c.compiled) (hobject : first.object = source.objectPath c) :
    Compiles c config invoker language done sources s
      (.error (.ofCause (.objectNameClash first.source (source.path c) (source.objectPath c)))) t
  | failed (e : Failure) (t : Session σ) {before after : List Source} {source : Source} {w : Workspace}
      {tools : σ} (hsources : sources = before ++ source :: after)
      (hcalls : t.calls = s.calls ++ c.requests config language (before ++ [source]))
      (hpassed : Passed invoker (c.requests config language before) s.toWorkspace s.tools w tools)
      (hfails : ¬Passes invoker (config.toolchain.build language (source.path c) (source.objectPath c))
        w tools)
      (hdistinct : Distinct done → Distinct (done ++ (before ++ [source]).map c.compiled)) :
    Compiles c config invoker language done sources s (.error e) t

theorem Compiles.exists_calls (h : Compiles c config invoker language done sources s result t) :
    ∃ issued, t.calls = s.calls ++ issued := by
  cases h with
  | finished t hcalls => exact ⟨_, hcalls⟩
  | clashed t hsources hcalls => exact ⟨_, hcalls⟩
  | failed e t hsources hcalls => exact ⟨_, hcalls⟩

/-- However compiling ends, the sources that have been built come first, and their objects are distinct. -/
theorem Compiles.built (h : Compiles c config invoker language done sources s result t)
    (hdone : Distinct done) : ∃ built, built <+: sources ∧
      t.calls = s.calls ++ c.requests config language built ∧ Distinct (done ++ built.map c.compiled) ∧
      ∀ all, result = .ok all → all = done ++ built.map c.compiled := by
  cases h with
  | finished t hcalls hpassed hdistinct =>
    refine ⟨sources, List.prefix_refl _, hcalls, hdistinct hdone, fun all hall => ?_⟩
    cases hall
    rfl
  | @clashed t before after source first hsources hcalls hpassed hdistinct =>
    exact ⟨before, ⟨source :: after, hsources.symm⟩, hcalls, hdistinct hdone, nofun⟩
  | @failed e t before after source w tools hsources hcalls hpassed hfails hdistinct =>
    exact ⟨before ++ [source], ⟨after, by rw [hsources, List.append_assoc]; rfl⟩, hcalls, hdistinct hdone,
      nofun⟩

theorem distinct_concat (hfree : done.find? (·.object = source.objectPath c) = none)
    (h : Distinct done) : Distinct (done ++ [c.compiled source]) := by
  rw [Distinct, List.map_append, List.nodup_append]
  refine ⟨h, by simp, ?_⟩
  intro object hobject _ hlast heq
  obtain ⟨first, hfirst, rfl⟩ := List.mem_map.1 hobject
  obtain rfl := List.mem_singleton.1 hlast
  exact List.find?_eq_none.1 hfree first hfirst (by simpa [compiled] using heq)

/-- Compiling goes on behind a build that has passed. -/
theorem Compiles.cons (hfree : done.find? (·.object = source.objectPath c) = none)
    (hcalls : t.calls = s.calls ++
      [config.toolchain.build language (source.path c) (source.objectPath c)])
    (hfirst : Passed invoker [config.toolchain.build language (source.path c) (source.objectPath c)]
      s.toWorkspace s.tools t.toWorkspace t.tools) {u : Session σ}
    (h : Compiles c config invoker language (done ++ [c.compiled source]) sources t result u) :
    Compiles c config invoker language done (source :: sources) s result u := by
  have hextend : ∀ xs : List Source, done ++ [c.compiled source] ++ xs.map c.compiled =
      done ++ (source :: xs).map c.compiled := fun xs => by simp
  have hissued : ∀ xs : List Source, t.calls ++ c.requests config language xs =
      s.calls ++ c.requests config language (source :: xs) := fun xs => by
    rw [hcalls, List.append_assoc]
    rfl
  have hdistinct := distinct_concat hfree
  cases h with
  | finished u hcalls' hpassed hrest =>
    rw [hextend] at hrest ⊢
    exact .finished u (hcalls'.trans (hissued _)) (hfirst.append hpassed) fun h => hrest (hdistinct h)
  | clashed u hsources hcalls' hpassed hrest hmem hobject =>
    rw [hextend] at hrest hmem
    exact .clashed u (congrArg (source :: ·) hsources) (hcalls'.trans (hissued _)) (hfirst.append hpassed)
      (fun h => hrest (hdistinct h)) hmem hobject
  | @failed e u before after last w tools hsources hcalls' hpassed hfails hrest =>
    rw [hextend] at hrest
    have hparts : source :: sources = (source :: before) ++ last :: after := congrArg (source :: ·) hsources
    exact .failed e u hparts (hcalls'.trans (hissued _)) (hfirst.append hpassed) hfails
      fun h => hrest (hdistinct h)

theorem compileEach_compiles (c : TestCase) (config : Config) (invoker : Invoker σ) (language : Language)
    (done : List Compiled) (sources : List Source) (s : Session σ) :
    Compiles c config invoker language done sources s
      (c.compileEach config invoker language done sources s).1
      (c.compileEach config invoker language done sources s).2 := by
  induction sources generalizing done s with
  | nil =>
    have h : Compiles c config invoker language done [] s (.ok (done ++ [].map c.compiled)) s :=
      .finished s (List.append_nil _).symm (.nil _ _) fun h => by simpa using h
    rwa [List.map_nil, List.append_nil] at h
  | cons source sources ih =>
    have hparts : source :: sources = [] ++ source :: sources := rfl
    rw [compileEach]
    dsimp only
    cases hfind : done.find? (·.object = source.objectPath c) with
    | some first =>
      have hobject : first.object = source.objectPath c := by simpa using List.find?_some hfind
      exact .clashed s hparts (List.append_nil _).symm (.nil _ _) (fun h => by simpa using h)
        (List.mem_append_left _ (List.mem_of_find?_eq_some hfind)) hobject
    | none =>
      dsimp only
      obtain ⟨hworkspace, htools, hcalls, hpasses⟩ := Action.runTool_spec invoker
        (config.toolchain.build language (source.path c) (source.objectPath c)) s
      rw [Action.bind_apply, Action.mapError]
      generalize runTool invoker (config.toolchain.build language (source.path c) (source.objectPath c)) s =
        run at hworkspace htools hcalls hpasses
      obtain ⟨result, t⟩ := run
      cases result with
      | error e =>
        exact .failed _ t hparts hcalls (.nil _ _) (fun h => by cases hpasses.2 h)
          (distinct_concat hfind)
      | ok _ =>
        refine .cons hfind hcalls ?_ (ih _ t)
        refine .cons (hpasses.1 rfl) ?_
        dsimp only at hworkspace htools
        rw [hworkspace, htools]
        exact .nil _ _

end Compiling

/-! ### Objects tell stems -/

theorem stem_eq_of_objectPath_eq {entry entry' : FileName × Entry}
    (ha : Source.ofEntry? language entry = some a) (hb : Source.ofEntry? language' entry' = some b)
    (hdot : a.stem ≠ ".") (hdot' : b.stem ≠ ".") (h : a.objectPath c = b.objectPath c) :
    a.stem = b.stem := by
  have ha' := segments_objectName ha
  have hb' := segments_objectName hb
  have hsegments := congrArg Path.segments h
  rw [Source.objectPath, Source.objectPath, Path.segments_join (Path.isAbsolute_of_singleton ha'),
    Path.segments_join (Path.isAbsolute_of_singleton hb'), ha', hb'] at hsegments
  have hname := List.head_eq_of_cons_eq (List.append_cancel_left hsegments)
  rw [Source.objectName, Source.objectName, if_neg hdot, if_neg hdot'] at hname
  exact (String.append_left_inj ".o").1 hname

theorem SourceList.eq_of_stem (h : SourceList files path d language sources) (ha : a ∈ sources)
    (hb : b ∈ sources) (hstem : a.stem = b.stem) : a = b := by
  obtain ⟨-, -, htext, -⟩ := (h.mem_iff a).1 ha
  obtain ⟨-, -, htext', -⟩ := (h.mem_iff b).1 hb
  have hname : a.name = b.name := FileName.ext_text (by rw [htext, htext', hstem])
  cases a
  cases b
  cases hname
  cases hstem
  rfl

theorem SourceList.eq_of_objectPath (h : SourceList files path d language sources)
    (ha : a ∈ sources) (hb : b ∈ sources) (hobject : a.objectPath c = b.objectPath c) : a = b := by
  obtain ⟨_, hentry⟩ := h.exists_ofEntry? a ha
  obtain ⟨_, hentry'⟩ := h.exists_ofEntry? b hb
  exact h.eq_of_stem ha hb
    (stem_eq_of_objectPath_eq hentry hentry' (h.stem_ne_dot a ha) (h.stem_ne_dot b hb) hobject)

/-- A source shares its object with none that comes before it in the list. -/
theorem SourceList.objectPath_ne (h : SourceList files path d language (before ++ source :: after))
    (ha : a ∈ before) : a.objectPath c ≠ source.objectPath c := by
  intro hobject
  have hmem : source ∈ before ++ source :: after := List.mem_append_right _ List.mem_cons_self
  have hlt := (List.pairwise_append.1 h.sorted).2.2 a ha source List.mem_cons_self
  rw [h.eq_of_objectPath (List.mem_append_left _ ha) hmem hobject] at hlt
  exact String.lt_irrefl _ hlt

theorem SourceList.requests_eq (h : SourceList files path d language sources)
    (hsub : ∀ source ∈ before, source ∈ sources) :
    c.requests config language before = c.builds config language before :=
  List.map_congr_left fun source hsource => by
    rw [objectPath_eq (h.stem_ne_dot source (hsub source hsource))]

theorem SourceList.map_object_compiled (h : SourceList files path d language sources) :
    (sources.map c.compiled).map (·.object) = sources.map c.objectOf := by
  rw [List.map_map]
  exact List.map_congr_left fun source hsource => objectPath_eq (h.stem_ne_dot source hsource)

/-- The part of a list that comes before a source is told by its name. -/
theorem SourceList.filter_lt (h : SourceList files path d language (before ++ source :: after)) :
    (before ++ source :: after).filter (·.name < source.name) = before := by
  obtain ⟨-, hlater, hbefore⟩ := List.pairwise_append.1 h.sorted
  have hfirst : before.filter (·.name < source.name) = before :=
    List.filter_eq_self.2 fun x hx => decide_eq_true (hbefore x hx source List.mem_cons_self)
  have hrest : (source :: after).filter (·.name < source.name) = [] := by
    refine List.filter_eq_nil_iff.2 fun x hx hlt => ?_
    have hlt := of_decide_eq_true hlt
    obtain rfl | hafter := List.mem_cons.1 hx
    · exact String.lt_irrefl _ hlt
    · exact String.lt_asymm hlt ((List.pairwise_cons.1 hlater).1 x hafter)
  rw [List.filter_append, hfirst, hrest, List.append_nil]

theorem SourceList.congr (hfiles : ∀ name, HasFile files' d name ↔ HasFile files d name)
    (h : SourceList files path d language sources) : SourceList files' path d language sources where
  sorted := h.sorted
  mem_iff source := by rw [h.mem_iff, hfiles]

/-! ### Clashes -/

/-- Regular files directly in the case directory that the system takes the paths of, and that are called
by the same stem with the extensions of the two languages. -/
structure Clash (files : FileSystem) (path : Path) (d : Location) (stem : String) (x y : FileName) :
    Prop where
  nonempty : stem ≠ ""
  cpp_text : x.text = stem ++ ".cpp"
  assembly_text : y.text = stem ++ ".S"
  cpp_file : HasFile files d x
  assembly_file : HasFile files d y
  cpp_short : (path.join (.ofName x)).isTooLong = false
  assembly_short : (path.join (.ofName y)).isTooLong = false

/-- A clash is a pair of sources that differ in nothing but the language. -/
theorem clash_iff (hdots : ∀ (language : Language) (name : FileName),
      name.text = "." ++ "." ++ language.extension → ¬HasFile files d name)
    (hcpp : SourceList files path d .cpp cpp) (hassembly : SourceList files path d .assembly assembly) :
    Clash files path d stem x y ↔ ⟨x, stem⟩ ∈ cpp ∧ ⟨y, stem⟩ ∈ assembly := by
  rw [hcpp.mem_iff, hassembly.mem_iff]
  have hextension : ∀ language : Language, stem ++ "." ++ language.extension =
      stem ++ ("." ++ language.extension) := fun language => String.append_assoc
  rw [hextension, hextension]
  constructor
  · intro h
    have hdot : stem ≠ "." := fun hdot => by
      refine hdots .cpp x (h.cpp_text.trans ?_) h.cpp_file
      rw [hdot]
      rfl
    exact ⟨⟨h.nonempty, hdot, h.cpp_text, h.cpp_file, h.cpp_short⟩,
      h.nonempty, hdot, h.assembly_text, h.assembly_file, h.assembly_short⟩
  · rintro ⟨⟨hstem, -, hcpp, hfile, hshort⟩, -, -, hassembly, hfile', hshort'⟩
    exact ⟨hstem, hcpp, hassembly, hfile, hfile', hshort, hshort'⟩

/-! ### The run -/

/-- Every invocation that has been issued between two sessions has passed, each on what those before it have
left. -/
def Produced (invoker : Invoker σ) (s t : Session σ) : Prop :=
  ∃ issued w tools, t.calls = s.calls ++ issued ∧
    Passed invoker issued s.toWorkspace s.tools w tools

section Produced

variable {plan rest : List Invocation} {inv : Invocation} {tools : σ}

theorem Produced.passes (h : Produced invoker s t) (hcalls : t.calls = s.calls ++ (plan ++ [inv]))
    (hpassed : Passed invoker plan s.toWorkspace s.tools w tools) : Passes invoker inv w tools := by
  obtain ⟨issued, w', tools', hissued, hall⟩ := h
  rw [hcalls] at hissued
  rw [← List.append_cancel_left hissued] at hall
  exact hall.passes_next hpassed

theorem Produced.behind (h : Produced invoker s u) (hcalls : t.calls = s.calls ++ plan)
    (hpassed : Passed invoker plan s.toWorkspace s.tools t.toWorkspace t.tools)
    (hrest : u.calls = t.calls ++ rest) : Produced invoker t u := by
  obtain ⟨issued, w, tools, hissued, hall⟩ := h
  rw [hrest, hcalls, List.append_assoc] at hissued
  rw [← List.append_cancel_left hissued] at hall
  obtain ⟨w', tools', hfirst, hlater⟩ := hall.split
  obtain ⟨rfl, rfl⟩ := hfirst.unique hpassed
  exact ⟨rest, w, tools, hrest, hlater⟩

end Produced

/-- Sources of one language are all compiled. -/
theorem compileEach_of_sourceList {result : Except Failure (List Compiled)}
    (h : SourceList files path d language sources)
    (hrun : c.compileEach config invoker language [] sources s = (result, t))
    (hproduced : ∀ e, result = .error e → Produced invoker s t) :
    result = .ok (sources.map c.compiled) ∧ t.calls = s.calls ++ c.requests config language sources ∧
      Passed invoker (c.requests config language sources) s.toWorkspace s.tools t.toWorkspace t.tools ∧
      Distinct (sources.map c.compiled) := by
  have hcompiles := compileEach_compiles c config invoker language [] sources s
  rw [hrun] at hcompiles
  cases hcompiles with
  | finished t hcalls hpassed hdistinct => exact ⟨rfl, hcalls, hpassed, hdistinct .nil⟩
  | clashed t hsources hcalls hpassed hdistinct hfirst hobject =>
    rw [List.nil_append] at hfirst
    obtain ⟨earlier, hearlier, rfl⟩ := List.mem_map.1 hfirst
    rw [hsources] at h
    exact absurd hobject (h.objectPath_ne hearlier)
  | failed e t hsources hcalls hpassed hfails hdistinct =>
    rw [requests, List.map_append] at hcalls
    exact absurd ((hproduced e rfl).passes hcalls hpassed) hfails

/-- An object that is found lies below the directory that the path of the case leads to. -/
theorem leads_of_isFile_object {x : FileName × Entry} (hfit : FileSystem.requireFit (c.home config) = .ok ())
    (hne : (c.home config).isEmpty = false) (hx : Source.ofEntry? language x = some source)
    (hfile : w.files.isFile w.cwd (config.testsDir.join (source.objectPath c)) = true) :
    w.files.Leads w.cwd (c.home config) (FileSystem.called w.cwd (c.home config)) := by
  have hname := segments_objectName hx
  have hrelative := Path.isAbsolute_of_singleton hname
  have hpath : config.testsDir.join (source.objectPath c) =
      ((c.home config).join (.ofName binName)).join (.ofString source.objectName) := by
    rw [Source.objectPath, Path.join_join config.testsDir c.binDir hrelative, join_binDir]
  rw [hpath] at hfile
  obtain ⟨p, hresolve⟩ : ∃ p, w.files.resolve w.cwd
      (((c.home config).join (.ofName binName)).join (.ofString source.objectName)) = .ok p := by
    rw [FileSystem.isFile, FileSystem.stat] at hfile
    cases hresolve : w.files.resolve w.cwd
        (((c.home config).join (.ofName binName)).join (.ofString source.objectName)) with
    | ok p => exact ⟨p, rfl⟩
    | error e =>
      rw [hresolve] at hfile
      cases hfile
  obtain ⟨-, -, hwalk⟩ := FileSystem.resolve_eq_ok_iff.1 hresolve
  rw [FileSystem.origin, Path.isAbsolute_join (Path.isEmpty_join_ofName _ _) hrelative, ← FileSystem.origin,
    FileSystem.origin_join_ofName _ hne, Path.segments_join hrelative, Path.stem_join_ofName,
    FileSystem.walk_append_eq_ok_iff] at hwalk
  obtain ⟨q, hwalk, -⟩ := hwalk
  exact FileSystem.leads_of_walk_name hfit hne hwalk

/-- What the last invocation of a plan has to leave is there when all have passed. -/
theorem isFile_of_passed_concat {plan : List Invocation} {inv : Invocation} {tools tools' : σ}
    {output : Path} (h : Passed invoker (plan ++ [inv]) w tools w' tools')
    (hrequire : inv.requireOutputs = true) (houtput : output ∈ inv.outputs) :
    w'.files.isFile w'.cwd (inv.outputPath output) = true := by
  obtain ⟨w₁, tools₁, -, hlast⟩ := h.split
  cases hlast with
  | cons first others =>
    cases others
    exact first.2 hrequire output houtput

section Detection

variable (hdots : ∀ (language : Language) (name : FileName),
  name.text = "." ++ "." ++ language.extension → ¬HasFile s.files d name)

include hdots

theorem sources_of_sourceList (hleads : s.files.Leads s.cwd (c.home config) d)
    (h : SourceList s.files (c.home config) d language sources) :
    c.sources config language s = (.ok sources, s) := by
  rw [sources_eq hleads]
  exact congrArg (fun sources => (Except.ok sources, s))
    ((sourceList_of_listDirectory hleads hdots (.refl _ d _) hleads.listDirectory_eq).unique h)

variable (hcpp : SourceList s.files (c.home config) d .cpp cpp)
  (hassembly : SourceList s.files (c.home config) d .assembly assembly)

include hcpp hassembly

/-- The second listing shows what the first one did: the path of the case still leads to its directory, as
the last object has been found below it. -/
theorem assembly_after_cpp (hleads : s.files.Leads s.cwd (c.home config) d)
    (htools : ∀ inv, Issues c config samples inv →
      ∀ w tools, Undisturbed (c.home config) d w (invoker inv w tools).workspace)
    (hpassed : Passed invoker (c.requests config .cpp cpp) s.toWorkspace s.tools t.toWorkspace t.tools) :
    c.sources config .assembly t = (.ok assembly, t) := by
  have hkept : Undisturbed (c.home config) d s.toWorkspace t.toWorkspace := by
    refine hpassed.keeps (fun inv hinv w tools hw => hw.trans ?_) (.refl _ d _)
    obtain ⟨source, hsource, rfl⟩ := List.mem_map.1 hinv
    obtain ⟨x, hx⟩ := hcpp.exists_ofEntry? source hsource
    exact htools _ (.build .cpp x source hx) w tools
  have hleads' : t.files.Leads t.cwd (c.home config) d := by
    obtain rfl | ⟨sources, last, rfl⟩ := cpp.eq_nil_or_concat
    · obtain ⟨hsame, -⟩ := hpassed.unique (.nil _ _)
      rw [hsame]
      exact hleads
    · obtain ⟨x, hx⟩ := hcpp.exists_ofEntry? last (by simp)
      rw [requests, List.concat_eq_append, List.map_append] at hpassed
      have hfile := isFile_of_passed_concat hpassed rfl (List.mem_singleton_self _)
      have hlater := leads_of_isFile_object hleads.fit hleads.nonempty hx hfile
      rwa [hkept.called, hleads.called_eq] at hlater
  refine sources_of_sourceList (fun language name hname hfile => ?_) hleads' (hassembly.congr hkept.files)
  exact hdots language name hname ((hkept.files name).1 hfile)

/-- How compiling the assembly sources ends, behind the C++ sources. -/
theorem compileAssembly_of_sourceList {result : Except Failure (List Compiled)}
    (hrun : c.compileEach config invoker .assembly (cpp.map c.compiled) assembly t = (result, u))
    (hproduced : Produced invoker t u) (hdistinct : Distinct (cpp.map c.compiled)) :
    (∃ stem x y, Clash s.files (c.home config) d stem x y ∧
        (∀ stem' x' y', Clash s.files (c.home config) d stem' x' y' → ¬y' < y) ∧
        result = .error (.ofCause (.objectNameClash (c.dir.join (.ofName x)) (c.dir.join (.ofName y))
          (c.binDir.join (.ofString (stem ++ ".o"))))) ∧
        u.calls = t.calls ++ c.builds config .assembly (assembly.filter (·.name < y))) ∨
      ((¬∃ stem x y, Clash s.files (c.home config) d stem x y) ∧
        result = .ok ((cpp ++ assembly).map c.compiled) ∧ Distinct ((cpp ++ assembly).map c.compiled) ∧
        u.calls = t.calls ++ c.builds config .assembly assembly) := by
  have hcompiles := compileEach_compiles c config invoker .assembly (cpp.map c.compiled) assembly t
  rw [hrun] at hcompiles
  -- Two sources of one object in a list without repetitions are the same place of the list.
  have hfree : ∀ {xs : List Source}, Distinct (cpp.map c.compiled ++ xs.map c.compiled) →
      ∀ source ∈ cpp, ∀ source' ∈ xs, source.stem = source'.stem → source.stem ≠ "." → False := by
    intro xs hxs source hsource source' hsource' hstem hdot
    rw [Distinct, List.map_append] at hxs
    refine (List.nodup_append.1 hxs).2.2 _ (List.mem_map_of_mem (List.mem_map_of_mem hsource)) _
      (List.mem_map_of_mem (List.mem_map_of_mem hsource')) ?_
    change source.objectPath c = source'.objectPath c
    rw [objectPath_eq hdot, objectPath_eq (hstem ▸ hdot), objectOf, objectOf, hstem]
  cases hcompiles with
  | failed e t hsources hcalls hpassed hfails hdistinct =>
    rw [requests, List.map_append] at hcalls
    exact absurd (hproduced.passes hcalls hpassed) hfails
  | finished t hcalls hpassed hall =>
    have hall := hall hdistinct
    refine .inr ⟨?_, by rw [List.map_append], by rwa [List.map_append], ?_⟩
    · rintro ⟨stem, x, y, hclash⟩
      obtain ⟨hx, hy⟩ := (clash_iff hdots hcpp hassembly).1 hclash
      exact hfree hall ⟨x, stem⟩ hx ⟨y, stem⟩ hy rfl (hcpp.stem_ne_dot _ hx)
    · rw [hcalls, hassembly.requests_eq fun _ => id]
  | @clashed t before after source first hsources hcalls hpassed hbefore hfirst hobject =>
    left
    subst hsources
    have hmem : source ∈ before ++ source :: after := List.mem_append_right _ List.mem_cons_self
    obtain hfirst | hown := List.mem_append.1 hfirst
    · obtain ⟨earlier, hearlier, rfl⟩ := List.mem_map.1 hfirst
      obtain ⟨_, hentry⟩ := hcpp.exists_ofEntry? earlier hearlier
      obtain ⟨_, hentry'⟩ := hassembly.exists_ofEntry? source hmem
      have hdot := hcpp.stem_ne_dot earlier hearlier
      have hdot' := hassembly.stem_ne_dot source hmem
      have hstem := stem_eq_of_objectPath_eq hentry hentry' hdot hdot' hobject
      refine ⟨source.stem, earlier.name, source.name, (clash_iff hdots hcpp hassembly).2 ⟨?_, hmem⟩,
        fun stem' x' y' hclash hlt => ?_, ?_, ?_⟩
      · rw [← hstem]
        exact hearlier
      · obtain ⟨hx, hy⟩ := (clash_iff hdots hcpp hassembly).1 hclash
        have hin : (⟨y', stem'⟩ : Source) ∈ before := by
          rw [← hassembly.filter_lt]
          exact List.mem_filter.2 ⟨hy, decide_eq_true hlt⟩
        exact hfree (hbefore hdistinct) ⟨x', stem'⟩ hx ⟨y', stem'⟩ hin rfl (hcpp.stem_ne_dot _ hx)
      · rw [objectPath_eq hdot']
        rfl
      · rw [hcalls, hassembly.filter_lt, hassembly.requests_eq fun _ => List.mem_append_left _]
    · obtain ⟨earlier, hearlier, rfl⟩ := List.mem_map.1 hown
      exact absurd hobject (hassembly.objectPath_ne hearlier)

end Detection

/-- **Clashes are always found, and nothing else is taken for one.** Let the path of the case lead to a
directory whose regular files the tools leave where they are, and let all that is issued pass. Compiling
fails with a clash exactly if some stem has both a C++ source and an assembly source. It then tells the two
sources and their object for the first such assembly source by name, and has built the C++ sources and the
assembly sources before that one. Otherwise there is an object for each source, no two of them the same. -/
theorem compileSources_detects_clashes {result : Except Failure (List Path)}
    (hleads : s.files.Leads s.cwd (c.home config) d)
    (hdots : ∀ (language : Language) (name : FileName),
      name.text = "." ++ "." ++ language.extension → ¬HasFile s.files d name)
    (htools : ∀ inv, Issues c config samples inv →
      ∀ w tools, Undisturbed (c.home config) d w (invoker inv w tools).workspace)
    (hrun : c.compileSources config invoker s = (result, t)) (hproduced : Produced invoker s t) :
    ((∃ first second object, result = .error (.ofCause (.objectNameClash first second object))) ↔
      ∃ stem x y, Clash s.files (c.home config) d stem x y) ∧
    ∃ cpp assembly, SourceList s.files (c.home config) d .cpp cpp ∧
      SourceList s.files (c.home config) d .assembly assembly ∧
      ((∃ stem x y, Clash s.files (c.home config) d stem x y ∧
          (∀ stem' x' y', Clash s.files (c.home config) d stem' x' y' → ¬y' < y) ∧
          result = .error (.ofCause (.objectNameClash (c.dir.join (.ofName x)) (c.dir.join (.ofName y))
            (c.binDir.join (.ofString (stem ++ ".o"))))) ∧
          t.calls = s.calls ++ (c.builds config .cpp cpp ++
            c.builds config .assembly (assembly.filter (·.name < y)))) ∨
        (result = .ok ((cpp ++ assembly).map c.objectOf) ∧ ((cpp ++ assembly).map c.objectOf).Nodup ∧
          t.calls = s.calls ++ (c.builds config .cpp cpp ++ c.builds config .assembly assembly))) := by
  obtain ⟨cpp, hcpp⟩ := exists_sourceList hleads hdots .cpp
  obtain ⟨assembly, hassembly⟩ := exists_sourceList hleads hdots .assembly
  rw [compileSources, Action.bind_of_ok (sources_of_sourceList hdots hleads hcpp)] at hrun
  cases hfirst : c.compileEach config invoker .cpp [] cpp s with
  | mk first u =>
    have hfailed : ∀ e, first = .error e → Produced invoker s u := by
      rintro e rfl
      rw [Action.bind_of_error hfirst] at hrun
      cases hrun
      exact hproduced
    obtain ⟨rfl, hcalls, hpassed, hdistinct⟩ := compileEach_of_sourceList hcpp hfirst hfailed
    have hlisted := assembly_after_cpp hdots hcpp hassembly hleads htools hpassed
    rw [Action.bind_of_ok hfirst, Action.bind_of_ok hlisted, Action.bind_apply] at hrun
    have hcompiles := compileEach_compiles c config invoker .assembly (cpp.map c.compiled) assembly u
    cases hsecond : c.compileEach config invoker .assembly (cpp.map c.compiled) assembly u with
    | mk second v =>
      rw [hsecond] at hrun hcompiles
      obtain ⟨issued, hrest⟩ := hcompiles.exists_calls
      have hsame : v = t := by cases second <;> cases hrun <;> rfl
      subst hsame
      rw [hcpp.requests_eq fun _ => id] at hcalls
      obtain ⟨stem, x, y, hclash, hleast, rfl, hcalls'⟩ | ⟨hnone, rfl, hall, hcalls'⟩ :=
        compileAssembly_of_sourceList hdots hcpp hassembly hsecond
          (hproduced.behind hcalls (by rwa [hcpp.requests_eq fun _ => id] at hpassed) hrest) hdistinct
      · cases hrun
        refine ⟨iff_of_true ⟨_, _, _, rfl⟩ ⟨stem, x, y, hclash⟩, cpp, assembly, hcpp, hassembly,
          .inl ⟨stem, x, y, hclash, hleast, rfl, ?_⟩⟩
        rw [hcalls', hcalls, List.append_assoc]
      · cases hrun
        have hobjects : ((cpp ++ assembly).map c.compiled).map (·.object) =
            (cpp ++ assembly).map c.objectOf := by
          rw [List.map_append, List.map_append, List.map_append, hcpp.map_object_compiled,
            hassembly.map_object_compiled]
        rw [Distinct, hobjects] at hall
        refine ⟨iff_of_false ?_ hnone, cpp, assembly, hcpp, hassembly, .inr ⟨?_, hall, ?_⟩⟩
        · rintro ⟨_, _, _, hclash⟩
          cases hclash
        · rw [← hobjects]
        · rw [hcalls', hcalls, List.append_assoc]

/-! ### Examples of clashes -/

/-- A case with two stems of which one clashes, and tools that write the objects. The source before the one
that clashes is assembled. -/
theorem compileSources_detects_second_stem :
    let dir : Location := [⟨"c", by decide⟩]
    let files := ((((FileSystem.empty.put dir .directory).put (dir ++ [binName]) .directory).put
      (dir ++ [⟨"b.cpp", by decide⟩]) (.file [] false)).put
      (dir ++ [⟨"a.S", by decide⟩]) (.file [] false)).put (dir ++ [⟨"b.S", by decide⟩]) (.file [] false)
    let config := Example.config .bless (.ofString ".")
    let c : TestCase := ⟨.ofString "c"⟩
    let invoker := Example.writing [1]
      [dir ++ [binName] ++ [⟨"a.o", by decide⟩], dir ++ [binName] ++ [⟨"b.o", by decide⟩]]
    let s : Session Unit := .start ⟨files, .root⟩ ()
    ∃ t, c.compileSources config invoker s = (.error (.ofCause (.objectNameClash (.ofString "c/b.cpp")
        (.ofString "c/b.S") (.ofString "c/_bin/b.o"))), t) ∧
      t.calls = [config.toolchain.compile (.ofString "c/b.cpp") (.ofString "c/_bin/b.o"),
        config.toolchain.assemble (.ofString "c/a.S") (.ofString "c/_bin/a.o")] ∧
      Produced invoker s t ∧ ∃ stem x y, Clash s.files (c.home config) dir stem x y := by
  intro dir files config c invoker s
  have hleads : s.files.Leads .root (c.home config) dir := FileSystem.leads_iff.2 (by decide +kernel)
  have hdots : ∀ (language : Language) (name : FileName),
      name.text = "." ++ "." ++ language.extension → ¬HasFile s.files dir name :=
    not_hasFile_dot (by decide +kernel) (by decide +kernel)
  have hbelow : ∀ name : FileName, (scratchRegion dir).holds (dir ++ [binName] ++ [name]) = true :=
    fun name => holds_scratchRegion.2 (.inl (List.prefix_append _ _))
  have htools : ∀ inv, Issues c config .relative inv → ∀ w tools,
      Undisturbed (c.home config) dir w (invoker inv w tools).workspace := fun inv _ w tools =>
    .of_sameOutside (Example.writing_sameOutside (List.forall_mem_cons.2 ⟨hbelow _,
      List.forall_mem_singleton.2 (hbelow _)⟩) inv w tools) _
  have hclash : (c.compileSources config invoker s).1 = .error (.ofCause (.objectNameClash
      (.ofString "c/b.cpp") (.ofString "c/b.S") (.ofString "c/_bin/b.o"))) := by
    decide +kernel
  have hcalls : (c.compileSources config invoker s).2.calls =
      [config.toolchain.compile (.ofString "c/b.cpp") (.ofString "c/_bin/b.o"),
        config.toolchain.assemble (.ofString "c/a.S") (.ofString "c/_bin/a.o")] := by
    decide +kernel
  cases hrun : c.compileSources config invoker s with
  | mk result t =>
    rw [hrun] at hclash hcalls
    dsimp only at hclash hcalls
    have hproduced : Produced invoker s t :=
      ⟨_, _, _, hcalls, .cons ⟨⟨_, rfl⟩, by decide +kernel⟩ (.cons ⟨⟨_, rfl⟩, by decide +kernel⟩ (.nil _ _))⟩
    obtain ⟨hiff, -⟩ := compileSources_detects_clashes hleads hdots htools hrun hproduced
    exact ⟨t, by rw [hclash], hcalls, hproduced, hiff.1 ⟨_, _, _, hclash⟩⟩

/-- **A clash that is left out.** The path of a case is so long that the system does not take those of its
two sources: none is compiled, and their common object is not noticed. -/
theorem compileSources_leaves_out_clash :
    let dir : Location := [⟨"c", by decide⟩]
    let x : FileName := ⟨"longest_name.cpp", by decide⟩
    let y : FileName := ⟨"longest_name.S", by decide⟩
    let files := ((FileSystem.empty.put dir .directory).put (dir ++ [x]) (.file [] false)).put
      (dir ++ [y]) (.file [] false)
    let config := Example.config .bless (.dots 2039)
    let c : TestCase := ⟨.ofString "c"⟩
    let s : Session Unit := .start ⟨files, .root⟩ ()
    files.get? (dir ++ [x]) = some (.file [] false) ∧ files.get? (dir ++ [y]) = some (.file [] false) ∧
      s.files.Leads s.cwd (c.home config) dir ∧
      ∀ invoker : Invoker Unit, c.compileSources config invoker s = (.ok [], s) := by
  intro dir x y files config c s
  have hhome : c.home config = (Path.dots 2039).join (.ofName ⟨"c", by decide⟩) := rfl
  have hlong : ∀ name ∈ [y, x], ((c.home config).join (.ofName name)).isTooLong = true := by
    intro name hname
    rw [← Bool.not_eq_false, hhome, Path.isTooLong_behind_dots]
    revert name
    decide
  have hleads : s.files.Leads .root ((Path.dots 2039).join (.ofName ⟨"c", by decide⟩)) dir :=
    FileSystem.leads_behind_dots (by decide) (by decide) (by decide) (by decide +kernel)
  have hchildren : (s.files.children dir).map (·.1) = [y, x] := by decide +kernel
  have hsources : ∀ language, c.sources config language s = (.ok [], s) := fun language =>
    sources_eq_nil hleads fun entry hentry _ =>
      hlong entry.1 (hchildren ▸ List.mem_map_of_mem hentry)
  exact ⟨by decide +kernel, by decide +kernel, hleads, fun _ => compileSources_of_no_sources hsources⟩

end LinkBench.TestCase
