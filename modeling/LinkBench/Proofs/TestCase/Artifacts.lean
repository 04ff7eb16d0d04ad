import Mathlib.Data.List.Nodup
import LinkBench.Proofs.TestCase.Clash

/-!
# What a case writes

An invocation declares its outputs apart from its arguments, and the tool knows only the latter. Here both are
brought together: each output that a case declares lies directly in the scratch directory for its kind, and the
tool is told to write just that (`Declares`). No two outputs of a case are the same (`run_artifacts`).
-/

namespace LinkBench

variable {σ : Type} {file file' scratch scratch' : FileName} {dir dir' p : Path}

/-! ### Paths of two names -/

namespace Path

theorem ofString_text (name : FileName) : Path.ofString name.text = .ofName name :=
  ext_segments (segments_ofString name.valid.2.2.2)

theorem join_ofName_injective (p : Path) :
    Function.Injective fun name : FileName => p.join (.ofName name) := by
  intro a b h
  have hsegments := congrArg Path.segments h
  dsimp only at hsegments
  rw [segments_join_ofName, segments_join_ofName] at hsegments
  exact FileName.ext_text (List.singleton_inj.1 (List.append_cancel_left hsegments))

/-- A path ends with the last two names of it. -/
theorem text_ends (dir : Path) (scratch file : FileName) :
    ∃ front, ((dir.join (.ofName scratch)).join (.ofName file)).text.toList =
      front ++ scratch.text.toList ++ '/' :: file.text.toList := by
  have hpair : (String.intercalate "/" [scratch.text, file.text]).toList =
      scratch.text.toList ++ '/' :: file.text.toList := by
    rw [String.intercalate_cons_of_ne_nil (List.cons_ne_nil _ _), String.intercalate_singleton]
    simp
  rw [text, segments_join_join_ofName]
  by_cases hstem : dir.stem = []
  · exact ⟨[], by rw [hstem, List.nil_append, List.nil_append, hpair]⟩
  · refine ⟨(String.intercalate "/" dir.stem).toList ++ ['/'], ?_⟩
    rw [String.intercalate_append_of_ne_nil hstem (List.cons_ne_nil _ _), String.toList_append, hpair]
    simp

/-- What stands behind the last slash is the last name. -/
theorem last_slash_inj {front front' : List Char} (h : front ++ '/' :: file.text.toList =
    front' ++ '/' :: file'.text.toList) : front = front' ∧ file = file' := by
  have hnone : ∀ {a b : FileName} {between : List Char},
      '/' :: a.text.toList = between ++ '/' :: b.text.toList → between = [] := by
    intro a b between h
    cases between with
    | nil => rfl
    | cons c between =>
      refine absurd ?_ a.valid.2.2.2
      rw [(List.cons.inj h).2]
      simp
  obtain ⟨between, rfl, hrest⟩ | ⟨between, rfl, hrest⟩ := List.append_eq_append_iff.1 h
  · obtain rfl := hnone hrest
    exact ⟨(List.append_nil _).symm, FileName.ext_text (String.toList_inj.1 (List.cons.inj hrest).2)⟩
  · obtain rfl := hnone hrest
    exact ⟨List.append_nil _, FileName.ext_text (String.toList_inj.1 (List.cons.inj hrest).2.symm)⟩

/-- Paths into directories whose names are as long as each other are only written alike if these names are
the same, as are the last ones. -/
theorem names_of_text_suffix (scratch scratch' : FileName)
    (hlength : scratch.text.toList.length = scratch'.text.toList.length)
    (h : ((dir.join (.ofName scratch)).join (.ofName file)).text.toList <:+
      ((dir'.join (.ofName scratch')).join (.ofName file')).text.toList) :
    scratch = scratch' ∧ file = file' := by
  obtain ⟨front, hfront⟩ := text_ends dir scratch file
  obtain ⟨front', hfront'⟩ := text_ends dir' scratch' file'
  obtain ⟨more, hmore⟩ := h
  rw [hfront, hfront', ← List.append_assoc, ← List.append_assoc] at hmore
  obtain ⟨hbefore, hfile⟩ := last_slash_inj hmore
  exact ⟨FileName.ext_text (String.toList_inj.1 (List.append_inj_right' hbefore hlength)), hfile⟩

end Path

/-! ### What the linker is told to write -/

/-- The value of an argument of the form `-output-...=...`. -/
def outputValue? (arg : String) : Option String :=
  if "-output-".toList <+: arg.toList then
    match arg.toList.dropWhile (· != '=') with
    | [] => none
    | _ :: value => some (String.ofList value)
  else
    none

/-- The values of the arguments of that form, in order. -/
def Invocation.outputValues (inv : Invocation) : List String :=
  inv.args.filterMap outputValue?

theorem suffix_of_outputValue? {arg value : String} (h : outputValue? arg = some value) :
    value.toList <:+ arg.toList := by
  unfold outputValue? at h
  split at h
  · split at h
    · cases h
    · rename_i c rest hdrop
      cases h
      rw [String.toList_ofList]
      exact (List.suffix_cons c rest).trans (hdrop ▸ List.dropWhile_suffix _)
  · cases h

/-- Whether an option names an output is told by its name. -/
theorem outputValue?_pathFlag {name : String} (hname : '=' ∉ name.toList) (p : Path) :
    outputValue? (Toolchain.pathFlag name p) =
      if "-output-".toList <+: name.toList then some p.text else none := by
  have harg : (Toolchain.pathFlag name p).toList = name.toList ++ '=' :: p.text.toList := by
    simp [Toolchain.pathFlag]
  have hvalue : (name.toList ++ '=' :: p.text.toList).dropWhile (· != '=') = '=' :: p.text.toList := by
    have hbefore : ∀ c ∈ name.toList, (c != '=') = true := fun c hc =>
      bne_iff_ne.2 fun heq => hname (heq ▸ hc)
    rw [List.dropWhile_append_of_pos hbefore]
    simp
  have hbegins : "-output-".toList <+: name.toList ++ '=' :: p.text.toList ↔
      "-output-".toList <+: name.toList := by
    refine ⟨fun h => ?_, fun h => h.trans (List.prefix_append _ _)⟩
    obtain hshort | hlong := Nat.lt_or_ge name.toList.length "-output-".toList.length
    · -- Otherwise the equals sign would be one of the first letters.
      have hmore : name.toList ++ ['='] <+: "-output-".toList := by
        refine List.prefix_of_prefix_length_le ⟨p.text.toList, by simp⟩ h ?_
        rw [List.length_append]
        exact hshort
      exact absurd (hmore.subset (by simp)) (by decide : '=' ∉ "-output-".toList)
    · exact List.prefix_of_prefix_length_le h (List.prefix_append _ _) hlong
  rw [outputValue?, harg, hvalue]
  simp only [hbegins, String.ofList_toList]

theorem outputValue?_static (digits : String) : outputValue? ("-static=0x" ++ digits) = none := by
  refine if_neg fun h => ?_
  rw [String.toList_append] at h
  have hfirst := List.prefix_of_prefix_length_le h (List.prefix_append _ digits.toList) (by decide)
  revert hfirst
  decide

section Values

variable {name arg : String} {rest : List String}

theorem filterMap_flag (hname : '=' ∉ name.toList) (houtput : "-output-".toList <+: name.toList) :
    (Toolchain.pathFlag name p :: rest).filterMap outputValue? =
      p.text :: rest.filterMap outputValue? :=
  List.filterMap_cons_some ((outputValue?_pathFlag hname p).trans (if_pos houtput))

theorem filterMap_other_flag (hname : '=' ∉ name.toList) (hother : ¬"-output-".toList <+: name.toList) :
    (Toolchain.pathFlag name p :: rest).filterMap outputValue? = rest.filterMap outputValue? :=
  List.filterMap_cons_none ((outputValue?_pathFlag hname p).trans (if_neg hother))

theorem filterMap_plain (harg : outputValue? arg = none) :
    (arg :: rest).filterMap outputValue? = rest.filterMap outputValue? :=
  List.filterMap_cons_none harg

end Values

namespace TestCase

variable {c : TestCase} {config : Config} {samples : Sample.Inputs} {invoker : Invoker σ}
  {language : Language} {x : FileName × Entry} {source : Source} {objects : List Path} {inv : Invocation}
  {s t u : Session σ}

/-- The path of an output of the linker. -/
def outputOf (c : TestCase) (file : FileName) : Path :=
  c.outDir.join (.ofName file)

/-- The outputs that the links of a case declare. -/
def linkFiles : List FileName :=
  [⟨"output-riiv.xml", by decide⟩, ⟨"output-dolphin.ini", by decide⟩, ⟨"output-gecko.txt", by decide⟩,
    ⟨"output-ar.txt", by decide⟩, ⟨"output-code.bin", by decide⟩, ⟨"output-map-static.map", by decide⟩,
    ⟨"output-dol.dol", by decide⟩, ⟨"output-alf_104.alf", by decide⟩, ⟨"output-alf_105.alf", by decide⟩,
    ⟨"output-map-dynamic.map", by decide⟩]

theorem outputOf_eq (c : TestCase) (file : FileName) :
    c.outputOf file = c.outDir.join (.ofString file.text) := by
  rw [outputOf, Path.ofString_text]

theorem outputs_links (c : TestCase) (config : Config) (samples : Sample.Inputs) (objects : List Path) :
    (c.links config samples objects).flatMap (·.outputs) = linkFiles.map c.outputOf := by
  rw [List.map_congr_left fun file _ => outputOf_eq c file]
  rfl

/-- A link is told to write the files, of which it declares outputs, and besides these what may be read into
the paths of its objects. -/
structure Told (c : TestCase) (objects : List Path) (inv : Invocation) (files : List FileName) :
    Prop where
  distinct : files.Nodup
  values : inv.outputValues = files.map (fun file => (c.outputOf file).text) ++
    (objects.map (·.text)).filterMap outputValue?
  outputs : inv.outputs ⊆ files.map c.outputOf

theorem told_primary (base : UInt32) (externals : Path) :
    Told c objects (config.toolchain.primaryStaticLink objects base externals samples c.outDir)
      (linkFiles.take 8) where
  distinct := by decide
  values := by
    simp (disch := decide) only [Invocation.outputValues, Toolchain.primaryStaticLink, Toolchain.link,
      Toolchain.staticFlags, Toolchain.staticOutputs, List.map_cons, List.map_nil, List.cons_append,
      List.nil_append, filterMap_plain, filterMap_plain (outputValue?_static _), filterMap_flag,
      filterMap_other_flag, outputOf_eq]
    rfl
  outputs := by
    rw [List.map_congr_left fun file _ => outputOf_eq c file]
    exact List.Subset.refl _

theorem told_secondary (base : UInt32) (externals : Path) :
    Told c objects (config.toolchain.secondaryStaticLink objects base externals samples c.outDir)
      [⟨"output-alf_105.alf", by decide⟩] where
  distinct := by decide
  values := by
    simp (disch := decide) only [Invocation.outputValues, Toolchain.secondaryStaticLink, Toolchain.link,
      Toolchain.staticFlags, List.cons_append, List.nil_append, filterMap_plain,
      filterMap_plain (outputValue?_static _), filterMap_flag, filterMap_other_flag, outputOf_eq]
    rfl
  outputs := by
    rw [List.map_congr_left fun file _ => outputOf_eq c file]
    exact List.Subset.refl _

/-- The module link writes files that it does not declare: the linker makes up their names. -/
theorem told_dynamic (externals versions : Path) :
    Told c objects (config.toolchain.dynamicLink objects externals versions c.outDir)
      [⟨"output-kamek.$KV$.bin", by decide⟩, ⟨"output-map-dynamic.map", by decide⟩] where
  distinct := by decide
  values := by
    simp (disch := decide) only [Invocation.outputValues, Toolchain.dynamicLink, Toolchain.link,
      List.cons_append, List.nil_append, filterMap_plain, filterMap_flag, filterMap_other_flag, outputOf_eq]
    rfl
  outputs := by
    rw [List.map_congr_left fun file _ => outputOf_eq c file]
    exact List.subset_cons_self _ _

theorem exists_told (h : inv ∈ c.links config samples objects) : ∃ files, Told c objects inv files := by
  simp only [links, Toolchain.staticLinks, List.cons_append, List.nil_append, List.mem_cons,
    List.not_mem_nil, or_false] at h
  obtain rfl | rfl | rfl := h
  · exact ⟨_, told_primary _ _⟩
  · exact ⟨_, told_secondary _ _⟩
  · exact ⟨_, told_dynamic _ _⟩

theorem text_outputOf_injective (c : TestCase) :
    Function.Injective fun file : FileName => (c.outputOf file).text := by
  intro a b h
  have htext : (c.outputOf a).text.toList = (c.outputOf b).text.toList := congrArg String.toList h
  have hsuffix : (c.outputOf a).text.toList <:+ (c.outputOf b).text.toList := htext ▸ List.suffix_refl _
  exact (Path.names_of_text_suffix outName outName rfl hsuffix).2

/-- What is read into the path of an object is not the path of an output. -/
theorem outputValue?_object (c : TestCase) (object file : FileName) :
    outputValue? (c.binDir.join (.ofName object)).text ≠ some (c.outputOf file).text := by
  intro h
  have hscratch := (Path.names_of_text_suffix outName binName (by decide)
    (suffix_of_outputValue? h)).1
  revert hscratch
  decide

theorem Told.count_eq_one {files : List FileName} (h : Told c objects inv files)
    (hobjects : ∀ object ∈ objects, ∃ file, object = c.binDir.join (.ofName file)) (hfile : file ∈ files) :
    inv.outputValues.count (c.outputOf file).text = 1 := by
  have hown := List.count_eq_one_of_mem (h.distinct.map (text_outputOf_injective c))
    (List.mem_map_of_mem hfile)
  have hothers : (c.outputOf file).text ∉ (objects.map (·.text)).filterMap outputValue? := by
    intro hmem
    obtain ⟨arg, harg, hvalue⟩ := List.mem_filterMap.1 hmem
    obtain ⟨_, hobject, rfl⟩ := List.mem_map.1 harg
    obtain ⟨object, rfl⟩ := hobjects _ hobject
    exact outputValue?_object c object file hvalue
  rw [h.values, List.count_append, hown, List.count_eq_zero_of_not_mem hothers]

/-! ### What an invocation declares -/

/-- The outputs of an invocation of the case are where they belong, and the tool is told to write just these. -/
inductive Declares (c : TestCase) (config : Config) (samples : Sample.Inputs) (inv : Invocation) : Prop
  /-- The object lies directly in `_bin` and stands behind `-o`. -/
  | build (language : Language) (source : Path) (file : FileName) (before : List String)
      (hinv : inv = config.toolchain.build language source (c.binDir.join (.ofName file)))
      (houtputs : inv.outputs = [c.binDir.join (.ofName file)])
      (hargs : inv.args = before ++ ["-o", (c.binDir.join (.ofName file)).text, source.text])
  /-- Each output lies directly in `_out` and is the value of exactly one argument. -/
  | link (objects : List Path) (hinv : inv ∈ c.links config samples objects)
      (houtputs : ∀ output ∈ inv.outputs, (∃ file, output = c.outputOf file) ∧
        inv.outputValues.count output.text = 1)

theorem declares_build (language : Language) (source : Path) (file : FileName) :
    Declares c config samples
      (config.toolchain.build language source (c.binDir.join (.ofName file))) := by
  have hargs : ∀ tool flags, ∃ before,
      (config.toolchain.compileWith tool flags source (c.binDir.join (.ofName file))).args =
        before ++ ["-o", (c.binDir.join (.ofName file)).text, source.text] := by
    intro tool flags
    unfold Toolchain.compileWith
    cases config.toolchain.wrapper with
    | none => exact ⟨flags ++ ["-c"], by simp⟩
    | some wrapper => exact ⟨tool.text :: flags ++ ["-c"], by simp⟩
  cases language with
  | cpp =>
    obtain ⟨before, hbefore⟩ := hargs config.toolchain.compiler config.toolchain.compilerFlags
    exact .build .cpp source file before rfl rfl hbefore
  | assembly =>
    obtain ⟨before, hbefore⟩ := hargs config.toolchain.assembler config.toolchain.assemblerFlags
    exact .build .assembly source file before rfl rfl hbefore

theorem declares_link (hobjects : ∀ object ∈ objects, ∃ file, object = c.binDir.join (.ofName file))
    (h : inv ∈ c.links config samples objects) : Declares c config samples inv := by
  obtain ⟨files, htold⟩ := exists_told h
  refine .link objects h fun output houtput => ?_
  obtain ⟨file, hfile, rfl⟩ := List.mem_map.1 (htold.outputs houtput)
  exact ⟨⟨file, rfl⟩, htold.count_eq_one hobjects hfile⟩

/-- An object has a name of its own unless the source is called by nothing but its extension. -/
theorem exists_object (hx : Source.ofEntry? language x = some source) (hdot : source.stem ≠ ".") :
    ∃ file, source.objectPath c = c.binDir.join (.ofName file) := by
  obtain ⟨-, hstem, htext, -⟩ := Source.ofEntry?_eq_some_iff.1 hx
  have hchars : (source.stem ++ ".o").toList = source.stem.toList ++ ['.', 'o'] := String.toList_append
  have hlength : 0 < source.stem.toList.length :=
    List.length_pos_iff.2 fun hnil => hstem (String.toList_inj.1 hnil)
  have hshort : ∀ {text : String}, text.toList.length ≤ 2 → source.stem ++ ".o" ≠ text := by
    rintro _ hle rfl
    rw [hchars, List.length_append] at hle
    simp only [List.length_cons, List.length_nil] at hle
    omega
  have hslash : '/' ∉ (source.stem ++ ".o").toList := by
    intro hmem
    rw [hchars, List.mem_append] at hmem
    obtain hmem | hmem := hmem
    · refine x.1.valid.2.2.2 ?_
      rw [htext]
      simp [hmem]
    · revert hmem
      decide
  let file : FileName := ⟨source.stem ++ ".o", hshort (by decide), hshort (by decide), hshort (by decide), hslash⟩
  refine ⟨file, ?_⟩
  rw [objectPath_eq hdot, objectOf, ← Path.ofString_text file]

/-! ### The artifacts of a case -/

/-- No invocation overwrites what another has written, and each declares what it writes. -/
structure Artifacts (c : TestCase) (config : Config) (samples : Sample.Inputs) (issued : List Invocation) :
    Prop where
  distinct : (issued.flatMap (·.outputs)).Nodup
  declared : ∀ inv ∈ issued, Declares c config samples inv

theorem Artifacts.nil (c : TestCase) (config : Config) (samples : Sample.Inputs) :
    Artifacts c config samples [] := ⟨.nil, nofun⟩

theorem outputs_requests (c : TestCase) (config : Config) (language : Language) (sources : List Source) :
    (c.requests config language sources).flatMap (·.outputs) = sources.map (·.objectPath c) := by
  rw [requests, List.flatMap_map, List.map_eq_flatMap]
  cases language <;> rfl

/-- What a source is compiled to does not overwrite what the objects are linked to. -/
theorem object_ne_output (c : TestCase) (object file : FileName) :
    c.binDir.join (.ofName object) ≠ c.outputOf file := by
  intro h
  have hsuffix : (c.binDir.join (.ofName object)).text.toList <:+ (c.outputOf file).text.toList :=
    h ▸ List.suffix_refl _
  have hscratch := (Path.names_of_text_suffix binName outName (by decide) hsuffix).1
  revert hscratch
  decide

/-- The builds of sources with distinct objects, and then links of these. -/
theorem artifacts_of_requests {cpp assembly : List Source} {linked : List Invocation}
    (hobjects : ∀ source ∈ cpp ++ assembly, ∃ file, source.objectPath c = c.binDir.join (.ofName file))
    (hdistinct : Distinct ((cpp ++ assembly).map c.compiled))
    (hlinked : linked <+: c.links config samples ((cpp ++ assembly).map (·.objectPath c))) :
    Artifacts c config samples
      (c.requests config .cpp cpp ++ c.requests config .assembly assembly ++ linked) := by
  have hobject : ∀ object ∈ (cpp ++ assembly).map (·.objectPath c),
      ∃ file, object = c.binDir.join (.ofName file) := by
    intro object hmem
    obtain ⟨source, hsource, rfl⟩ := List.mem_map.1 hmem
    exact hobjects source hsource
  have hbuilt : ∀ {language : Language} {sources : List Source}, (∀ source ∈ sources, source ∈ cpp ++ assembly) →
      ∀ inv ∈ c.requests config language sources, Declares c config samples inv := by
    intro language sources hsub inv hinv
    obtain ⟨source, hsource, rfl⟩ := List.mem_map.1 hinv
    obtain ⟨file, hfile⟩ := hobjects source (hsub source hsource)
    rw [hfile]
    exact declares_build language _ file
  constructor
  · obtain ⟨rest, hrest⟩ := hlinked
    have hall := outputs_links c config samples ((cpp ++ assembly).map (·.objectPath c))
    rw [← hrest, List.flatMap_append] at hall
    have hfiles : (linkFiles.map c.outputOf).Nodup :=
      (by decide : linkFiles.Nodup).map (Path.join_ofName_injective c.outDir)
    rw [List.flatMap_append, List.flatMap_append, outputs_requests, outputs_requests, ← List.map_append]
    rw [Distinct, List.map_map] at hdistinct
    rw [← hall] at hfiles
    refine List.nodup_append.2 ⟨hdistinct, (List.nodup_append.1 hfiles).1, ?_⟩
    rintro object hmem output houtput rfl
    obtain ⟨file, rfl⟩ := hobject object hmem
    have hplace := List.mem_append_left (rest.flatMap (·.outputs)) houtput
    rw [hall] at hplace
    obtain ⟨file', -, heq⟩ := List.mem_map.1 hplace
    exact object_ne_output c file file' heq.symm
  · refine List.forall_mem_append.2 ⟨List.forall_mem_append.2 ⟨?_, ?_⟩, fun inv hinv => ?_⟩
    · exact hbuilt fun source hsource => List.mem_append_left _ hsource
    · exact hbuilt fun source hsource => List.mem_append_right _ hsource
    · exact declares_link hobject (hlinked.subset hinv)

theorem session_of_sources {listed : Except Failure (List Source)}
    (h : c.sources config language s = (listed, t)) : t = s := by
  cases listed with
  | ok sources =>
    obtain ⟨entries, u, hread, hreturn⟩ := Action.bind_eq_ok_iff.1 h
    cases hreturn
    exact (congrArg Prod.snd (Action.mapError_eq_ok_iff.1 hread)).symm
  | error e =>
    obtain hread | ⟨_, _, _, hreturn⟩ := Action.bind_eq_error_iff.1 h
    · obtain ⟨_, hread, -⟩ := Action.mapError_eq_error_iff.1 hread
      exact (congrArg Prod.snd hread).symm
    · cases hreturn

section Run

variable {I : Workspace → Prop}
  (hlist : ∀ (s t : Session σ) language sources, I s.toWorkspace →
    c.sources config language s = (.ok sources, t) → ∀ source ∈ sources, source.stem ≠ ".")
  (hinvoker : ∀ inv, Issues c config samples inv →
    ∀ w tools, I w → I (invoker inv w tools).workspace)

include hlist in
theorem objects_of_sources {sources built : List Source} (hs : I s.toWorkspace)
    (h : c.sources config language s = (.ok sources, t)) (hbuilt : built <+: sources) :
    ∀ source ∈ built, ∃ file, source.objectPath c = c.binDir.join (.ofName file) := by
  intro source hsource
  have hmem := hbuilt.subset hsource
  obtain ⟨x, hx⟩ := ofEntry?_of_sources h source hmem
  exact exists_object hx (hlist s t language sources hs h source hmem)

include hlist hinvoker

/-- However compiling the sources of a language ends, it has issued the builds of some of them, whose objects
differ from each other and from those before. -/
theorem compileLanguage_requests {done : List Compiled} {result : Except Failure (List Compiled)}
    (hs : I s.toWorkspace) (hdone : Distinct done)
    (hrun : (c.sources config language >>= fun sources =>
      c.compileEach config invoker language done sources) s = (result, t)) :
    I t.toWorkspace ∧ ∃ built : List Source,
      (∀ source ∈ built, ∃ file, source.objectPath c = c.binDir.join (.ofName file)) ∧
      t.calls = s.calls ++ c.requests config language built ∧ Distinct (done ++ built.map c.compiled) ∧
      ∀ all, result = .ok all → all = done ++ built.map c.compiled := by
  rw [Action.bind_apply] at hrun
  cases hlisted : c.sources config language s with
  | mk listed s' =>
    obtain rfl := session_of_sources hlisted
    rw [hlisted] at hrun
    cases listed with
    | error e =>
      cases hrun
      exact ⟨hs, [], nofun, (List.append_nil _).symm, by simpa using hdone, nofun⟩
    | ok sources =>
      dsimp only at hrun
      have hcompiles := compileEach_compiles c config invoker language done sources s'
      rw [hrun] at hcompiles
      obtain ⟨built, hpre, hcalls, hdistinct, hall⟩ := hcompiles.built hdone
      exact ⟨(compileEach_keeps hinvoker language done sources (ofEntry?_of_sources hlisted)).of_eq hs hrun,
        built, objects_of_sources hlist hs hlisted hpre, hcalls, hdistinct, hall⟩

/-- However compiling ends, it has issued the builds of sources with distinct objects. -/
theorem compileSources_requests {result : Except Failure (List Path)} (hs : I s.toWorkspace)
    (hrun : c.compileSources config invoker s = (result, t)) :
    ∃ cpp assembly : List Source,
      (∀ source ∈ cpp ++ assembly, ∃ file, source.objectPath c = c.binDir.join (.ofName file)) ∧
      Distinct ((cpp ++ assembly).map c.compiled) ∧
      t.calls = s.calls ++ (c.requests config .cpp cpp ++ c.requests config .assembly assembly) ∧
      ∀ objects, result = .ok objects → objects = (cpp ++ assembly).map (·.objectPath c) := by
  have hparts : c.compileSources config invoker =
      (c.sources config .cpp >>= fun sources => c.compileEach config invoker .cpp [] sources) >>= fun cpp =>
        (c.sources config .assembly >>= fun sources => c.compileEach config invoker .assembly cpp sources) >>=
          fun all => pure (all.map (·.object)) := by
    simp only [compileSources, bind_assoc]
  rw [hparts, Action.bind_apply] at hrun
  cases hfirst : (c.sources config .cpp >>= fun sources =>
      c.compileEach config invoker .cpp [] sources) s with
  | mk first u =>
    have hnone : Distinct [] := .nil
    obtain ⟨hu, cpp, hobjects, hcalls, hdistinct, hall⟩ :=
      compileLanguage_requests hlist hinvoker hs hnone hfirst
    rw [hfirst] at hrun
    cases first with
    | error e =>
      cases hrun
      exact ⟨cpp, [], by rwa [List.append_nil], by rwa [List.append_nil],
        by rw [hcalls, requests, requests, List.map_nil, List.append_nil], fun _ h => by cases h⟩
    | ok done =>
      obtain rfl := hall done rfl
      dsimp only at hrun
      rw [Action.bind_apply] at hrun
      cases hsecond : (c.sources config .assembly >>= fun sources =>
          c.compileEach config invoker .assembly ([] ++ cpp.map c.compiled) sources) u with
      | mk second v =>
        obtain ⟨-, assembly, hobjects', hcalls', hdistinct', hall'⟩ :=
          compileLanguage_requests hlist hinvoker hu hdistinct hsecond
        rw [hsecond] at hrun
        rw [List.nil_append, ← List.map_append] at hdistinct' hall'
        refine ⟨cpp, assembly, List.forall_mem_append.2 ⟨hobjects, hobjects'⟩, hdistinct', ?_⟩
        cases second with
        | error e =>
          cases hrun
          exact ⟨by rw [hcalls', hcalls, List.append_assoc], fun _ h => by cases h⟩
        | ok all =>
          obtain rfl := hall' all rfl
          cases hrun
          refine ⟨by rw [hcalls', hcalls, List.append_assoc], fun objects h => ?_⟩
          cases h
          exact List.map_map

/-- Up to the judgement, nothing that a case issues overwrites what it has written before. -/
theorem make_artifacts {made : Except Failure Unit} (hs : I s.toWorkspace)
    (hmake : c.make config samples invoker s = (made, t)) :
    ∃ issued, t.calls = s.calls ++ issued ∧ Artifacts c config samples issued := by
  rw [make, Action.bind_apply] at hmake
  cases hcompile : c.compileSources config invoker s with
  | mk compiled u =>
    obtain ⟨cpp, assembly, hobjects, hdistinct, hcalls, hall⟩ :=
      compileSources_requests hlist hinvoker hs hcompile
    rw [hcompile] at hmake
    cases compiled with
    | error e =>
      cases hmake
      refine ⟨_, hcalls, ?_⟩
      have hbuilt : Artifacts c config samples
          (c.requests config .cpp cpp ++ c.requests config .assembly assembly ++ []) :=
        artifacts_of_requests hobjects hdistinct List.nil_prefix
      rwa [List.append_nil] at hbuilt
    | ok objects =>
      obtain rfl := hall objects rfl
      obtain ⟨hcourse, -⟩ := @links_follow _ c config samples invoker (fun _ => True)
        (fun _ _ _ _ _ => trivial) ((cpp ++ assembly).map (·.objectPath c)) u trivial
      obtain ⟨linked, hlinked, hissued⟩ := hcourse.issued
      refine ⟨_, ?_, artifacts_of_requests hobjects hdistinct hissued.isPrefix⟩
      dsimp only at hmake
      rw [hmake] at hlinked
      rw [hlinked, hcalls, List.append_assoc]

/-- **The artifacts of a case.** Nothing that a case issues overwrites what it has written before, and each
invocation is told to write what it declares where it belongs. This holds however the case ends, unless a source
is called by nothing but its extension: its object would be the directory above. -/
theorem run_artifacts (hprepare : ((c.scratch config).forM renew : Action σ Failure Unit).Keeps I)
    {result : Except Failure Outcome} (hs : I s.toWorkspace)
    (hrun : c.run config samples invoker s = (result, t)) :
    ∃ issued, t.calls = s.calls ++ issued ∧ Artifacts c config samples issued := by
  cases hprepared : (c.scratch config).forM renew (s.report (.caseRunning c.name)) with
  | mk prepared u =>
    have hquiet := prepare_calls.calls_eq hprepared
    change u.calls = s.calls at hquiet
    rw [run_of_prepare hprepared] at hrun
    cases prepared with
    | error e =>
      cases hrun
      exact ⟨[], by rw [hquiet, List.append_nil], .nil c config samples⟩
    | ok _ =>
      have hu := hprepare.of_eq (s := s.report (.caseRunning c.name)) hs hprepared
      cases hmake : c.make config samples invoker u with
      | mk made v =>
        obtain ⟨issued, hcalls, hartifacts⟩ := make_artifacts hlist hinvoker hu hmake
        refine ⟨issued, ?_, hartifacts⟩
        rw [(calls_behind_make hrun).1, hmake, hcalls, hquiet]

end Run

end TestCase

end LinkBench
