import LinkBench.Proofs.FileSystem.Fit
import LinkBench.Tool.Toolchain

/-!
# The names of tools in diagnostics

A diagnostic should name the tool that does the work. An invocation carries nothing that would tell a
launcher from such a tool but the file name of its program, and the only file name that is known is
`wine`. `Toolchain.toolName_eq_iff` says for which toolchains this is enough: a launcher has to have
this name, and a program that nothing launches must not have it.
-/

namespace LinkBench

namespace Path

theorem mem_toList_intercalate {segments : List String} {segment : String} {c : Char}
    (hsegment : segment ∈ segments) (hc : c ∈ segment.toList) :
    c ∈ (String.intercalate "/" segments).toList := by
  induction segments with
  | nil => cases hsegment
  | cons first rest ih =>
    by_cases hrest : rest = []
    · subst hrest
      rw [List.mem_singleton.1 hsegment] at hc
      rwa [String.intercalate_singleton]
    · rw [String.intercalate_cons_of_ne_nil hrest, String.toList_append, String.toList_append]
      obtain rfl | hlater := List.mem_cons.1 hsegment
      · exact List.mem_append_left _ (List.mem_append_left _ hc)
      · exact List.mem_append_right _ (ih hlater)

theorem mem_segments_of_fileName? {p : Path} {name : String} (h : p.fileName? = some name) :
    name ∈ p.segments := by
  unfold fileName? at h
  split at h
  · cases h
  · rename_i last rest hdrop
    split at h
    · cases h
    · cases h
      have hlast : name ∈ p.segments.reverse.dropWhile isStill := hdrop ▸ List.mem_cons_self
      exact List.mem_reverse.1 ((List.dropWhile_suffix _).subset hlast)

/-- A path writes its file name out. -/
theorem mem_toList_text_of_fileName? {p : Path} {name : String} {c : Char}
    (h : p.fileName? = some name) (hc : c ∈ name.toList) : c ∈ p.text.toList :=
  mem_toList_intercalate (mem_segments_of_fileName? h) hc

end Path

namespace Invocation

variable {inv : Invocation} {first : String} {rest : List String}

theorem toolName_of_wine (hargs : inv.args = first :: rest)
    (hwine : inv.program.fileName? = some "wine") : inv.toolName = first := by
  rw [toolName, hargs]
  exact if_pos hwine

theorem toolName_of_not_wine (hwine : inv.program.fileName? ≠ some "wine") :
    inv.toolName = inv.program.text := by
  unfold toolName
  split
  · exact if_neg hwine
  · rfl

/-- A program that is called with a flag is named unless its name is `wine`: the flag is named then,
and no flag reads like a path to a file of this name. -/
theorem toolName_eq_program_iff (hargs : inv.args = first :: rest) (hfirst : 'w' ∉ first.toList) :
    inv.toolName = inv.program.text ↔ inv.program.fileName? ≠ some "wine" := by
  refine ⟨fun hname hwine => hfirst ?_, toolName_of_not_wine⟩
  rw [toolName_of_wine hargs hwine] at hname
  rw [hname]
  exact Path.mem_toList_text_of_fileName? hwine (by decide)

/-- A program that is called with the tool to be launched passes on the name of that tool if its own
name is `wine`, and otherwise only if both are written alike. -/
theorem toolName_eq_first_iff (hargs : inv.args = first :: rest) :
    inv.toolName = first ↔ inv.program.fileName? = some "wine" ∨ inv.program.text = first := by
  by_cases hwine : inv.program.fileName? = some "wine"
  · exact iff_of_true (toolName_of_wine hargs hwine) (.inl hwine)
  · rw [toolName_of_not_wine hwine]
    exact ⟨.inr, fun h => h.resolve_left hwine⟩

end Invocation

namespace Toolchain

variable {t : Toolchain}

/-- Whether a tool is told from what launches it by the name of the program alone. -/
def Recognizes (t : Toolchain) (tool : Path) : Prop :=
  match t.wrapper with
  | none => tool.fileName? ≠ some "wine"
  | some wrapper => wrapper.fileName? = some "wine" ∨ wrapper.text = tool.text

theorem toolName_compileWith_iff (tool : Path) {flag : String} {flags : List String}
    (hflag : 'w' ∉ flag.toList) (source object : Path) :
    (t.compileWith tool (flag :: flags) source object).toolName = tool.text ↔ t.Recognizes tool := by
  cases hwrapper : t.wrapper with
  | none =>
    have hprogram : (t.compileWith tool (flag :: flags) source object).program = tool := by
      simp only [compileWith, hwrapper, Option.getD_none]
    have hargs : (t.compileWith tool (flag :: flags) source object).args =
        flag :: (flags ++ ["-c", "-o", object.text, source.text]) := by
      simp only [compileWith, hwrapper, List.cons_append]
    have hname := Invocation.toolName_eq_program_iff hargs hflag
    rw [hprogram] at hname
    simpa only [Recognizes, hwrapper] using hname
  | some wrapper =>
    have hprogram : (t.compileWith tool (flag :: flags) source object).program = wrapper := by
      simp only [compileWith, hwrapper, Option.getD_some]
    have hargs : (t.compileWith tool (flag :: flags) source object).args =
        tool.text :: (flag :: flags ++ ["-c", "-o", object.text, source.text]) := by
      simp only [compileWith, hwrapper]
    have hname := Invocation.toolName_eq_first_iff hargs
    rw [hprogram] at hname
    simpa only [Recognizes, hwrapper] using hname

theorem toolName_link_iff {flag : String} (flags : List String) (hflag : 'w' ∉ flag.toList)
    (objects outputs : List Path) :
    (t.link (flag :: flags) objects outputs).toolName = t.linker.text ↔
      t.linker.fileName? ≠ some "wine" := by
  have hargs : (t.link (flag :: flags) objects outputs).args = flag :: (flags ++ objects.map (·.text)) := rfl
  exact Invocation.toolName_eq_program_iff hargs hflag

/-- **An invocation names the tool that does the work exactly as far as the name of its program
tells.** For the compiler and the assembler, a wrapper has to go by the name `wine` or be written like
the tool itself, and without a wrapper the tool must not go by that name; nor may the linker. -/
theorem toolName_eq_iff (t : Toolchain) :
    (∀ source object,
      ((t.compile source object).toolName = t.compiler.text ↔ t.Recognizes t.compiler) ∧
      ((t.assemble source object).toolName = t.assembler.text ↔ t.Recognizes t.assembler)) ∧
    (∀ objects base externals samples outDir,
      ∀ inv ∈ t.staticLinks objects base externals samples outDir,
        inv.toolName = t.linker.text ↔ t.linker.fileName? ≠ some "wine") ∧
    (∀ objects externals versions outDir,
      (t.dynamicLink objects externals versions outDir).toolName = t.linker.text ↔
        t.linker.fileName? ≠ some "wine") := by
  have hinclude : 'w' ∉ "-I-".toList := by decide
  have hquiet : 'w' ∉ "-q".toList := by decide
  refine ⟨fun source object => ⟨?_, ?_⟩, ?_, ?_⟩
  · exact toolName_compileWith_iff t.compiler hinclude source object
  · exact toolName_compileWith_iff t.assembler hinclude source object
  · intro objects base externals samples outDir inv hinv
    rw [staticLinks, List.mem_cons, List.mem_singleton] at hinv
    obtain rfl | rfl := hinv
    · exact toolName_link_iff _ hquiet objects _
    · exact toolName_link_iff _ hquiet objects _
  · intro objects externals versions outDir
    exact toolName_link_iff _ hquiet objects _

/-- **A launcher under another name is named in place of the compiler.** -/
theorem toolName_of_other_wrapper :
    let t := ofDirectories (.ofString ".") (.ofString "../cw") (.ofString "../k_stdlib")
      (.ofString "../Kamek") (some (.ofString "/usr/bin/wine64"))
    (t.compile (.ofString "c/a.cpp") (.ofString "c/_bin/a.o")).toolName = "/usr/bin/wine64" ∧
      t.compiler.text = "../cw/mwcceppc.exe" := by
  decide +kernel

end Toolchain

end LinkBench
