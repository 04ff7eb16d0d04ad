import LinkBench.Proofs.Course
import LinkBench.Proofs.FileSystem.Walk

/-!
# Tools are judged by what they leave

How a tool has ended is only told, never judged: an invocation that came to its end succeeds or fails by
the files that stand at the paths of its outputs then. `runTool_judges_files` says when, and which output
is complained of; two tools that leave the same files are judged alike.
-/

namespace LinkBench

/-- The path leads to a regular file. -/
def FileSystem.LeadsToFile (fs : FileSystem) (cwd : Place) (path : Path) : Prop :=
  ∃ l bytes executable, fs.resolve cwd path = .ok (.ofLocation l) ∧
    fs.get? l = some (.file bytes executable)

/-- The output is a regular file, seen from the directory that the tool runs in. -/
def Workspace.Holds (w : Workspace) (inv : Invocation) (output : Path) : Prop :=
  w.files.LeadsToFile w.cwd (inv.currentDir.join output)

/-- The first of some outputs that is no regular file. -/
def Workspace.FirstMissing (w : Workspace) (inv : Invocation) (outputs : List Path) (output : Path) : Prop :=
  ∃ before after, outputs = before ++ output :: after ∧ (∀ earlier ∈ before, w.Holds inv earlier) ∧
    ¬w.Holds inv output

namespace FileSystem

variable {fs : FileSystem} {cwd : Place} {path : Path} {p : Place} {e : Entry}

theorem stat_eq_ok_iff : fs.stat cwd path = .ok e ↔
    ∃ p, fs.resolve cwd path = .ok p ∧ fs.entryAt? p = some e := by
  rw [stat, bind_eq_ok_iff]
  refine exists_congr fun p => and_congr_right fun _ => ?_
  cases fs.entryAt? p <;> simp

/-- A directory that has been removed stays a directory, so a file is always in the tree. -/
theorem entryAt?_eq_file_iff {bytes : Bytes} {executable : Bool} :
    fs.entryAt? p = some (.file bytes executable) ↔
      ∃ l, p = .ofLocation l ∧ fs.get? l = some (.file bytes executable) := by
  constructor
  · intro h
    obtain ⟨base, lost⟩ := p
    cases lost with
    | nil => exact ⟨base, rfl, h⟩
    | cons name lost => cases h
  · rintro ⟨l, rfl, h⟩
    rwa [entryAt?_ofLocation]

theorem isFile_eq_true_iff : fs.isFile cwd path = true ↔ fs.LeadsToFile cwd path := by
  constructor
  · intro h
    unfold isFile at h
    split at h
    · rename_i e hstat
      obtain ⟨p, hresolve, hentry⟩ := stat_eq_ok_iff.1 hstat
      cases e with
      | file bytes executable =>
        obtain ⟨l, rfl, hfile⟩ := entryAt?_eq_file_iff.1 hentry
        exact ⟨l, bytes, executable, hresolve, hfile⟩
      | directory | device => cases h
    · cases h
  · rintro ⟨l, bytes, executable, hresolve, hfile⟩
    rw [isFile, stat_eq_ok_iff.2 ⟨_, hresolve, entryAt?_eq_file_iff.2 ⟨l, rfl, hfile⟩⟩]
    rfl

end FileSystem

section

variable {σ : Type} {w : Workspace} {inv : Invocation} {first output : Path} {rest outputs : List Path}

theorem Workspace.isFile_eq_true_iff :
    w.files.isFile w.cwd (inv.outputPath output) = true ↔ w.Holds inv output :=
  FileSystem.isFile_eq_true_iff

theorem Workspace.not_firstMissing_nil : ¬w.FirstMissing inv [] output := by
  rintro ⟨before, after, h, -⟩
  exact List.cons_ne_nil _ _ (List.append_eq_nil_iff.1 h.symm).2

theorem Workspace.firstMissing_cons_iff : w.FirstMissing inv (first :: rest) output ↔
    (¬w.Holds inv first ∧ output = first) ∨ (w.Holds inv first ∧ w.FirstMissing inv rest output) := by
  constructor
  · rintro ⟨before, after, hsplit, hbefore, hmissing⟩
    cases before with
    | nil =>
      cases hsplit
      exact .inl ⟨hmissing, rfl⟩
    | cons earlier before =>
      cases hsplit
      obtain ⟨hfirst, hbefore⟩ := List.forall_mem_cons.1 hbefore
      exact .inr ⟨hfirst, before, after, rfl, hbefore, hmissing⟩
  · rintro (⟨hmissing, rfl⟩ | ⟨hfirst, before, after, rfl, hbefore, hmissing⟩)
    · exact ⟨[], rest, rfl, nofun, hmissing⟩
    · exact ⟨first :: before, after, rfl, List.forall_mem_cons.2 ⟨hfirst, hbefore⟩, hmissing⟩

namespace Action

/-- The outputs are gone through up to the first one that is required and missing. -/
theorem checkOutputs_eq_error_iff (inv : Invocation) (completion : Completion) (outputs : List Path)
    (s : Session σ) (e : ToolError) : (outputs.forM (checkOutput inv completion) s).1 = .error e ↔
      inv.requireOutputs = true ∧ ∃ output, s.toWorkspace.FirstMissing inv outputs output ∧
        e = .missingOutput inv.toolName output completion := by
  induction outputs generalizing s with
  | nil =>
    refine iff_of_false nofun ?_
    rintro ⟨-, output, hmissing, -⟩
    exact Workspace.not_firstMissing_nil hmissing
  | cons first rest ih =>
    change ((checkOutput inv completion first >>= fun _ =>
      rest.forM (checkOutput inv completion)) s).1 = .error e ↔ _
    rw [bind_apply, checkOutput_apply]
    by_cases hholds : s.toWorkspace.Holds inv first
    · rw [if_pos (Workspace.isFile_eq_true_iff.2 hholds), ih s]
      simp only [Workspace.firstMissing_cons_iff, hholds, not_true_eq_false, false_and, true_and,
        false_or]
    · rw [if_neg (mt Workspace.isFile_eq_true_iff.1 hholds)]
      by_cases hrequire : inv.requireOutputs = true
      · rw [if_pos hrequire]
        simp only [Workspace.firstMissing_cons_iff, hholds, hrequire, not_false_eq_true, true_and,
          false_and, or_false, exists_eq_left]
        exact ⟨fun h => (Except.error.inj h).symm, fun h => congrArg Except.error h.symm⟩
      · rw [if_neg hrequire]
        refine (ih _).trans (iff_of_false ?_ ?_) <;> exact fun h => hrequire h.1

theorem runTool_of_error {invoker : Invoker σ} {s : Session σ} {e : ToolError}
    (h : (invoker inv s.toWorkspace s.tools).result = .error e) :
    (runTool invoker inv s).1 = .error e := by
  have hinvoke : invoke invoker inv s = (.error e, (invoke invoker inv s).2) :=
    congrArg (fun result => (result, (invoke invoker inv s).2)) h
  rw [runTool, bind_of_error hinvoke]

/-- Whatever the completion of the tool, its outputs are what counts. -/
theorem runTool_of_completion {invoker : Invoker σ} {s : Session σ} {completion : Completion}
    (h : (invoker inv s.toWorkspace s.tools).result = .ok completion) :
    (runTool invoker inv s).1 =
      (inv.outputs.forM (checkOutput inv completion) (invoke invoker inv s).2).1 := by
  have hinvoke : invoke invoker inv s = (.ok completion, (invoke invoker inv s).2) :=
    congrArg (fun result => (result, (invoke invoker inv s).2)) h
  rw [runTool, bind_of_ok hinvoke]

theorem runTool_eq_ok_iff {invoker : Invoker σ} {s : Session σ} {completion : Completion}
    (h : (invoker inv s.toWorkspace s.tools).result = .ok completion) :
    (runTool invoker inv s).1 = .ok () ↔ inv.requireOutputs = false ∨
      ∀ output ∈ inv.outputs, (invoker inv s.toWorkspace s.tools).workspace.Holds inv output := by
  rw [runTool_of_completion h, checkOutputs_eq_ok_iff]
  simp only [← Workspace.isFile_eq_true_iff]
  cases inv.requireOutputs
  · exact iff_of_true nofun (.inl rfl)
  · exact ⟨fun h => .inr (h rfl), fun h _ => h.resolve_left nofun⟩

theorem runTool_eq_error_iff {invoker : Invoker σ} {s : Session σ} {completion : Completion}
    (h : (invoker inv s.toWorkspace s.tools).result = .ok completion) (e : ToolError) :
    (runTool invoker inv s).1 = .error e ↔ inv.requireOutputs = true ∧
      ∃ output, (invoker inv s.toWorkspace s.tools).workspace.FirstMissing inv inv.outputs output ∧
        e = .missingOutput inv.toolName output completion := by
  rw [runTool_of_completion h]
  exact checkOutputs_eq_error_iff inv completion inv.outputs _ e

/-- **A tool is judged by the files it leaves.** Its own error is the error. Otherwise, in the files as it
left them, the invocation succeeds exactly if its outputs are not required or all are regular files, and
else complains of the first that is none. Nothing of this depends on how the tool has ended, so two tools
that leave the same files are judged alike. -/
theorem runTool_judges_files (invoker : Invoker σ) (inv : Invocation) (s : Session σ) :
    let reply := invoker inv s.toWorkspace s.tools
    let judged := runTool invoker inv s
    judged.2.toWorkspace = reply.workspace ∧
    (∀ e, reply.result = .error e → judged.1 = .error e) ∧
    (∀ completion, reply.result = .ok completion →
      (judged.1 = .ok () ↔ inv.requireOutputs = false ∨
        ∀ output ∈ inv.outputs, reply.workspace.Holds inv output) ∧
      ∀ e, judged.1 = .error e ↔ inv.requireOutputs = true ∧
        ∃ output, reply.workspace.FirstMissing inv inv.outputs output ∧
          e = .missingOutput inv.toolName output completion) ∧
    ∀ (τ : Type) (invoker' : Invoker τ) (s' : Session τ),
      let reply' := invoker' inv s'.toWorkspace s'.tools
      let judged' := runTool invoker' inv s'
      reply'.workspace.files = reply.workspace.files → reply'.workspace.cwd = reply.workspace.cwd →
      ∀ completion completion', reply.result = .ok completion → reply'.result = .ok completion' →
        (judged'.1 = .ok () ↔ judged.1 = .ok ()) ∧
        ∀ output, judged'.1 = .error (.missingOutput inv.toolName output completion') ↔
          judged.1 = .error (.missingOutput inv.toolName output completion) := by
  intro reply judged
  refine ⟨(runTool_spec invoker inv s).1, fun e => runTool_of_error, fun completion h =>
    ⟨runTool_eq_ok_iff h, runTool_eq_error_iff h⟩, ?_⟩
  intro τ invoker' s' reply' judged' hfiles hcwd completion completion' h h'
  have hholds : ∀ output, reply'.workspace.Holds inv output ↔ reply.workspace.Holds inv output := by
    intro output
    rw [Workspace.Holds, hfiles, hcwd, Workspace.Holds]
  have hmissing : ∀ output, reply'.workspace.FirstMissing inv inv.outputs output ↔
      reply.workspace.FirstMissing inv inv.outputs output := by
    intro output
    simp only [Workspace.FirstMissing, hholds]
  refine ⟨(runTool_eq_ok_iff h').trans (.trans ?_ (runTool_eq_ok_iff h).symm), fun output =>
    (runTool_eq_error_iff h' _).trans (.trans ?_ (runTool_eq_error_iff h _).symm)⟩
  · exact or_congr_right (forall₂_congr fun output _ => hholds output)
  · refine and_congr_right fun _ => exists_congr fun candidate => and_congr (hmissing candidate) ?_
    constructor <;> intro heq <;> cases heq <;> rfl

/-- The second output is a directory. The first tool ends with an exit code of zero, the second one by a
signal. -/
theorem runTool_judges_directory_as_missing :
    let bin : FileName := ⟨"_bin", by decide⟩
    let files := ((FileSystem.empty.put [bin] .directory).put [bin, ⟨"a.o", by decide⟩]
      (.file [] false)).put [bin, ⟨"b.o", by decide⟩] .directory
    let tool (completion : Completion) : Invoker Unit := fun _ _ _ =>
      { result := .ok completion, workspace := ⟨files, .root⟩, tools := (), events := [] }
    let inv : Invocation := {
      program := .ofString "../cw/mwcceppc.exe"
      args := []
      currentDir := .ofString "_bin"
      outputs := [.ofString "a.o", .ofString "../_bin/b.o", .ofString "c.o"]
      requireOutputs := true }
    let s : Session Unit := .start ⟨.empty, .root⟩ ()
    let complaint completion :=
      ToolError.missingOutput "../cw/mwcceppc.exe" (.ofString "../_bin/b.o") completion
    (runTool (tool ⟨some 0⟩) inv s).1 = .error (complaint ⟨some 0⟩) ∧
    (runTool (tool ⟨none⟩) inv s).1 = .error (complaint ⟨none⟩) ∧
    (runTool (tool ⟨none⟩) { inv with requireOutputs := false } s).1 = .ok () := by
  intro bin files tool inv s complaint
  let w : Workspace := ⟨files, .root⟩
  have hfirst : w.Holds inv (.ofString "a.o") := Workspace.isFile_eq_true_iff.1 (by decide +kernel)
  have hsecond : ¬w.Holds inv (.ofString "../_bin/b.o") :=
    mt Workspace.isFile_eq_true_iff.2 (by decide +kernel)
  have hmissing : w.FirstMissing inv inv.outputs (.ofString "../_bin/b.o") :=
    ⟨[.ofString "a.o"], [.ofString "c.o"], rfl, List.forall_mem_singleton.2 hfirst, hsecond⟩
  obtain ⟨-, -, hjudged, htwo⟩ := runTool_judges_files (tool ⟨some 0⟩) inv s
  have hcomplaint : (runTool (tool ⟨some 0⟩) inv s).1 = .error (complaint ⟨some 0⟩) :=
    ((hjudged ⟨some 0⟩ rfl).2 _).2 ⟨rfl, _, hmissing, by decide +kernel⟩
  obtain ⟨-, -, hoptional, -⟩ :=
    runTool_judges_files (tool ⟨none⟩) { inv with requireOutputs := false } s
  refine ⟨hcomplaint, ?_, (hoptional ⟨none⟩ rfl).1.2 (.inl rfl)⟩
  have hsame := (htwo Unit (tool ⟨none⟩) s rfl rfl ⟨some 0⟩ ⟨none⟩ rfl rfl).2 (.ofString "../_bin/b.o")
  rw [show inv.toolName = "../cw/mwcceppc.exe" by decide +kernel] at hsame
  exact hsame.2 hcomplaint

end Action

end

end LinkBench
