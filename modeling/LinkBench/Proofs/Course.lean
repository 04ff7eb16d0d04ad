import LinkBench.Proofs.Session

/-!
# The course of a plan

A plan is a list of invocations that an action means to issue one after the other. `Course` says how far it
can come: to the end, up to some point where something other than a tool has failed, or up to an invocation
that fails. `Follows` is the property of an action that its runs are courses of a plan, with an invariant of
the workspace on the way, and is put together along the action like the others.
-/

namespace LinkBench

variable {σ ε ε' α β : Type} {invoker : Invoker σ} {inv : Invocation} {plan plan' before after : List Invocation}
  {w w' w'' : Workspace} {tools tools' tools'' : σ} {s t u : Session σ}

/-! ### Invocations that pass -/

/-- The tool comes to its end, and the outputs that it has to leave are regular files then. -/
def Passes (invoker : Invoker σ) (inv : Invocation) (w : Workspace) (tools : σ) : Prop :=
  (∃ completion, (invoker inv w tools).result = .ok completion) ∧
    (inv.requireOutputs = true → ∀ output ∈ inv.outputs,
      (invoker inv w tools).workspace.files.isFile (invoker inv w tools).workspace.cwd
        (inv.outputPath output) = true)

/-- Invocations that pass one after the other, each on what the one before has left. -/
inductive Passed (invoker : Invoker σ) : List Invocation → Workspace → σ → Workspace → σ → Prop
  | nil (w : Workspace) (tools : σ) : Passed invoker [] w tools w tools
  | cons {inv : Invocation} {rest : List Invocation} {w w' : Workspace} {tools tools' : σ}
      (first : Passes invoker inv w tools)
      (others : Passed invoker rest (invoker inv w tools).workspace (invoker inv w tools).tools w' tools') :
      Passed invoker (inv :: rest) w tools w' tools'

theorem Passed.append (h : Passed invoker plan w tools w' tools')
    (h' : Passed invoker plan' w' tools' w'' tools'') :
    Passed invoker (plan ++ plan') w tools w'' tools'' := by
  induction h with
  | nil w tools => exact h'
  | cons first others ih => exact .cons first (ih h')

theorem Passed.split (h : Passed invoker (plan ++ plan') w tools w'' tools'') :
    ∃ w' tools', Passed invoker plan w tools w' tools' ∧ Passed invoker plan' w' tools' w'' tools'' := by
  induction plan generalizing w tools with
  | nil => exact ⟨w, tools, .nil w tools, h⟩
  | cons inv rest ih =>
    cases h with
    | cons first others =>
      obtain ⟨w', tools', hrest, hothers⟩ := ih others
      exact ⟨w', tools', .cons first hrest, hothers⟩

theorem Passed.passes
    (h : Passed invoker (before ++ inv :: after) w tools w'' tools'') :
    ∃ w' tools', Passed invoker before w tools w' tools' ∧ Passes invoker inv w' tools' := by
  obtain ⟨w', tools', hbefore, hrest⟩ := h.split
  cases hrest with
  | cons first others => exact ⟨w', tools', hbefore, first⟩

theorem Passed.unique (h : Passed invoker plan w tools w' tools')
    (h' : Passed invoker plan w tools w'' tools'') : w' = w'' ∧ tools' = tools'' := by
  induction h with
  | nil w tools =>
    cases h'
    exact ⟨rfl, rfl⟩
  | cons first others ih =>
    cases h' with
    | cons first' others' => exact ih others'

theorem Passed.passes_next (h : Passed invoker (before ++ inv :: after) w tools w'' tools'')
    (h' : Passed invoker before w tools w' tools') : Passes invoker inv w' tools' := by
  obtain ⟨x, y, hbefore, hpasses⟩ := h.passes
  obtain ⟨rfl, rfl⟩ := hbefore.unique h'
  exact hpasses

/-- What no invocation of a plan destroys is still true when all have passed. -/
theorem Passed.keeps {I : Workspace → Prop} (h : Passed invoker plan w tools w' tools')
    (hstep : ∀ inv ∈ plan, ∀ w tools, I w → I (invoker inv w tools).workspace) (hI : I w) : I w' := by
  induction h with
  | nil w tools => exact hI
  | cons first others ih =>
    obtain ⟨hfirst, hrest⟩ := List.forall_mem_cons.1 hstep
    exact ih hrest (hfirst _ _ hI)

/-! ### Courses -/

/-- How a run that follows a plan can end. -/
inductive Course (invoker : Invoker σ) (plan : List Invocation) (s : Session σ) :
    Except ε α → Session σ → Prop
  | done (a : α) (t : Session σ) (hcalls : t.calls = s.calls ++ plan)
      (hpassed : Passed invoker plan s.toWorkspace s.tools t.toWorkspace t.tools) :
      Course invoker plan s (.ok a) t
  /-- Something other than a tool has failed. -/
  | stopped (e : ε) (t : Session σ) (passed rest : List Invocation) (w : Workspace) (tools : σ)
      (hplan : plan = passed ++ rest) (hcalls : t.calls = s.calls ++ passed)
      (hpassed : Passed invoker passed s.toWorkspace s.tools w tools) :
      Course invoker plan s (.error e) t
  | failed (e : ε) (t : Session σ) (passed rest : List Invocation) (inv : Invocation) (w : Workspace)
      (tools : σ) (hplan : plan = passed ++ inv :: rest) (hcalls : t.calls = s.calls ++ (passed ++ [inv]))
      (hpassed : Passed invoker passed s.toWorkspace s.tools w tools)
      (hfails : ¬Passes invoker inv w tools) : Course invoker plan s (.error e) t

theorem Course.mapError {e : ε} (h : Course invoker plan s (.error e : Except ε α) t) (e' : ε') :
    Course invoker plan s (.error e' : Except ε' β) t := by
  cases h with
  | stopped _ _ passed rest w tools hplan hcalls hpassed =>
    exact .stopped _ _ passed rest w tools hplan hcalls hpassed
  | failed _ _ passed rest inv w tools hplan hcalls hpassed hfails =>
    exact .failed _ _ passed rest inv w tools hplan hcalls hpassed hfails

theorem Course.extend {e : ε} (h : Course invoker plan s (.error e : Except ε α) t)
    (others : List Invocation) : Course invoker (plan ++ others) s (.error e : Except ε α) t := by
  cases h with
  | stopped _ _ passed rest w tools hplan hcalls hpassed =>
    refine .stopped _ _ passed (rest ++ others) w tools ?_ hcalls hpassed
    rw [hplan, List.append_assoc]
  | failed _ _ passed rest inv w tools hplan hcalls hpassed hfails =>
    refine .failed _ _ passed (rest ++ others) inv w tools ?_ hcalls hpassed hfails
    rw [hplan, List.append_assoc, List.cons_append]

theorem Course.trans {a : α} {result : Except ε' β}
    (h : Course invoker plan s (.ok a : Except ε α) t) (h' : Course invoker plan' t result u) :
    Course invoker (plan ++ plan') s result u := by
  cases h with
  | done _ _ hcalls hpassed =>
    cases h' with
    | done b u hcalls' hpassed' =>
      refine .done b u ?_ (hpassed.append hpassed')
      rw [hcalls', hcalls, List.append_assoc]
    | stopped e u passed rest w tools hplan hcalls' hpassed' =>
      refine .stopped e u (plan ++ passed) rest w tools ?_ ?_ (hpassed.append hpassed')
      · rw [hplan, List.append_assoc]
      · rw [hcalls', hcalls, List.append_assoc]
    | failed e u passed rest inv w tools hplan hcalls' hpassed' hfails =>
      refine .failed e u (plan ++ passed) rest inv w tools ?_ ?_ (hpassed.append hpassed') hfails
      · rw [hplan, List.append_assoc]
      · rw [hcalls', hcalls, List.append_assoc, List.append_assoc]

/-- What has been issued of a plan: all of it where the run succeeds, and nothing behind an invocation that
does not pass. -/
structure Issued (invoker : Invoker σ) (plan : List Invocation) (s : Session σ) (result : Except ε α)
    (issued : List Invocation) : Prop where
  isPrefix : issued <+: plan
  all : ∀ a, result = .ok a → issued = plan
  passes : ∀ before inv after, issued = before ++ inv :: after → ∃ w tools,
    Passed invoker before s.toWorkspace s.tools w tools ∧
      (after ≠ [] ∨ (∃ a, result = .ok a) → Passes invoker inv w tools)

theorem Course.issued {result : Except ε α} (h : Course invoker plan s result t) :
    ∃ issued, t.calls = s.calls ++ issued ∧ Issued invoker plan s result issued := by
  cases h with
  | done a t hcalls hpassed =>
    refine ⟨plan, hcalls, List.prefix_refl _, fun _ _ => rfl, fun before inv after heq => ?_⟩
    obtain ⟨w, tools, hbefore, hpasses⟩ := (heq ▸ hpassed).passes
    exact ⟨w, tools, hbefore, fun _ => hpasses⟩
  | stopped e t passed rest w tools hplan hcalls hpassed =>
    refine ⟨passed, hcalls, ⟨rest, hplan.symm⟩, nofun, fun before inv after heq => ?_⟩
    obtain ⟨w, tools, hbefore, hpasses⟩ := (heq ▸ hpassed).passes
    exact ⟨w, tools, hbefore, fun _ => hpasses⟩
  | failed e t passed rest last w tools hplan hcalls hpassed hfails =>
    refine ⟨passed ++ [last], hcalls, ⟨rest, by rw [hplan, List.append_assoc]; rfl⟩, nofun,
      fun before inv after heq => ?_⟩
    by_cases hafter : after = []
    · rw [hafter] at heq
      obtain ⟨rfl, -⟩ := List.append_inj' heq rfl
      exact ⟨w, tools, hpassed, fun hmore => hmore.elim (fun hne => absurd hafter hne) nofun⟩
    · -- All but the last have passed.
      obtain ⟨others, final, rfl⟩ : ∃ others final, after = others ++ [final] :=
        ⟨after.dropLast, after.getLast hafter, (List.dropLast_concat_getLast hafter).symm⟩
      rw [← List.cons_append, ← List.append_assoc] at heq
      obtain ⟨rfl, -⟩ := List.append_inj' heq rfl
      obtain ⟨w', tools', hbefore, hpasses⟩ := hpassed.passes
      exact ⟨w', tools', hbefore, fun _ => hpasses⟩

section Issued

variable {result : Except ε α} {issued : List Invocation}

/-- What has been issued does not depend on how the run goes on, as long as it succeeds only where it has. -/
theorem Issued.of_result {result' : Except ε' β} (h : Issued invoker plan s result issued)
    (hok : ∀ b, result' = .ok b → ∃ a, result = .ok a) : Issued invoker plan s result' issued where
  isPrefix := h.isPrefix
  all b hb := by
    obtain ⟨a, ha⟩ := hok b hb
    exact h.all a ha
  passes before inv after heq := by
    obtain ⟨w, tools, hbefore, hpasses⟩ := h.passes before inv after heq
    refine ⟨w, tools, hbefore, fun hmore => hpasses (hmore.imp_right ?_)⟩
    rintro ⟨b, hb⟩
    exact hok b hb

/-- A run that fails may have had more in mind. -/
theorem Issued.extend (h : Issued invoker plan s result issued) (hfails : ∀ a, result ≠ .ok a)
    (others : List Invocation) : Issued invoker (plan ++ others) s result issued where
  isPrefix := h.isPrefix.trans (List.prefix_append plan others)
  all a ha := absurd ha (hfails a)
  passes := h.passes

/-- What belongs to the second part of a plan is not issued before the first part has passed. -/
theorem Issued.passed_first (h : Issued invoker (plan ++ plan') s result issued) (hmem : inv ∈ issued)
    (hlater : inv ∉ plan) : ∃ w tools, Passed invoker plan s.toWorkspace s.tools w tools := by
  obtain ⟨before, after, rfl⟩ := List.append_of_mem hmem
  obtain ⟨w, tools, hbefore, -⟩ := h.passes before inv after rfl
  have hwhole : before <+: plan ++ plan' := (List.prefix_append before (inv :: after)).trans h.isPrefix
  have hfirst : plan <+: before := by
    refine List.prefix_of_prefix_length_le (List.prefix_append plan plan') hwhole ?_
    refine Nat.le_of_not_lt fun hshort => hlater ?_
    have hnext : before ++ [inv] <+: plan := by
      refine List.prefix_of_prefix_length_le ?_ (List.prefix_append plan plan') ?_
      · exact List.IsPrefix.trans ⟨after, by simp⟩ h.isPrefix
      · rw [List.length_append, List.length_singleton]
        exact hshort
    exact hnext.subset (by simp)
  obtain ⟨rest, rfl⟩ := hfirst
  obtain ⟨w', tools', hplan, -⟩ := hbefore.split
  exact ⟨w', tools', hplan⟩

end Issued

namespace Action

variable {I : Workspace → Prop} {Q : α → Prop} {Q' : β → Prop} {x : Action σ ε α}
  {f : α → Action σ ε β} {g : ε → ε'}

/-- Where the invariant holds, a run of the action is a course of the plan. If it succeeds, its result has
the property and the invariant holds again. -/
def Follows (invoker : Invoker σ) (I : Workspace → Prop) (plan : List Invocation) (Q : α → Prop)
    (x : Action σ ε α) : Prop :=
  ∀ s : Session σ, I s.toWorkspace → Course invoker plan s (x s).1 (x s).2 ∧
    ∀ a, (x s).1 = .ok a → Q a ∧ I (x s).2.toWorkspace

theorem Follows.imp {P : α → Prop} (hx : x.Follows invoker I plan P) (h : ∀ a, P a → Q a) :
    x.Follows invoker I plan Q := by
  intro s hs
  obtain ⟨hcourse, hnext⟩ := hx s hs
  exact ⟨hcourse, fun a ha => ⟨h a (hnext a ha).1, (hnext a ha).2⟩⟩

theorem Follows.pure {a : α} (ha : Q a) :
    (Pure.pure a : Action σ ε α).Follows invoker I [] Q := by
  intro s hs
  refine ⟨.done a s (List.append_nil _).symm (.nil _ _), fun b hb => ?_⟩
  cases hb
  exact ⟨ha, hs⟩

theorem Follows.fail (e : ε) : (Action.fail e : Action σ ε α).Follows invoker I plan Q := by
  intro s _
  exact ⟨.stopped e s [] plan _ _ rfl (List.append_nil _).symm (.nil _ _), nofun⟩

theorem Follows.report (event : Event) :
    (Action.report event : Action σ ε Unit).Follows invoker I [] (fun _ => True) := fun _ hs =>
  ⟨.done () _ (List.append_nil _).symm (.nil _ _), fun _ _ => ⟨trivial, hs⟩⟩

theorem Follows.reading {f : FileSystem → Place → Except IoError α}
    (h : ∀ w a, I w → f w.files w.cwd = .ok a → Q a) :
    (Action.reading f : Action σ IoError α).Follows invoker I [] Q := fun s hs => by
  refine ⟨?_, fun a ha => ⟨h _ a hs ha, hs⟩⟩
  change Course invoker [] s (f s.files s.cwd) s
  cases f s.files s.cwd with
  | ok a => exact .done a s (List.append_nil _).symm (.nil _ _)
  | error e => exact .stopped e s [] [] _ _ rfl (List.append_nil _).symm (.nil _ _)

theorem Follows.bind (hx : x.Follows invoker I plan Q)
    (hf : ∀ a, Q a → (f a).Follows invoker I plan' Q') :
    (x >>= f).Follows invoker I (plan ++ plan') Q' := by
  intro s hs
  obtain ⟨hcourse, hnext⟩ := hx s hs
  rw [bind_apply]
  generalize x s = run at hcourse hnext
  obtain ⟨result, t⟩ := run
  cases result with
  | error e => exact ⟨(hcourse.mapError e).extend plan', nofun⟩
  | ok a =>
    obtain ⟨ha, ht⟩ := hnext a rfl
    obtain ⟨hcourse', hnext'⟩ := hf a ha t ht
    exact ⟨hcourse.trans hcourse', hnext'⟩

theorem Follows.mapError (hx : x.Follows invoker I plan Q) (g : ε → ε') :
    (x.mapError g).Follows invoker I plan Q := by
  intro s hs
  obtain ⟨hcourse, hnext⟩ := hx s hs
  unfold Action.mapError
  generalize x s = run at hcourse hnext
  obtain ⟨result, t⟩ := run
  cases result with
  | error e => exact ⟨hcourse.mapError (g e), nofun⟩
  | ok a =>
    refine ⟨?_, fun b hb => ?_⟩
    · cases hcourse with
      | done _ _ hcalls hpassed => exact .done a t hcalls hpassed
    · cases hb
      exact hnext a rfl

theorem checkOutput_apply (inv : Invocation) (completion : Completion) (output : Path) (s : Session σ) :
    checkOutput inv completion output s =
      if s.files.isFile s.cwd (inv.outputPath output) then (.ok (), s)
      else if inv.requireOutputs then (.error (.missingOutput inv.toolName output completion), s)
      else (.ok (), s.report (.outputNotWritten inv.toolName output completion)) := by
  have hask : (Action.ask fun files cwd => files.isFile cwd (inv.outputPath output) :
      Action σ ToolError Bool) s = (.ok (s.files.isFile s.cwd (inv.outputPath output)), s) := rfl
  rw [checkOutput, bind_of_ok hask]
  split
  · rfl
  · split <;> rfl

/-- Checking outputs is only reported. -/
theorem checkOutputs_same (inv : Invocation) (completion : Completion) (outputs : List Path)
    (s : Session σ) : ∃ events, (outputs.forM (checkOutput inv completion) s).2 = { s with events } := by
  induction outputs generalizing s with
  | nil => exact ⟨s.events, rfl⟩
  | cons output rest ih =>
    change ∃ events, ((checkOutput inv completion output >>= fun _ =>
      rest.forM (checkOutput inv completion)) s).2 = { s with events }
    rw [bind_apply, checkOutput_apply]
    by_cases hfile : s.files.isFile s.cwd (inv.outputPath output) = true
    · rw [if_pos hfile]
      exact ih s
    · rw [if_neg hfile]
      by_cases hrequire : inv.requireOutputs = true
      · rw [if_pos hrequire]
        exact ⟨s.events, rfl⟩
      · rw [if_neg hrequire]
        exact ih (s.report (.outputNotWritten inv.toolName output completion))

theorem checkOutputs_eq_ok_iff (inv : Invocation) (completion : Completion) (outputs : List Path)
    (s : Session σ) : (outputs.forM (checkOutput inv completion) s).1 = .ok () ↔
      (inv.requireOutputs = true → ∀ output ∈ outputs,
        s.files.isFile s.cwd (inv.outputPath output) = true) := by
  induction outputs generalizing s with
  | nil => exact ⟨fun _ _ => nofun, fun _ => rfl⟩
  | cons output rest ih =>
    change ((checkOutput inv completion output >>= fun _ =>
      rest.forM (checkOutput inv completion)) s).1 = .ok () ↔ _
    rw [bind_apply, checkOutput_apply, List.forall_mem_cons]
    by_cases hfile : s.files.isFile s.cwd (inv.outputPath output) = true
    · rw [if_pos hfile]
      exact (ih s).trans ⟨fun h hrequire => ⟨hfile, h hrequire⟩, fun h hrequire => (h hrequire).2⟩
    · rw [if_neg hfile]
      by_cases hrequire : inv.requireOutputs = true
      · rw [if_pos hrequire]
        exact ⟨nofun, fun h => absurd (h hrequire).1 hfile⟩
      · rw [if_neg hrequire]
        exact (ih (s.report (.outputNotWritten inv.toolName output completion))).trans
          ⟨fun _ h => absurd h hrequire, fun _ h => absurd h hrequire⟩

/-- Running a tool leaves what the tool leaves, and succeeds exactly if it passes. -/
theorem runTool_spec (invoker : Invoker σ) (inv : Invocation) (s : Session σ) :
    let reply := invoker inv s.toWorkspace s.tools
    (runTool invoker inv s).2.toWorkspace = reply.workspace ∧
      (runTool invoker inv s).2.tools = reply.tools ∧
      (runTool invoker inv s).2.calls = s.calls ++ [inv] ∧
      ((runTool invoker inv s).1 = .ok () ↔ Passes invoker inv s.toWorkspace s.tools) := by
  intro reply
  rw [runTool, bind_apply]
  cases hresult : (invoker inv s.toWorkspace s.tools).result with
  | error e =>
    have hinvoke : invoke invoker inv s = (.error e, (invoke invoker inv s).2) :=
      congrArg (fun result => (result, (invoke invoker inv s).2)) hresult
    rw [hinvoke]
    refine ⟨rfl, rfl, rfl, iff_of_false nofun ?_⟩
    rintro ⟨⟨completion, hok⟩, -⟩
    rw [hresult] at hok
    cases hok
  | ok completion =>
    have hinvoke : invoke invoker inv s = (.ok completion, (invoke invoker inv s).2) :=
      congrArg (fun result => (result, (invoke invoker inv s).2)) hresult
    obtain ⟨events, hsame⟩ :=
      checkOutputs_same inv completion inv.outputs (invoke invoker inv s).2
    rw [hinvoke]
    dsimp only
    rw [hsame]
    refine ⟨rfl, rfl, rfl, ?_⟩
    rw [checkOutputs_eq_ok_iff]
    exact (and_iff_right ⟨completion, hresult⟩).symm

theorem Follows.runTool (h : ∀ w tools, I w → I (invoker inv w tools).workspace) :
    (runTool invoker inv).Follows invoker I [inv] (fun _ => True) := by
  intro s hs
  obtain ⟨hworkspace, htools, hcalls, hpasses⟩ := runTool_spec invoker inv s
  generalize LinkBench.runTool invoker inv s = run at hworkspace htools hcalls hpasses
  obtain ⟨result, t⟩ := run
  dsimp only at hworkspace htools hcalls hpasses
  cases result with
  | ok _ =>
    refine ⟨.done () t hcalls (.cons (hpasses.1 rfl) ?_), fun _ _ => ⟨trivial, ?_⟩⟩
    · rw [hworkspace, htools]
      exact .nil _ _
    · rw [hworkspace]
      exact h _ _ hs
  | error e =>
    exact ⟨.failed e t [] [] inv _ _ rfl hcalls (.nil _ _) fun hpassing => (nomatch hpasses.2 hpassing), nofun⟩

theorem Follows.runTools {invs : List Invocation}
    (h : ∀ inv ∈ invs, ∀ w tools, I w → I (invoker inv w tools).workspace) :
    (invs.forM (LinkBench.runTool invoker)).Follows invoker I invs (fun _ => True) := by
  induction invs with
  | nil => exact .pure trivial
  | cons inv rest ih =>
    obtain ⟨hfirst, hrest⟩ := List.forall_mem_cons.1 h
    exact .bind (.runTool hfirst) fun _ _ => ih hrest

end Action

end LinkBench
