import LinkBench.Tool.Run

/-!
# Actions step by step

What an action that is built from others does to a session. `bind_eq_ok_iff` and `bind_eq_error_iff`
take a run apart, where the parts may have changed the session also when they fail. `Keeps` is an
invariant of the workspace that an action leaves true, `Calls` says which invocations it can issue, `Yields`
is a success that changes no file, and `Agree` relates two runs that end alike if they begin alike.
-/

namespace LinkBench

instance instDecidableEqExcept {ε α : Type} [DecidableEq ε] [DecidableEq α] :
    DecidableEq (Except ε α)
  | .ok a, .ok b => decidable_of_iff (a = b) ⟨congrArg _, Except.ok.inj⟩
  | .error d, .error e => decidable_of_iff (d = e) ⟨congrArg _, Except.error.inj⟩
  | .ok _, .error _ => isFalse nofun
  | .error _, .ok _ => isFalse nofun

namespace Action

variable {σ ε ε' α β : Type} {x : Action σ ε α} {f : α → Action σ ε β} {g : ε → ε'}
  {s t u : Session σ} {a : α} {b : β} {e : ε} {e' : ε'}

theorem bind_apply (x : Action σ ε α) (f : α → Action σ ε β) (s : Session σ) :
    (x >>= f) s = match x s with
      | (.ok a, t) => f a t
      | (.error e, t) => (.error e, t) := by
  change ExceptT.bind x f s = _
  rw [ExceptT.bind, ExceptT.mk]
  change ExceptT.bindCont f (x s).1 (x s).2 = _
  obtain ⟨result, t⟩ := x s
  cases result <;> rfl

theorem bind_of_ok (h : x s = (.ok a, t)) (f : α → Action σ ε β) : (x >>= f) s = f a t := by
  rw [bind_apply, h]

theorem bind_of_error (h : x s = (.error e, t)) (f : α → Action σ ε β) :
    (x >>= f) s = (.error e, t) := by
  rw [bind_apply, h]

theorem bind_eq_ok_iff : (x >>= f) s = (.ok b, u) ↔ ∃ a t, x s = (.ok a, t) ∧ f a t = (.ok b, u) := by
  rw [bind_apply]
  obtain ⟨result, t⟩ := x s
  constructor
  · intro h
    cases result with
    | ok a => exact ⟨a, t, rfl, h⟩
    | error e => cases h
  · rintro ⟨a, t, heq, h⟩
    cases heq
    exact h

theorem bind_eq_error_iff : (x >>= f) s = (.error e, u) ↔
    x s = (.error e, u) ∨ ∃ a t, x s = (.ok a, t) ∧ f a t = (.error e, u) := by
  rw [bind_apply]
  obtain ⟨result, t⟩ := x s
  constructor
  · intro h
    cases result with
    | ok a => exact .inr ⟨a, t, rfl, h⟩
    | error e =>
      cases h
      exact .inl rfl
  · rintro (heq | ⟨a, t, heq, h⟩)
    · cases heq
      rfl
    · cases heq
      exact h

theorem mapError_eq_ok_iff : x.mapError g s = (.ok a, t) ↔ x s = (.ok a, t) := by
  unfold mapError
  obtain ⟨result, t⟩ := x s
  constructor <;> intro h <;> cases result <;> cases h <;> rfl

theorem mapError_eq_error_iff : x.mapError g s = (.error e', t) ↔
    ∃ e, x s = (.error e, t) ∧ g e = e' := by
  unfold mapError
  obtain ⟨result, t⟩ := x s
  constructor
  · intro h
    cases result <;> cases h
    exact ⟨_, rfl, rfl⟩
  · rintro ⟨e, heq, rfl⟩
    cases heq
    rfl

theorem altering_eq_iff {f : FileSystem → Place → Except IoError Unit × List Change}
    {result : Except IoError Unit} : (altering f : Action σ IoError Unit) s = (result, t) ↔
      ∃ changes, f s.files s.cwd = (result, changes) ∧ t = s.change changes := by
  unfold altering
  obtain ⟨result', changes⟩ := f s.files s.cwd
  constructor
  · intro h
    cases h
    exact ⟨changes, rfl, rfl⟩
  · rintro ⟨_, h, rfl⟩
    cases h
    rfl

theorem changing_eq_ok_iff {f : FileSystem → Place → Except IoError (List Change)} :
    (changing f : Action σ IoError Unit) s = (.ok (), t) ↔
      ∃ changes, f s.files s.cwd = .ok changes ∧ t = s.change changes := by
  unfold changing
  cases f s.files s.cwd with
  | error e => exact ⟨nofun, fun ⟨_, h, _⟩ => nomatch h⟩
  | ok changes =>
    constructor
    · intro h
      cases h
      exact ⟨changes, rfl, rfl⟩
    · rintro ⟨_, h, rfl⟩
      cases h
      rfl

theorem changing_eq_error_iff {f : FileSystem → Place → Except IoError (List Change)} {e : IoError} :
    (changing f : Action σ IoError Unit) s = (.error e, t) ↔ f s.files s.cwd = .error e ∧ t = s := by
  unfold changing
  cases f s.files s.cwd with
  | error e =>
    constructor
    · intro h
      cases h
      exact ⟨rfl, rfl⟩
    · rintro ⟨h, rfl⟩
      cases h
      rfl
  | ok changes => exact ⟨nofun, fun ⟨h, _⟩ => nomatch h⟩

/-! ### Invariants -/

/-- What is true of the workspace stays true, whether or not the action fails. -/
def Keeps (I : Workspace → Prop) (x : Action σ ε α) : Prop :=
  ∀ s : Session σ, I s.toWorkspace → I (x s).2.toWorkspace

section Keeps

variable {I : Workspace → Prop}

theorem Keeps.of_eq {result : Except ε α} (hx : x.Keeps I) (hs : I s.toWorkspace)
    (h : x s = (result, t)) : I t.toWorkspace := by
  have hnext := hx s hs
  rwa [h] at hnext

theorem Keeps.pure (a : α) : (Pure.pure a : Action σ ε α).Keeps I := fun _ h => h

theorem Keeps.fail (e : ε) : (Action.fail e : Action σ ε α).Keeps I := fun _ h => h

theorem Keeps.report (event : Event) : (Action.report event : Action σ ε Unit).Keeps I :=
  fun _ h => h

theorem Keeps.ask (f : FileSystem → Place → α) : (Action.ask f : Action σ ε α).Keeps I :=
  fun _ h => h

theorem Keeps.reading (f : FileSystem → Place → Except IoError α) :
    (Action.reading f : Action σ IoError α).Keeps I := fun _ h => h

theorem Keeps.altering {f : FileSystem → Place → Except IoError Unit × List Change}
    (h : ∀ w : Workspace, I w → I (w.applyAll (f w.files w.cwd).2)) :
    (Action.altering f : Action σ IoError Unit).Keeps I := fun s hs => h s.toWorkspace hs

theorem Keeps.bind_of_ok (hx : x.Keeps I) (hf : ∀ s a t, x s = (.ok a, t) → (f a).Keeps I) :
    (x >>= f).Keeps I := by
  intro s hs
  have hfirst := hx s hs
  rw [bind_apply]
  cases hrun : x s with
  | mk result t =>
    rw [hrun] at hfirst
    cases result with
    | error e => exact hfirst
    | ok a => exact hf s a t hrun t hfirst

theorem Keeps.bind (hx : x.Keeps I) (hf : ∀ a, (f a).Keeps I) : (x >>= f).Keeps I :=
  hx.bind_of_ok fun _ a _ _ => hf a

theorem Keeps.mapError (hx : x.Keeps I) (g : ε → ε') : (x.mapError g).Keeps I := by
  intro s hs
  have hfirst := hx s hs
  unfold Action.mapError
  generalize x s = run at hfirst
  obtain ⟨result, t⟩ := run
  cases result <;> exact hfirst

theorem Keeps.onFailure {cleanUp : Session σ → Session σ} (hx : x.Keeps I)
    (hcleanUp : ∀ s : Session σ, I s.toWorkspace → I (cleanUp s).toWorkspace) :
    (x.onFailure cleanUp).Keeps I := by
  intro s hs
  have hfirst := hx s hs
  unfold Action.onFailure
  generalize x s = run at hfirst
  obtain ⟨result, t⟩ := run
  cases result with
  | ok a => exact hfirst
  | error e => exact hcleanUp t hfirst

theorem Keeps.forM {xs : List α} {f : α → Action σ ε PUnit} (hf : ∀ a ∈ xs, (f a).Keeps I) :
    (xs.forM f).Keeps I := by
  induction xs with
  | nil => exact .pure _
  | cons a xs ih =>
    obtain ⟨hfirst, hrest⟩ := List.forall_mem_cons.1 hf
    exact .bind hfirst fun _ => ih hrest

theorem Keeps.invoke {invoker : Invoker σ} {inv : Invocation}
    (h : ∀ w tools, I w → I (invoker inv w tools).workspace) : (invoke invoker inv).Keeps I :=
  fun s hs => h s.toWorkspace s.tools hs

theorem Keeps.checkOutput (inv : Invocation) (completion : Completion) (output : Path) :
    (checkOutput inv completion output : Action σ ToolError Unit).Keeps I := by
  refine .bind (.ask _) fun found => ?_
  split
  · exact .pure _
  · split
    · exact .fail _
    · exact .report _

theorem Keeps.runTool {invoker : Invoker σ} {inv : Invocation}
    (h : ∀ w tools, I w → I (invoker inv w tools).workspace) : (runTool invoker inv).Keeps I :=
  .bind (.invoke h) fun completion => .forM fun output _ => .checkOutput inv completion output

end Keeps

/-! ### Invocations -/

/-- What the action issues is of that kind. -/
def Calls (A : Invocation → Prop) (x : Action σ ε α) : Prop :=
  ∀ s : Session σ, ∃ issued, (x s).2.calls = s.calls ++ issued ∧ ∀ inv ∈ issued, A inv

section Calls

variable {A : Invocation → Prop}

theorem Calls.of_quiet (h : ∀ s, (x s).2.calls = s.calls) : x.Calls A := fun s =>
  ⟨[], (h s).trans (List.append_nil _).symm, nofun⟩

theorem Calls.of_eq {result : Except ε α} (hx : x.Calls A) (h : x s = (result, t)) :
    ∃ issued, t.calls = s.calls ++ issued ∧ ∀ inv ∈ issued, A inv := by
  have hcalls := hx s
  rwa [h] at hcalls

theorem Calls.calls_eq {result : Except ε α} (hx : x.Calls fun _ => False) (h : x s = (result, t)) :
    t.calls = s.calls := by
  obtain ⟨issued, hcalls, hnone⟩ := hx.of_eq h
  rw [hcalls, List.eq_nil_iff_forall_not_mem.2 hnone, List.append_nil]

theorem Calls.pure (a : α) : (Pure.pure a : Action σ ε α).Calls A := .of_quiet fun _ => rfl

theorem Calls.fail (e : ε) : (Action.fail e : Action σ ε α).Calls A := .of_quiet fun _ => rfl

theorem Calls.report (event : Event) : (Action.report event : Action σ ε Unit).Calls A :=
  .of_quiet fun _ => rfl

theorem Calls.ask (f : FileSystem → Place → α) : (Action.ask f : Action σ ε α).Calls A :=
  .of_quiet fun _ => rfl

theorem Calls.reading (f : FileSystem → Place → Except IoError α) :
    (Action.reading f : Action σ IoError α).Calls A := .of_quiet fun _ => rfl

theorem Calls.altering (f : FileSystem → Place → Except IoError Unit × List Change) :
    (Action.altering f : Action σ IoError Unit).Calls A := .of_quiet fun _ => rfl

theorem Calls.changing (f : FileSystem → Place → Except IoError (List Change)) :
    (Action.changing f : Action σ IoError Unit).Calls A := .of_quiet fun s => by
  unfold Action.changing
  split <;> rfl

theorem Calls.bind_of_ok (hx : x.Calls A) (hf : ∀ s a t, x s = (.ok a, t) → (f a).Calls A) :
    (x >>= f).Calls A := by
  intro s
  obtain ⟨issued, hissued, hkind⟩ := hx s
  rw [bind_apply]
  cases hrun : x s with
  | mk result t =>
    rw [hrun] at hissued
    cases result with
    | error e => exact ⟨issued, hissued, hkind⟩
    | ok a =>
      obtain ⟨issued', hissued', hkind'⟩ := hf s a t hrun t
      refine ⟨issued ++ issued', ?_, List.forall_mem_append.2 ⟨hkind, hkind'⟩⟩
      rw [← List.append_assoc, ← hissued]
      exact hissued'

theorem Calls.bind (hx : x.Calls A) (hf : ∀ a, (f a).Calls A) : (x >>= f).Calls A :=
  hx.bind_of_ok fun _ a _ _ => hf a

theorem Calls.mapError (hx : x.Calls A) (g : ε → ε') : (x.mapError g).Calls A := by
  intro s
  have hissued := hx s
  unfold Action.mapError
  generalize x s = run at hissued
  obtain ⟨result, t⟩ := run
  cases result <;> exact hissued

theorem Calls.onFailure {cleanUp : Session σ → Session σ} (hx : x.Calls A)
    (hcleanUp : ∀ s, (cleanUp s).calls = s.calls) : (x.onFailure cleanUp).Calls A := by
  intro s
  have hissued := hx s
  unfold Action.onFailure
  generalize x s = run at hissued
  obtain ⟨result, t⟩ := run
  cases result with
  | ok a => exact hissued
  | error e =>
    dsimp only
    rwa [hcleanUp]

theorem Calls.forM {xs : List α} {f : α → Action σ ε PUnit} (hf : ∀ a ∈ xs, (f a).Calls A) :
    (xs.forM f).Calls A := by
  induction xs with
  | nil => exact .pure _
  | cons a xs ih =>
    obtain ⟨hfirst, hrest⟩ := List.forall_mem_cons.1 hf
    exact .bind hfirst fun _ => ih hrest

theorem Calls.runTool {invoker : Invoker σ} {inv : Invocation} (h : A inv) :
    (runTool invoker inv).Calls A := by
  refine .bind (fun s => ⟨[inv], rfl, List.forall_mem_singleton.2 h⟩) fun completion =>
    .forM fun output _ => ?_
  refine .bind (.ask _) fun found => ?_
  split
  · exact .pure _
  · split
    · exact .fail _
    · exact .report _

end Calls

/-! ### Successes without a change -/

/-- In the workspace, the action succeeds and changes nothing of it. -/
def Yields (w : Workspace) (x : Action σ ε α) (a : α) : Prop :=
  ∀ s : Session σ, s.toWorkspace = w → ∃ t, x s = (.ok a, t) ∧ t.toWorkspace = w

section Yields

variable {w : Workspace}

theorem Yields.pure (a : α) : (Pure.pure a : Action σ ε α).Yields w a := fun s hs => ⟨s, rfl, hs⟩

theorem Yields.report (event : Event) : (Action.report event : Action σ ε Unit).Yields w () :=
  fun s hs => ⟨s.report event, rfl, hs⟩

theorem Yields.ask {f : FileSystem → Place → α} (h : f w.files w.cwd = a) :
    (Action.ask f : Action σ ε α).Yields w a := by
  rintro s rfl
  exact ⟨s, congrArg (fun a => (Except.ok a, s)) h, rfl⟩

theorem Yields.reading {f : FileSystem → Place → Except IoError α} (h : f w.files w.cwd = .ok a) :
    (Action.reading f : Action σ IoError α).Yields w a := by
  rintro s rfl
  exact ⟨s, congrArg (fun result => (result, s)) h, rfl⟩

theorem Yields.bind (hx : x.Yields w a) (hf : (f a).Yields w b) : (x >>= f).Yields w b := by
  intro s hs
  obtain ⟨t, hfirst, ht⟩ := hx s hs
  obtain ⟨u, hrest, hu⟩ := hf t ht
  exact ⟨u, (bind_of_ok hfirst f).trans hrest, hu⟩

theorem Yields.mapError (hx : x.Yields w a) (g : ε → ε') : (x.mapError g).Yields w a := by
  intro s hs
  obtain ⟨t, hfirst, ht⟩ := hx s hs
  exact ⟨t, mapError_eq_ok_iff.2 hfirst, ht⟩

theorem Yields.forM {xs : List α} {f : α → Action σ ε PUnit}
    (hf : ∀ a ∈ xs, (f a).Yields w ⟨⟩) : (xs.forM f).Yields w ⟨⟩ := by
  induction xs with
  | nil => exact .pure _
  | cons a xs ih =>
    obtain ⟨hfirst, hrest⟩ := List.forall_mem_cons.1 hf
    exact .bind hfirst (ih hrest)

end Yields

/-! ### Two runs -/

/-- From workspaces that are related, both actions end with the same result and in workspaces that are
related. -/
def Agree (R : Workspace → Workspace → Prop) (x y : Action σ ε α) : Prop :=
  ∀ s t : Session σ, R s.toWorkspace t.toWorkspace →
    (x s).1 = (y t).1 ∧ R (x s).2.toWorkspace (y t).2.toWorkspace

section Agree

variable {R : Workspace → Workspace → Prop} {y : Action σ ε α} {f' : α → Action σ ε β}

theorem Agree.pure (a : α) : (Pure.pure a : Action σ ε α).Agree R (Pure.pure a) :=
  fun _ _ h => ⟨rfl, h⟩

theorem Agree.fail (e : ε) : (Action.fail e : Action σ ε α).Agree R (Action.fail e) :=
  fun _ _ h => ⟨rfl, h⟩

theorem Agree.report (event : Event) :
    (Action.report event : Action σ ε Unit).Agree R (Action.report event) :=
  fun _ _ h => ⟨rfl, h⟩

theorem Agree.ask {f : FileSystem → Place → α}
    (h : ∀ w w' : Workspace, R w w' → f w.files w.cwd = f w'.files w'.cwd) :
    (Action.ask f : Action σ ε α).Agree R (Action.ask f) :=
  fun s t hR => ⟨congrArg Except.ok (h s.toWorkspace t.toWorkspace hR), hR⟩

theorem Agree.bind (hx : x.Agree R y) (hf : ∀ a, (f a).Agree R (f' a)) :
    (x >>= f).Agree R (y >>= f') := by
  intro s t hR
  obtain ⟨hresult, hnext⟩ := hx s t hR
  rw [bind_apply, bind_apply]
  generalize x s = run at hresult hnext
  generalize y t = run' at hresult hnext
  obtain ⟨result, u⟩ := run
  obtain ⟨result', u'⟩ := run'
  cases hresult
  cases result with
  | error e => exact ⟨rfl, hnext⟩
  | ok a => exact hf a u u' hnext

/-- The first part may look at what is not related, if it makes nothing of that. -/
theorem Agree.bind_of_yields (h : ∀ w w', R w w' → ∃ a, x.Yields w a ∧ y.Yields w' a ∧
    (f a).Agree R (f' a)) : (x >>= f).Agree R (y >>= f') := by
  intro s t hR
  obtain ⟨a, hx, hy, hf⟩ := h _ _ hR
  obtain ⟨s', hs, hs'⟩ := hx s rfl
  obtain ⟨t', ht, ht'⟩ := hy t rfl
  rw [bind_of_ok hs, bind_of_ok ht]
  exact hf s' t' (by rwa [hs', ht'])

theorem Agree.mapError (hx : x.Agree R y) (g : ε → ε') : (x.mapError g).Agree R (y.mapError g) := by
  intro s t hR
  obtain ⟨hresult, hnext⟩ := hx s t hR
  unfold Action.mapError
  generalize x s = run at hresult hnext
  generalize y t = run' at hresult hnext
  obtain ⟨result, u⟩ := run
  obtain ⟨result', u'⟩ := run'
  cases hresult
  cases result <;> exact ⟨rfl, hnext⟩

theorem Agree.forM {xs : List α} {f f' : α → Action σ ε PUnit}
    (hf : ∀ a ∈ xs, (f a).Agree R (f' a)) : (xs.forM f).Agree R (xs.forM f') := by
  induction xs with
  | nil => exact .pure _
  | cons a xs ih =>
    obtain ⟨hfirst, hrest⟩ := List.forall_mem_cons.1 hf
    exact .bind hfirst fun _ => ih hrest

theorem Agree.invoke {invoker : Invoker σ} {inv : Invocation}
    (h : ∀ w tools w' tools', R w w' → (invoker inv w tools).result = (invoker inv w' tools').result ∧
      R (invoker inv w tools).workspace (invoker inv w' tools').workspace) :
    (invoke invoker inv).Agree R (invoke invoker inv) :=
  fun s t hR => h s.toWorkspace s.tools t.toWorkspace t.tools hR

theorem Agree.checkOutput {inv : Invocation} {output : Path} (completion : Completion)
    (h : ∀ w w' : Workspace, R w w' → w.files.isFile w.cwd (inv.outputPath output) =
      w'.files.isFile w'.cwd (inv.outputPath output)) :
    (checkOutput inv completion output : Action σ ToolError Unit).Agree R
      (checkOutput inv completion output) := by
  refine .bind (.ask h) fun found => ?_
  split
  · exact .pure _
  · split
    · exact .fail _
    · exact .report _

theorem Agree.runTool {invoker : Invoker σ} {inv : Invocation}
    (hinvoke : ∀ w tools w' tools', R w w' →
      (invoker inv w tools).result = (invoker inv w' tools').result ∧
      R (invoker inv w tools).workspace (invoker inv w' tools').workspace)
    (houtput : ∀ output ∈ inv.outputs, ∀ w w' : Workspace, R w w' →
      w.files.isFile w.cwd (inv.outputPath output) =
        w'.files.isFile w'.cwd (inv.outputPath output)) :
    (runTool invoker inv).Agree R (runTool invoker inv) :=
  .bind (.invoke hinvoke) fun completion => .forM fun output houtput' =>
    .checkOutput completion (houtput output houtput')

end Agree

end Action

end LinkBench
