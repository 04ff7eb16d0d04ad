import LinkBench.Launch.Invoker
import LinkBench.Proofs.FileSystem.Fit

/-!
# Which file a tool is started from

A relative program of more than one component is joined to the directory of the invocation before the
tool goes to that directory, and the joined path is followed from there. So the directory is followed a
second time (`resolve_programPath`), which leads to the program only where the directory leads back to itself;
an absolute one always does. Of the rights of a file nothing is known but whether it may be executed, and
there are no links on the way.
-/

namespace LinkBench

namespace FileSystem

variable {fs : FileSystem} {p q dir cwd : Place} {path : Path} {segment : String} {xs : List String}

/-- A blank in front of another segment makes no difference. -/
theorem walk_empty_cons (fs : FileSystem) (p : Place) (segment : String) (xs : List String) :
    fs.walk p ("" :: segment :: xs) = fs.walk p (segment :: xs) := by
  by_cases hdir : fs.entryAt? p = some .directory
  · rw [walk_cons, step_empty hdir]
    rfl
  · obtain ⟨e, herror⟩ : ∃ e, ∀ s, fs.step p s = .error e := by
      cases hentry : fs.entryAt? p with
      | none => exact ⟨.notFound, fun s => by rw [step, hentry]⟩
      | some entry =>
        refine ⟨.notADirectory, fun s => ?_⟩
        rw [step, hentry]
        cases entry with
        | directory => exact absurd hentry hdir
        | file bytes executable => rfl
        | device device => rfl
    rw [walk_cons, walk_cons, herror, herror]
    rfl

/-- A path can be prolonged behind the slash at its end. -/
theorem walk_stem_append (fs : FileSystem) (p : Place) (path : Path) (h : xs ≠ []) :
    fs.walk p (path.stem ++ xs) = (fs.walk p path.segments).bind fun q => fs.walk q xs := by
  obtain ⟨segment, xs, rfl⟩ := List.exists_cons_of_ne_nil h
  obtain hstem | hstem := path.stem_eq_or
  · rw [walk_append, ← hstem]
  · rw [hstem, walk_append, walk_append]
    cases fs.walk p path.stem with
    | error e => rfl
    | ok q =>
      change fs.walk q (segment :: xs) = (fs.walk q [""]).bind fun r => fs.walk r (segment :: xs)
      rw [← walk_append]
      exact (walk_empty_cons fs q segment xs).symm

end FileSystem

namespace Path

variable {p q : Path}

theorem length_segments_of_isCompound (h : p.isCompound = true) : 1 < p.segments.length := by
  rw [isCompound, Bool.and_eq_true, decide_eq_true_eq] at h
  have hmoving : p.segments.countP (fun s => !isStill s) ≤ p.segments.length := List.countP_le_length
  split at h
  · rename_i hdot
    obtain ⟨rest, hrest⟩ := List.head?_eq_some_iff.1 hdot
    have hfew : rest.countP (fun s => !isStill s) ≤ rest.length := List.countP_le_length
    rw [hrest, List.countP_cons_of_neg (by decide)] at h
    rw [hrest, List.length_cons]
    omega
  · omega

theorem isAbsolute_of_isCompound (h : p.isCompound = true) : p.isAbsolute = false := by
  rw [isCompound, Bool.and_eq_true] at h
  simpa using h.1

end Path

namespace Launch.Executable

variable {files : FileSystem} {cwd : Place} {arguments : List String} {image : Image}
  {failure : Except IoError Image} {candidates : List Path}

/-- A candidate that is passed over in favour of later ones. -/
def Passed (files : FileSystem) (cwd : Place) (arguments : List String) (candidate : Path) : Prop :=
  ∃ e, load files cwd candidate arguments = .error e ∧ (e = .permissionDenied ∨ isPassing e = true)

theorem loadFirst_of_ok {first : Path} (h : load files cwd first arguments = .ok image)
    (failure : Except IoError Image) (rest : List Path) :
    loadFirst files cwd arguments failure (first :: rest) = .ok image := by
  rw [loadFirst, h]

theorem loadFirst_of_passed {first : Path} (h : Passed files cwd arguments first)
    (hfailure : ∀ image, failure ≠ .ok image) (rest : List Path) :
    ∃ failure', (∀ image, failure' ≠ .ok image) ∧
      loadFirst files cwd arguments failure (first :: rest) =
        loadFirst files cwd arguments failure' rest := by
  obtain ⟨e, hload, he⟩ := h
  by_cases hdenied : e = .permissionDenied
  · exact ⟨.error .permissionDenied, nofun, by rw [loadFirst, hload, hdenied]⟩
  · refine ⟨failure, hfailure, ?_⟩
    rw [loadFirst, hload]
    have hpassing := he.resolve_left hdenied
    cases e <;> first | exact absurd rfl hdenied | rfl | cases hpassing

theorem loadFirst_of_not_passed {first : Path} {e : IoError}
    (hload : load files cwd first arguments = .error e)
    (h : ¬Passed files cwd arguments first) (failure : Except IoError Image) (rest : List Path) :
    loadFirst files cwd arguments failure (first :: rest) = .error e := by
  have he : ¬(e = .permissionDenied ∨ isPassing e = true) := fun he => h ⟨e, hload, he⟩
  rw [loadFirst, hload]
  cases e <;> first | rfl | exact absurd (.inl rfl) he | exact absurd (.inr rfl) he

/-- The first candidate that is not passed over is the one that is loaded. -/
theorem loadFirst_eq_ok_iff (hfailure : ∀ image, failure ≠ .ok image) :
    loadFirst files cwd arguments failure candidates = .ok image ↔
      ∃ before candidate after, candidates = before ++ candidate :: after ∧
        load files cwd candidate arguments = .ok image ∧
        ∀ other ∈ before, Passed files cwd arguments other := by
  -- The failure that is kept for the end may change at each candidate that is passed over.
  induction candidates generalizing failure with
  | nil =>
    refine ⟨fun h => absurd h (hfailure image), ?_⟩
    rintro ⟨before, candidate, after, hsplit, -⟩
    simp at hsplit
  | cons first rest ih =>
    by_cases hpassed : Passed files cwd arguments first
    · obtain ⟨failure', hfailure', heq⟩ := loadFirst_of_passed hpassed hfailure rest
      rw [heq, ih hfailure']
      constructor
      · rintro ⟨before, candidate, after, rfl, hload, hbefore⟩
        exact ⟨first :: before, candidate, after, rfl, hload, List.forall_mem_cons.2 ⟨hpassed, hbefore⟩⟩
      · rintro ⟨_ | ⟨other, before⟩, candidate, after, hsplit, hload, hbefore⟩
        · cases hsplit
          obtain ⟨e, he, -⟩ := hpassed
          rw [he] at hload
          cases hload
        · cases hsplit
          exact ⟨before, candidate, after, rfl, hload, (List.forall_mem_cons.1 hbefore).2⟩
    · have hfirst : ∀ {before candidate after}, first :: rest = before ++ candidate :: after →
          (∀ other ∈ before, Passed files cwd arguments other) → candidate = first := by
        rintro (_ | ⟨other, before⟩) candidate after hsplit hbefore
        · cases hsplit
          rfl
        · cases hsplit
          exact absurd (hbefore _ List.mem_cons_self) hpassed
      cases hload : load files cwd first arguments with
      | ok image' =>
        rw [loadFirst_of_ok hload]
        constructor
        · intro h
          cases h
          exact ⟨[], first, rest, rfl, hload, nofun⟩
        · rintro ⟨before, candidate, after, hsplit, hcandidate, hbefore⟩
          rw [hfirst hsplit hbefore, hload] at hcandidate
          exact hcandidate
      | error e =>
        rw [loadFirst_of_not_passed hload hpassed]
        refine ⟨nofun, ?_⟩
        rintro ⟨before, candidate, after, hsplit, hcandidate, hbefore⟩
        rw [hfirst hsplit hbefore, hload] at hcandidate
        cases hcandidate

theorem loadFirst_map_eq_ok_iff {folders : List Path} {name : Path} :
    loadFirst files cwd arguments (.error .notFound) (folders.map (·.join name)) = .ok image ↔
      ∃ before folder after, folders = before ++ folder :: after ∧
        load files cwd (folder.join name) arguments = .ok image ∧
        ∀ other ∈ before, Passed files cwd arguments (other.join name) := by
  rw [loadFirst_eq_ok_iff fun image h => by cases h]
  constructor
  · rintro ⟨before, candidate, after, hsplit, hload, hbefore⟩
    obtain ⟨before, rest, rfl, rfl, hrest⟩ := List.map_eq_append_iff.1 hsplit
    obtain ⟨folder, after, rfl, rfl, rfl⟩ := List.map_eq_cons_iff.1 hrest
    exact ⟨before, folder, after, rfl, hload, fun other hother =>
      hbefore _ (List.mem_map_of_mem hother)⟩
  · rintro ⟨before, folder, after, rfl, hload, hbefore⟩
    refine ⟨before.map (·.join name), folder.join name, after.map (·.join name), ?_, hload, ?_⟩
    · rw [List.map_append, List.map_cons]
    · exact List.forall_mem_map.2 hbefore

theorem load_of_stat_error {file : Path} {e : IoError} (h : files.stat cwd file = .error e) :
    load files cwd file arguments = .error e := by
  rw [load, scriptLimit, follow, enter, readExecutable, h]
  rfl

theorem find_eq_load {directories : List Path} {name : Path} (h : 1 < name.segments.length) :
    find files cwd directories name arguments = load files cwd name arguments := by
  rw [find]
  split
  · rename_i text hsegments
    rw [hsegments] at h
    exact absurd h (Nat.lt_irrefl 1)
  · rfl

theorem find_ofName {directories : List Path} {name : FileName} (h : name.isTooLong = false) :
    find files cwd directories (.ofName name) arguments =
      loadFirst files cwd arguments (.error .notFound) (directories.map (·.join (.ofName name))) := by
  have hsize : ¬FileName.sizeLimit < name.text.utf8ByteSize := by
    simpa [FileName.isTooLong] using h
  change (if name.text = "" then _ else if FileName.sizeLimit < name.text.utf8ByteSize then _ else _) = _
  rw [if_neg name.valid.1, if_neg hsize]
  rfl

end Launch.Executable

namespace Launch

open FileSystem

variable {directories : List Path} {w : Workspace} {inv : Invocation} {dir : Place}
  {place : Except IoError Place}

/-- The tool can be started, and `dir` is the directory that it runs in. -/
structure RunsIn (w : Workspace) (inv : Invocation) (dir : Place) : Prop where
  transferable : isTransferable inv = true
  resolve_eq : w.files.resolve w.cwd inv.currentDir = .ok dir
  directory : w.files.entryAt? dir = some .directory

/-- What the tool is started with, its own name first. -/
def arguments (inv : Invocation) : List String :=
  ((programPath inv).text :: inv.args).map ByteText.encode

/-- The tool is what can be loaded from a path that leads to `place` from the directory that it runs
in. -/
structure Executes (directories : List Path) (w : Workspace) (inv : Invocation) (dir : Place)
    (place : Except IoError Place) : Prop where
  loads : locate directories w inv = (fun image => (dir, image)) <$>
    Executable.load w.files dir (programPath inv) (arguments inv)
  leads : w.files.resolve dir (programPath inv) = place

theorem RunsIn.locate_eq (h : RunsIn w inv dir) (directories : List Path) :
    locate directories w inv = (fun image => (dir, image)) <$>
      Executable.find w.files dir directories (programPath inv) (arguments inv) := by
  rw [locate, h.transferable]
  simp only [h.resolve_eq, h.directory, bind, Except.bind, pure, Except.pure]
  rfl

theorem RunsIn.executes (directories : List Path) (h : RunsIn w inv dir)
    (hlong : 1 < (programPath inv).segments.length) :
    Executes directories w inv dir (w.files.resolve dir (programPath inv)) :=
  ⟨by rw [h.locate_eq, Executable.find_eq_load hlong], rfl⟩

theorem programPath_of_isCompound (h : inv.program.isCompound = true) :
    programPath inv = inv.currentDir.join inv.program :=
  if_pos h

theorem programPath_of_isAbsolute (h : inv.program.isAbsolute = true) :
    programPath inv = inv.program := by
  refine if_neg fun hcompound => ?_
  rw [Path.isAbsolute_of_isCompound hcompound] at h
  cases h

theorem programPath_of_ofName {name : FileName} (h : inv.program = .ofName name) :
    programPath inv = .ofName name := by
  rw [← h]
  refine if_neg fun hcompound => ?_
  rw [h] at hcompound
  exact Nat.lt_irrefl 1 (Path.length_segments_of_isCompound hcompound)

theorem resolve_of_isAbsolute {fs : FileSystem} {path : Path} (h : path.isAbsolute = true)
    (cwd cwd' : Place) : fs.resolve cwd path = fs.resolve cwd' path := by
  simp only [resolve, origin, h, if_true]

/-- A compound program is followed behind the directory of the invocation, and this from where it has
led to already. -/
theorem resolve_programPath (h : RunsIn w inv dir) (hcompound : inv.program.isCompound = true)
    (hfit : requireFit (programPath inv) = .ok ()) :
    w.files.resolve dir (programPath inv) =
      (w.files.resolve dir inv.currentDir).bind fun again =>
        w.files.walk again inv.program.segments := by
  obtain ⟨hdirFit, hdirNonempty, -⟩ := resolve_eq_ok_iff.1 h.resolve_eq
  have hrelative := Path.isAbsolute_of_isCompound hcompound
  have hsegments : (programPath inv).segments = inv.currentDir.stem ++ inv.program.segments := by
    rw [programPath_of_isCompound hcompound, Path.segments_join hrelative]
  have hnonempty : (programPath inv).isEmpty = false := by
    rw [Bool.eq_false_iff]
    intro hempty
    have hlength := congrArg List.length (hsegments.symm.trans (Path.isEmpty_eq_true_iff.1 hempty))
    have := Path.length_segments_of_isCompound hcompound
    rw [List.length_append, List.length_singleton] at hlength
    omega
  have horigin : origin dir (programPath inv) = origin dir inv.currentDir := by
    rw [origin, origin, programPath_of_isCompound hcompound,
      Path.isAbsolute_join hdirNonempty hrelative]
  rw [resolve_of_fit _ _ hfit hnonempty, hsegments, horigin,
    walk_stem_append _ _ _ inv.program.ne_nil, resolve_of_fit _ _ hdirFit hdirNonempty]

theorem resolve_program (hcompound : inv.program.isCompound = true)
    (hfit : requireFit (programPath inv) = .ok ()) :
    w.files.resolve dir inv.program = w.files.walk dir inv.program.segments := by
  have hrelative := Path.isAbsolute_of_isCompound hcompound
  rw [programPath_of_isCompound hcompound] at hfit
  have hnonempty : inv.program.isEmpty = false := by
    rw [Bool.eq_false_iff]
    intro hempty
    have := Path.length_segments_of_isCompound hcompound
    rw [Path.isEmpty_eq_true_iff.1 hempty] at this
    exact Nat.lt_irrefl 1 this
  rw [resolve_of_fit _ _ (Path.requireFit_of_join hrelative hfit) hnonempty, origin, hrelative]
  rfl

theorem RunsIn.resolve_of_isAbsolute (h : RunsIn w inv dir)
    (habsolute : inv.currentDir.isAbsolute = true) : w.files.resolve dir inv.currentDir = .ok dir :=
  (Launch.resolve_of_isAbsolute habsolute dir w.cwd).trans h.resolve_eq

theorem ofString?_dot : FileName.ofString? "." = none := by
  rw [FileName.ofString?, dif_neg fun h => h.2.1 rfl]

/-- A walk to a name beside a directory leads through that directory only. -/
theorem eq_of_walk_beside {fs : FileSystem} {p : Place} {l : Location} {name : FileName}
    (h : fs.walk p [".", name.text] = .ok (.ofLocation (l ++ [name]))) : p = .ofLocation l := by
  obtain ⟨q, hdot, hname⟩ := walk_cons_eq_ok_iff.1 h
  rw [walk_singleton] at hname
  obtain ⟨-, ⟨_, hvalid, -⟩ | ⟨-, hq⟩⟩ := step_eq_ok_iff.1 hdot
  · rw [ofString?_dot] at hvalid
    cases hvalid
  · rw [if_neg (by decide)] at hq
    subst hq
    obtain ⟨-, ⟨name', hvalid, hlive, -, heq⟩ | ⟨hvalid, -⟩⟩ := step_eq_ok_iff.1 hname
    · rw [name.ofString?_text] at hvalid
      cases hvalid
      obtain ⟨base, lost⟩ := q
      cases List.isEmpty_iff.1 hlive
      have hbase := List.append_cancel_right (congrArg Place.base heq)
      exact congrArg Place.ofLocation hbase.symm
    · rw [name.ofString?_text] at hvalid
      cases hvalid

theorem map_eq_ok_iff {found : Except IoError Executable.Image} {image : Executable.Image} :
    (fun image => (dir, image)) <$> found = .ok (dir, image) ↔ found = .ok image := by
  cases found with
  | error e => exact ⟨nofun, nofun⟩
  | ok image' =>
    constructor
    · intro h
      cases h
      rfl
    · intro h
      cases h
      rfl

/-- A program beside the directory that the tool runs in is found only where the directory leads back
to itself. -/
theorem Executes.resolve_eq {l : Location} {name : FileName} (h : RunsIn w inv (.ofLocation l))
    (hcompound : inv.program.isCompound = true) (hfit : requireFit (programPath inv) = .ok ())
    (hbeside : inv.program.segments = [".", name.text]) (hshort : name.isTooLong = false)
    (hexecutes : Executes directories w inv (.ofLocation l)
      (w.files.resolve (.ofLocation l) inv.program)) :
    w.files.resolve (.ofLocation l) inv.currentDir = .ok (.ofLocation l) := by
  have hdir : w.files.get? l = some .directory := h.directory
  have hdot : w.files.step (.ofLocation l) "." = .ok (.ofLocation l) :=
    step_eq_ok_iff.2 ⟨hdir, .inr ⟨ofString?_dot, rfl⟩⟩
  have hright : w.files.walk (.ofLocation l) [".", name.text] = .ok (.ofLocation (l ++ [name])) := by
    rw [walk_cons, hdot]
    exact (walk_singleton _ _ _).trans (step_name hdir hshort)
  have hleads := hexecutes.leads
  rw [resolve_program hcompound hfit, resolve_programPath h hcompound hfit, hbeside, hright] at hleads
  cases hagain : w.files.resolve (.ofLocation l) inv.currentDir with
  | error e =>
    rw [hagain] at hleads
    cases hleads
  | ok again =>
    rw [hagain] at hleads
    rw [eq_of_walk_beside hleads]

/-- A tool that is not located is not started. -/
theorem invoker_of_locate_error {σ : Type} {system : System σ} {e : IoError}
    (h : locate system.searchList w inv = .error e) (settings : Settings) (tools : σ) :
    (system.invoker settings inv w tools).result = .error (.spawn inv.toolName e) := by
  simp only [System.invoker, h]
  rfl

/-- **Which file is executed.** An absolute program is the file of that path, and one of a single name is
the first of the search path that can be loaded. A relative one of more components is the file that is
found when the directory of the invocation is followed once more, from the directory that the tool runs
in: the right one where the directory leads back to itself, as an absolute one does, and for a program
beside that directory nowhere else. -/
theorem locate_program (directories : List Path) (h : RunsIn w inv dir) :
    (inv.program.isAbsolute = true → Executes directories w inv dir (w.files.resolve .root inv.program)) ∧
    (∀ name, inv.program = .ofName name → name.isTooLong = false → ∀ image,
      locate directories w inv = .ok (dir, image) ↔ ∃ before folder after,
        directories = before ++ folder :: after ∧
        Executable.load w.files dir (folder.join inv.program) (arguments inv) = .ok image ∧
        ∀ other ∈ before,
          Executable.Passed w.files dir (arguments inv) (other.join inv.program)) ∧
    (inv.program.isCompound = true → requireFit (programPath inv) = .ok () →
      Executes directories w inv dir ((w.files.resolve dir inv.currentDir).bind fun again =>
        w.files.walk again inv.program.segments) ∧
      (inv.currentDir.isAbsolute = true ∨ w.files.resolve dir inv.currentDir = .ok dir →
        Executes directories w inv dir (w.files.resolve dir inv.program)) ∧
      (∀ (l : Location) (name : FileName), dir = .ofLocation l →
        inv.program.segments = [".", name.text] → name.isTooLong = false →
        (Executes directories w inv dir (w.files.resolve dir inv.program) ↔
          w.files.resolve dir inv.currentDir = .ok dir))) := by
  refine ⟨fun habsolute => ?_, fun name hname hshort image => ?_, fun hcompound hfit => ?_⟩
  · have hprogram := programPath_of_isAbsolute habsolute
    have hlong : 1 < (programPath inv).segments.length := by
      rw [hprogram]
      obtain ⟨s, rest, hsegments⟩ := Path.isAbsolute_eq_true_iff.1 habsolute
      simp [hsegments]
    have hexecutes := h.executes directories hlong
    rwa [hprogram, Launch.resolve_of_isAbsolute habsolute dir .root] at hexecutes
  · rw [h.locate_eq, programPath_of_ofName hname, Executable.find_ofName hshort, hname,
      map_eq_ok_iff, Executable.loadFirst_map_eq_ok_iff]
  · have htwice := resolve_programPath h hcompound hfit
    have hlong : 1 < (programPath inv).segments.length := by
      rw [programPath_of_isCompound hcompound,
        Path.segments_join (Path.isAbsolute_of_isCompound hcompound), List.length_append]
      exact Nat.lt_add_left _ (Path.length_segments_of_isCompound hcompound)
    have hright (hback : w.files.resolve dir inv.currentDir = .ok dir) :
        Executes directories w inv dir (w.files.resolve dir inv.program) := by
      have hexecutes := h.executes directories hlong
      rw [htwice, hback] at hexecutes
      rw [resolve_program hcompound hfit]
      exact hexecutes
    refine ⟨htwice ▸ h.executes directories hlong, fun hback => ?_, fun l name hdir hbeside hshort => ?_⟩
    · exact hright (hback.elim h.resolve_of_isAbsolute id)
    · subst hdir
      exact ⟨Executes.resolve_eq h hcompound hfit hbeside hshort, hright⟩

/-- A program above the absolute directory `/t`. -/
theorem locate_program_above_absolute :
    let t : Location := [⟨"t", by decide⟩]
    let x : Location := [⟨"x", by decide⟩]
    let files := (FileSystem.empty.put t .directory).put x (.file Executable.mark true)
    let w : Workspace := ⟨files, .root⟩
    let inv : Invocation := ⟨.ofString "../x", [], .ofString "/t", [], true⟩
    RunsIn w inv (.ofLocation t) ∧
      Executes [] w inv (.ofLocation t) (w.files.resolve (.ofLocation t) inv.program) ∧
      w.files.resolve (.ofLocation t) inv.program = .ok (.ofLocation x) := by
  intro t x files w inv
  have h : RunsIn w inv (.ofLocation t) := ⟨rfl, rfl, rfl⟩
  obtain ⟨-, -, hcompound⟩ := locate_program [] h
  obtain ⟨-, hright, -⟩ := hcompound (by decide) rfl
  exact ⟨h, hright (.inl (by decide)), rfl⟩

/-- **A program that is not found.** The same program above the relative directory `t`: it is there, and
can be executed, but the tool cannot be started, on whatever system. -/
theorem not_found_above_relative :
    let t : Location := [⟨"t", by decide⟩]
    let x : Location := [⟨"x", by decide⟩]
    let files := (FileSystem.empty.put t .directory).put x (.file Executable.mark true)
    let w : Workspace := ⟨files, .root⟩
    let inv : Invocation := ⟨.ofString "../x", [], .ofString "t", [], true⟩
    RunsIn w inv (.ofLocation t) ∧
      w.files.stat (.ofLocation t) inv.program = .ok (.file Executable.mark true) ∧
      ∀ (system : System Unit) (settings : Settings),
        (system.invoker settings inv w ()).result = .error (.spawn "../x" .notFound) := by
  intro t x files w inv
  have h : RunsIn w inv (.ofLocation t) := ⟨rfl, rfl, rfl⟩
  have hmissing : w.files.stat (.ofLocation t) (programPath inv) = .error .notFound := rfl
  have hlocate : ∀ directories, locate directories w inv = .error .notFound := fun directories => by
    rw [h.locate_eq, Executable.find_eq_load (by decide), Executable.load_of_stat_error hmissing]
    rfl
  exact ⟨h, rfl, fun _ settings => invoker_of_locate_error (hlocate _) settings ()⟩

end Launch

end LinkBench
