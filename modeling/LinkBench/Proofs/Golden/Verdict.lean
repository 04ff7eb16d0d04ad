import LinkBench.Proofs.FileSystem.Region
import LinkBench.Proofs.Session
import LinkBench.Golden

/-!
# What verifying finds

Verifying compares the files directly in the accepted directory with the files of the same names in the
output directory. Where these hold the same, it passes and counts them (`verify_yields`). In general it reads
and changes nothing, so its verdict is told from the two directories alone: from the regular files that stand
directly in the accepted one, and from what the path of each leads to in the other. The files are judged one
by one (`checkFile_judges`), and a run over their names ends at the first one that differs
(`checkFiles_judge`); what two texts differ in first is said by `FirstDifference`. A file that stands
somewhere can be read: trees have no access rights.
-/

namespace LinkBench.Golden

open FileSystem

variable {σ : Type} {w : Workspace} {expectedDir outDir : Path} {e o : Location} {name : FileName}
  {bytes : Bytes} {executable : Bool}

theorem firstDifferenceFrom_self (offset : Nat) (bytes : Bytes) :
    firstDifferenceFrom offset bytes bytes = none := by
  induction bytes generalizing offset with
  | nil => rfl
  | cons b bytes ih =>
    rw [firstDifferenceFrom, if_pos rfl]
    exact ih (offset + 1)

/-- The files that are compared: a name that makes the path of its file too long is not seen. -/
def accepted (files : FileSystem) (dir : Path) (l : Location) : List FileName :=
  ((files.children l).filter fun x => x.2.isRegular && !(dir.join (.ofName x.1)).isTooLong).map (·.1)

theorem accepted_congr {files files' : FileSystem} {l : Location}
    (h : ∀ name, files.get? (l ++ [name]) = files'.get? (l ++ [name])) (dir : Path) :
    accepted files dir l = accepted files' dir l := by
  rw [accepted, accepted, FileSystem.children_congr h]

theorem goldenFiles_eq {files : FileSystem} {cwd : Place} (h : files.Leads cwd expectedDir e) :
    goldenFiles files cwd expectedDir = .ok (accepted files expectedDir e) := by
  rw [goldenFiles, h.listDirectory_eq]
  change Except.ok _ = _
  rw [List.filter_filter]
  rfl

theorem mem_accepted {files : FileSystem} {dir : Path} {l : Location} :
    name ∈ accepted files dir l ↔
      (∃ bytes executable, files.get? (l ++ [name]) = some (.file bytes executable)) ∧
        (dir.join (.ofName name)).isTooLong = false := by
  rw [accepted, List.mem_map]
  constructor
  · rintro ⟨⟨_, entry⟩, hmem, rfl⟩
    rw [List.mem_filter, mem_children] at hmem
    obtain ⟨hentry, htest⟩ := hmem
    rw [Bool.and_eq_true, Bool.not_eq_true'] at htest
    cases entry with
    | file bytes executable => exact ⟨⟨bytes, executable, hentry⟩, htest.2⟩
    | directory => cases htest.1
    | device d => cases htest.1
  · rintro ⟨⟨bytes, executable, hentry⟩, hfit⟩
    refine ⟨(name, .file bytes executable), List.mem_filter.2 ⟨mem_children.2 hentry, ?_⟩, rfl⟩
    rw [hfit]
    rfl

/-- A file with a counterpart that holds the same bytes passes. -/
theorem checkFile_yields
    (hexpected : w.files.Leads w.cwd expectedDir e) (hout : w.files.Leads w.cwd outDir o)
    (hfit : requireFit (expectedDir.join (.ofName name)) = .ok ())
    (hfit' : requireFit (outDir.join (.ofName name)) = .ok ()) (hshort : name.isTooLong = false)
    (hwant : w.files.get? (e ++ [name]) = some (.file bytes executable))
    (hgot : w.files.get? (o ++ [name]) = some (.file bytes executable)) :
    (checkFile expectedDir outDir name : Action σ GoldenError Unit).Yields w () := by
  have hstat := hexpected.stat_join hfit hshort
  have hstat' := hout.stat_join hfit' hshort
  rw [hwant] at hstat
  rw [hgot] at hstat'
  have hfile : w.files.isFile w.cwd (outDir.join (.ofName name)) = true := by
    rw [isFile, hstat']
    rfl
  have hread : w.files.readFile w.cwd (expectedDir.join (.ofName name)) = .ok bytes := by
    rw [readFile, hstat]
    rfl
  have hread' : w.files.readFile w.cwd (outDir.join (.ofName name)) = .ok bytes := by
    rw [readFile, hstat']
    rfl
  have hsame : firstDifference bytes bytes = none := firstDifferenceFrom_self 0 bytes
  refine .bind (.ask hfile) ?_
  rw [if_pos rfl]
  refine .bind (.mapError (.reading hread) _) (.bind (.mapError (.reading hread') _) ?_)
  rw [hsame]
  exact .report _

/-- **Verifying passes** where every accepted file has an equal counterpart, and counts these files. -/
theorem verify_yields
    (hexpected : w.files.Leads w.cwd expectedDir e) (hout : w.files.Leads w.cwd outDir o)
    (hfits : ∀ name ∈ accepted w.files expectedDir e, name.isTooLong = false ∧
      requireFit (expectedDir.join (.ofName name)) = .ok () ∧
      requireFit (outDir.join (.ofName name)) = .ok ())
    (hsame : ∀ name, w.files.get? (e ++ [name]) = w.files.get? (o ++ [name])) :
    (verify expectedDir outDir : Action σ GoldenError Nat).Yields w
      (accepted w.files expectedDir e).length := by
  refine .bind (.ask hexpected.isDirectory) ?_
  rw [if_pos rfl]
  refine .bind (.mapError (.reading (goldenFiles_eq hexpected)) _) (.bind (.forM fun name hname => ?_)
    (.pure _))
  obtain ⟨hshort, hfit, hfit'⟩ := hfits name hname
  obtain ⟨⟨bytes, executable, hwant⟩, -⟩ := mem_accepted.1 hname
  exact checkFile_yields hexpected hout hfit hfit' hshort hwant ((hsame name).symm.trans hwant)

end LinkBench.Golden

namespace LinkBench

/-- The bytes of a regular file. -/
def Entry.bytes? : Entry → Option Bytes
  | .file bytes _ => some bytes
  | _ => none

namespace FileSystem

variable {fs : FileSystem} {cwd : Place} {dir path : Path} {l : Location} {name : FileName}
  {bytes : Bytes}

/-- What the regular file at a path holds, if there is one. -/
def bytesAt? (fs : FileSystem) (cwd : Place) (path : Path) : Option Bytes :=
  match fs.stat cwd path with
  | .ok e => e.bytes?
  | .error _ => none

/-- What the regular file of a name holds that stands directly in a directory, if there is one. -/
def bytesIn? (fs : FileSystem) (cwd : Place) (dir : Path) (name : FileName) : Option Bytes :=
  match fs.resolve cwd dir with
  | .ok p => if p.isLive then (fs.get? (p.base ++ [name])).bind Entry.bytes? else none
  | .error _ => none

/-- Where a regular file stands in a directory, its path is met by no other error than that of a
missing entry. -/
def Admits (fs : FileSystem) (cwd : Place) (dir : Path) : Prop :=
  ∀ name, (fs.bytesIn? cwd dir name).isSome →
    ∀ e, fs.stat cwd (dir.join (.ofName name)) = .error e → e = .notFound

theorem bytesAt?_eq_some_iff :
    fs.bytesAt? cwd path = some bytes ↔ ∃ executable, fs.stat cwd path = .ok (.file bytes executable) := by
  unfold bytesAt?
  cases fs.stat cwd path with
  | error e => simp
  | ok e => cases e <;> simp [Entry.bytes?]

theorem bytesAt?_isSome : (fs.bytesAt? cwd path).isSome = fs.isFile cwd path := by
  unfold bytesAt? isFile
  cases fs.stat cwd path with
  | error e => rfl
  | ok e => cases e <;> rfl

theorem readFile_of_bytesAt? (h : fs.bytesAt? cwd path = some bytes) :
    fs.readFile cwd path = .ok bytes := by
  obtain ⟨executable, hstat⟩ := bytesAt?_eq_some_iff.1 h
  rw [readFile, hstat]
  rfl

theorem Leads.bytesIn?_eq (h : fs.Leads cwd dir l) (name : FileName) :
    fs.bytesIn? cwd dir name = (fs.get? (l ++ [name])).bind Entry.bytes? := by
  rw [bytesIn?, h.resolve_eq]
  rfl

/-- A directory is in the tree, or it has been removed and holds nothing. -/
theorem leads_or_lost (h : fs.isDirectory cwd dir = true) :
    (∃ l, fs.Leads cwd dir l) ∨ ∃ p, fs.resolve cwd dir = .ok p ∧ p.isLive = false := by
  cases hresolve : fs.resolve cwd dir with
  | error e =>
    rw [isDirectory, stat, hresolve] at h
    cases h
  | ok p =>
    have hentry : fs.entryAt? p = some .directory := by
      rw [isDirectory, stat, hresolve] at h
      dsimp only [bind, Except.bind] at h
      cases hentry : fs.entryAt? p with
      | none =>
        rw [hentry] at h
        cases h
      | some e =>
        rw [hentry] at h
        cases e with
        | directory => rfl
        | file bytes executable => cases h
        | device d => cases h
    obtain ⟨base, lost⟩ := p
    cases lost with
    | nil => exact .inl ⟨base, leads_iff.2 ⟨hresolve, hentry⟩⟩
    | cons name lost => exact .inr ⟨_, rfl, rfl⟩

theorem Leads.fits_of_admits (h : fs.Leads cwd dir l) (hadmits : fs.Admits cwd dir)
    (hfile : (fs.bytesIn? cwd dir name).isSome) :
    requireFit (dir.join (.ofName name)) = .ok () ∧ name.isTooLong = false := by
  have herror := hadmits name hfile
  have hfit : requireFit (dir.join (.ofName name)) = .ok () := by
    cases hfit : requireFit (dir.join (.ofName name)) with
    | ok _ => rfl
    | error e =>
      have hstat : fs.stat cwd (dir.join (.ofName name)) = .error e := by
        rw [stat, resolve, hfit]
        rfl
      cases herror e hstat
      unfold requireFit at hfit
      split at hfit
      · cases hfit
      · split at hfit <;> cases hfit
  refine ⟨hfit, ?_⟩
  cases hlong : name.isTooLong with
  | false => rfl
  | true =>
    have hstep : fs.step (.ofLocation l) name.text = .error .nameTooLong := by
      simp only [step, entryAt?_ofLocation, h.directory, name.ofString?_text, hlong]
      rfl
    have hstat : fs.stat cwd (dir.join (.ofName name)) = .error .nameTooLong := by
      rw [stat, h.resolve_join_segment (q := .ofName name) rfl hfit, hstep]
      rfl
    cases herror _ hstat

theorem Leads.bytesAt?_join (h : fs.Leads cwd dir l) (hadmits : fs.Admits cwd dir)
    (hbytes : fs.bytesIn? cwd dir name = some bytes) :
    fs.bytesAt? cwd (dir.join (.ofName name)) = some bytes := by
  obtain ⟨hfit, hshort⟩ := h.fits_of_admits hadmits (Option.isSome_iff_exists.2 ⟨bytes, hbytes⟩)
  rw [h.bytesIn?_eq] at hbytes
  rw [bytesAt?, h.stat_join hfit hshort]
  cases hentry : fs.get? (l ++ [name]) with
  | none =>
    rw [hentry] at hbytes
    cases hbytes
  | some e =>
    rw [hentry] at hbytes
    exact hbytes

/-- The names of the regular files directly in a directory, in ascending order. -/
structure FilesOf (fs : FileSystem) (cwd : Place) (dir : Path) (names : List FileName) : Prop where
  sorted : names.Pairwise (· < ·)
  mem_iff : ∀ name, name ∈ names ↔ (fs.bytesIn? cwd dir name).isSome

end FileSystem

namespace Golden

open FileSystem

variable {σ : Type} {expectedDir outDir : Path} {l : Location} {name : FileName} {s : Session σ}
  {files : FileSystem} {cwd : Place} {offset n : Nat}

/-! ### The first difference of two texts -/

/-- The texts are alike before the offset, and there they differ: by a byte, or as only one of them
has ended. -/
structure FirstDifference (a b : Bytes) (offset : Nat) : Prop where
  alike : ∀ i < offset, a[i]? = b[i]?
  differ : a[offset]? ≠ b[offset]?

theorem FirstDifference.ne {a b : Bytes} (h : FirstDifference a b offset) : a ≠ b := fun heq =>
  h.differ (congrArg (fun bytes : Bytes => bytes[offset]?) heq)

theorem firstDifference_cons_succ {x : UInt8} {a b : Bytes} :
    FirstDifference (x :: a) (x :: b) (n + 1) ↔ FirstDifference a b n := by
  constructor
  · intro h
    exact ⟨fun i hi => by simpa using h.alike (i + 1) (by omega), by simpa using h.differ⟩
  · intro h
    refine ⟨fun i hi => ?_, by simpa using h.differ⟩
    cases i with
    | zero => rfl
    | succ i => simpa using h.alike i (by omega)

theorem firstDifference_zero_iff {a b : Bytes} : FirstDifference a b 0 ↔ a.head? ≠ b.head? := by
  rw [List.head?_eq_getElem?, List.head?_eq_getElem?]
  exact ⟨fun h => h.differ, fun h => ⟨nofun, h⟩⟩

theorem not_firstDifference_cons_zero {x : UInt8} {a b : Bytes} :
    ¬FirstDifference (x :: a) (x :: b) 0 := fun h => firstDifference_zero_iff.1 h rfl

/-- Texts that differ at their beginning differ nowhere earlier. -/
theorem firstDifference_iff_zero {a b : Bytes} (h : a.head? ≠ b.head?) :
    FirstDifference a b n ↔ n = 0 := by
  constructor
  · intro hfirst
    refine Nat.eq_zero_of_not_pos fun hpos => h ?_
    rw [List.head?_eq_getElem?, List.head?_eq_getElem?]
    exact hfirst.alike 0 hpos
  · rintro rfl
    exact firstDifference_zero_iff.2 h

theorem firstDifferenceFrom_eq_some_iff {a b : Bytes} {start : Nat} :
    firstDifferenceFrom start a b = some offset ↔ ∃ n, offset = start + n ∧ FirstDifference a b n := by
  induction a generalizing b start with
  | nil =>
    cases b with
    | nil =>
      refine ⟨nofun, ?_⟩
      rintro ⟨n, -, hfirst⟩
      exact absurd rfl hfirst.ne
    | cons y b =>
      have hhead : ([] : Bytes).head? ≠ (y :: b).head? := nofun
      simp [firstDifferenceFrom, firstDifference_iff_zero hhead, eq_comm]
  | cons x a ih =>
    cases b with
    | nil =>
      have hhead : (x :: a).head? ≠ ([] : Bytes).head? := nofun
      simp [firstDifferenceFrom, firstDifference_iff_zero hhead, eq_comm]
    | cons y b =>
      by_cases hxy : x = y
      · subst hxy
        rw [firstDifferenceFrom, if_pos rfl, ih]
        constructor
        · rintro ⟨n, rfl, hfirst⟩
          exact ⟨n + 1, by omega, firstDifference_cons_succ.2 hfirst⟩
        · rintro ⟨n, rfl, hfirst⟩
          cases n with
          | zero => exact absurd hfirst not_firstDifference_cons_zero
          | succ n => exact ⟨n, by omega, firstDifference_cons_succ.1 hfirst⟩
      · have hhead : (x :: a).head? ≠ (y :: b).head? := by simpa using hxy
        rw [firstDifferenceFrom, if_neg hxy]
        simp [firstDifference_iff_zero hhead, eq_comm]

theorem firstDifference_eq_some_iff {a b : Bytes} :
    firstDifference a b = some offset ↔ FirstDifference a b offset := by
  rw [firstDifference, firstDifferenceFrom_eq_some_iff]
  simp

theorem eq_of_firstDifferenceFrom_eq_none {a b : Bytes} {start : Nat}
    (h : firstDifferenceFrom start a b = none) : a = b := by
  induction a generalizing b start with
  | nil =>
    cases b with
    | nil => rfl
    | cons y b => cases h
  | cons x a ih =>
    cases b with
    | nil => cases h
    | cons y b =>
      rw [firstDifferenceFrom] at h
      split at h
      · rename_i hxy
        rw [hxy, ih h]
      · cases h

/-! ### One file -/

/-- The counterpart of an accepted file holds the same bytes. -/
def Matches (files : FileSystem) (cwd : Place) (expectedDir outDir : Path) (name : FileName) : Prop :=
  files.bytesAt? cwd (outDir.join (.ofName name)) = files.bytesIn? cwd expectedDir name

/-- What is wrong with the counterpart of an accepted file. -/
inductive Fault (files : FileSystem) (cwd : Place) (expectedDir outDir : Path) (name : FileName) :
    GoldenError → Prop
  | missing (h : files.bytesAt? cwd (outDir.join (.ofName name)) = none) :
    Fault files cwd expectedDir outDir name (.missing (outDir.join (.ofName name)))
  | mismatch {want got : Bytes} {offset : Nat}
      (hwant : files.bytesIn? cwd expectedDir name = some want)
      (hgot : files.bytesAt? cwd (outDir.join (.ofName name)) = some got)
      (h : FirstDifference want got offset) :
    Fault files cwd expectedDir outDir name
      (.mismatch (expectedDir.join (.ofName name)) (outDir.join (.ofName name)) offset)

theorem Fault.not_matches {fault : GoldenError}
    (hfile : (files.bytesIn? cwd expectedDir name).isSome)
    (h : Fault files cwd expectedDir outDir name fault) :
    ¬Matches files cwd expectedDir outDir name := by
  intro hsame
  rw [Matches] at hsame
  cases h with
  | missing hnone =>
    rw [← hsame, hnone] at hfile
    cases hfile
  | mismatch hwant hgot hfirst =>
    rw [hwant, hgot] at hsame
    exact hfirst.ne (Option.some.inj hsame).symm

/-- A file in the accepted directory passes with a report, or the fault of its counterpart is told. -/
theorem checkFile_judges (outDir : Path) (hleads : s.files.Leads s.cwd expectedDir l)
    (hadmits : s.files.Admits s.cwd expectedDir)
    (hfile : (s.files.bytesIn? s.cwd expectedDir name).isSome) :
    Matches s.files s.cwd expectedDir outDir name ∧ checkFile expectedDir outDir name s =
        (.ok (), s.report (.fileMatches (expectedDir.join (.ofName name)))) ∨
      ∃ fault, Fault s.files s.cwd expectedDir outDir name fault ∧
        checkFile expectedDir outDir name s = (.error fault, s) := by
  obtain ⟨want, hwant⟩ := Option.isSome_iff_exists.1 hfile
  have hread := readFile_of_bytesAt? (hleads.bytesAt?_join hadmits hwant)
  have hwanted : (Action.reading (σ := σ) fun files cwd =>
      files.readFile cwd (expectedDir.join (.ofName name))) s = (.ok want, s) :=
    congrArg (fun result => (result, s)) hread
  have hasked : (Action.ask (σ := σ) (ε := GoldenError) fun files cwd =>
      files.isFile cwd (outDir.join (.ofName name))) s =
        (.ok (s.files.bytesAt? s.cwd (outDir.join (.ofName name))).isSome, s) :=
    congrArg (fun found => (Except.ok found, s)) bytesAt?_isSome.symm
  rw [checkFile, Action.bind_of_ok hasked]
  cases hgot : s.files.bytesAt? s.cwd (outDir.join (.ofName name)) with
  | none => exact .inr ⟨_, .missing hgot, rfl⟩
  | some got =>
    have hgotten : (Action.reading (σ := σ) fun files cwd =>
        files.readFile cwd (outDir.join (.ofName name))) s = (.ok got, s) :=
      congrArg (fun result => (result, s)) (readFile_of_bytesAt? hgot)
    rw [Option.isSome_some, if_pos rfl, Action.bind_of_ok (Action.mapError_eq_ok_iff.2 hwanted),
      Action.bind_of_ok (Action.mapError_eq_ok_iff.2 hgotten)]
    cases hfirst : firstDifference want got with
    | none =>
      refine .inl ⟨?_, rfl⟩
      rw [Matches, hwant, hgot, eq_of_firstDifferenceFrom_eq_none hfirst]
    | some offset =>
      exact .inr ⟨_, .mismatch hwant hgot (firstDifference_eq_some_iff.1 hfirst), rfl⟩

/-! ### All files -/

/-- How the check of a list of files ends: at the first one that something is wrong with. -/
inductive AllJudged (files : FileSystem) (cwd : Place) (expectedDir outDir : Path)
    (names : List FileName) : Except GoldenError Unit → Prop
  | passed (h : ∀ name ∈ names, Matches files cwd expectedDir outDir name) :
    AllJudged files cwd expectedDir outDir names (.ok ())
  | failed {before after : List FileName} {name : FileName} {fault : GoldenError}
      (hnames : names = before ++ name :: after)
      (hbefore : ∀ earlier ∈ before, Matches files cwd expectedDir outDir earlier)
      (h : Fault files cwd expectedDir outDir name fault) :
    AllJudged files cwd expectedDir outDir names (.error fault)

theorem AllJudged.cons {names : List FileName} {result : Except GoldenError Unit}
    (hfirst : Matches files cwd expectedDir outDir name)
    (h : AllJudged files cwd expectedDir outDir names result) :
    AllJudged files cwd expectedDir outDir (name :: names) result := by
  cases h with
  | passed hall => exact .passed (List.forall_mem_cons.2 ⟨hfirst, hall⟩)
  | failed hnames hbefore hfault =>
    exact .failed (congrArg (name :: ·) hnames) (List.forall_mem_cons.2 ⟨hfirst, hbefore⟩) hfault

/-- The files that are left to judge stay what they are, as each check only adds to the log. -/
theorem checkFiles_judge (outDir : Path) {names : List FileName}
    (hleads : s.files.Leads s.cwd expectedDir l)
    (hadmits : s.files.Admits s.cwd expectedDir)
    (hfiles : ∀ name ∈ names, (s.files.bytesIn? s.cwd expectedDir name).isSome) :
    ∃ result events, AllJudged s.files s.cwd expectedDir outDir names result ∧
      names.forM (checkFile expectedDir outDir) s =
        (result, { s with events := s.events ++ events }) := by
  induction names generalizing s with
  | nil =>
    refine ⟨.ok (), [], .passed nofun, ?_⟩
    rw [List.append_nil]
    rfl
  | cons name names ih =>
    obtain ⟨hfirst, hrest⟩ := List.forall_mem_cons.1 hfiles
    have hsplit : (name :: names).forM (checkFile expectedDir outDir) s =
      (checkFile expectedDir outDir name >>= fun _ => names.forM (checkFile expectedDir outDir)) s := rfl
    obtain ⟨hsame, hrun⟩ | ⟨fault, hfault, hrun⟩ :=
      checkFile_judges outDir hleads hadmits hfirst
    · obtain ⟨result, events, hall, hrun'⟩ :=
        ih (s := s.report (.fileMatches (expectedDir.join (.ofName name)))) hleads hadmits hrest
      refine ⟨result, .fileMatches (expectedDir.join (.ofName name)) :: events, hall.cons hsame, ?_⟩
      rw [hsplit, Action.bind_of_ok hrun, hrun', Session.report, List.append_assoc]
      rfl
    · have hparts : name :: names = [] ++ name :: names := rfl
      refine ⟨.error fault, [], .failed hparts nofun hfault, ?_⟩
      rw [hsplit, Action.bind_of_error hrun, List.append_nil]

/-! ### The verdict -/

theorem accepted_sorted (files : FileSystem) (dir : Path) (l : Location) :
    (accepted files dir l).Pairwise (· < ·) :=
  List.pairwise_map.2 ((children_sorted files l).filter _)

theorem goldenFiles_of_leads (hleads : files.Leads cwd expectedDir l)
    (hadmits : files.Admits cwd expectedDir) :
    ∃ names, goldenFiles files cwd expectedDir = .ok names ∧ files.FilesOf cwd expectedDir names := by
  refine ⟨_, goldenFiles_eq hleads, accepted_sorted _ _ _, fun name => ?_⟩
  rw [mem_accepted]
  constructor
  · rintro ⟨⟨bytes, executable, hentry⟩, -⟩
    rw [hleads.bytesIn?_eq, hentry]
    rfl
  · intro hfile
    obtain ⟨hfit, -⟩ := hleads.fits_of_admits hadmits hfile
    refine ⟨?_, (requireFit_eq_ok_iff.1 hfit).2⟩
    rw [hleads.bytesIn?_eq] at hfile
    cases hentry : files.get? (l ++ [name]) with
    | none =>
      rw [hentry] at hfile
      cases hfile
    | some e =>
      rw [hentry] at hfile
      cases e with
      | file bytes executable => exact ⟨bytes, executable, rfl⟩
      | directory => cases hfile
      | device d => cases hfile

/-- A directory that has been removed holds no files. -/
theorem goldenFiles_of_lost {p : Place} (hresolve : files.resolve cwd expectedDir = .ok p)
    (hlost : p.isLive = false) :
    goldenFiles files cwd expectedDir = .ok [] ∧ files.FilesOf cwd expectedDir [] := by
  refine ⟨?_, .nil, fun name => ?_⟩
  · simp [goldenFiles, listDirectory, readDirectory, hresolve, entryAt?, hlost, bind, Except.bind,
      pure, Except.pure]
  · simp [bytesIn?, hresolve, hlost]

/-- How verifying ends where the accepted files are listed. -/
theorem verify_of_goldenFiles {names : List FileName} {result : Except GoldenError Unit}
    {events : List Event} (hdir : s.isDirectory expectedDir = true)
    (hnames : goldenFiles s.files s.cwd expectedDir = .ok names)
    (hrun : names.forM (checkFile expectedDir outDir) s =
      (result, { s with events := s.events ++ events })) :
    verify expectedDir outDir s =
      (result.map fun _ => names.length, { s with events := s.events ++ events }) := by
  have hasked : (Action.ask (σ := σ) (ε := GoldenError) fun files cwd =>
      files.isDirectory cwd expectedDir) s = (.ok true, s) :=
    congrArg (fun found => (Except.ok found, s)) hdir
  have hlisted : (Action.reading (σ := σ) fun files cwd => goldenFiles files cwd expectedDir) s =
      (.ok names, s) :=
    congrArg (fun result => (result, s)) hnames
  rw [verify, Action.bind_of_ok hasked, if_pos rfl,
    Action.bind_of_ok (Action.mapError_eq_ok_iff.2 hlisted), Action.bind_apply, hrun]
  cases result <;> rfl

theorem verify_of_isDirectory (outDir : Path) (hdir : s.isDirectory expectedDir = true)
    (hadmits : s.files.Admits s.cwd expectedDir) :
    ∃ names result events, s.files.FilesOf s.cwd expectedDir names ∧
      AllJudged s.files s.cwd expectedDir outDir names result ∧
      verify expectedDir outDir s =
        (result.map fun _ => names.length, { s with events := s.events ++ events }) := by
  obtain ⟨l, hleads⟩ | ⟨p, hresolve, hlost⟩ := leads_or_lost hdir
  · obtain ⟨names, hnames, hfiles⟩ := goldenFiles_of_leads hleads hadmits
    obtain ⟨result, events, hjudged, hrun⟩ := checkFiles_judge outDir hleads hadmits
      fun name => (hfiles.mem_iff name).1
    exact ⟨names, result, events, hfiles, hjudged, verify_of_goldenFiles hdir hnames hrun⟩
  · obtain ⟨hnames, hfiles⟩ := goldenFiles_of_lost hresolve hlost
    have hrun : ([] : List FileName).forM (checkFile expectedDir outDir) s =
        (.ok (), { s with events := s.events ++ [] }) := by
      rw [List.append_nil]
      rfl
    exact ⟨[], .ok (), [], hfiles, .passed nofun, verify_of_goldenFiles hdir hnames hrun⟩

/-- A list passes as a whole if nothing is wrong with any of its files. -/
theorem AllJudged.eq_ok_iff {names : List FileName} {result : Except GoldenError Unit}
    (h : AllJudged files cwd expectedDir outDir names result)
    (hfiles : ∀ name ∈ names, (files.bytesIn? cwd expectedDir name).isSome) :
    result = .ok () ↔ ∀ name ∈ names, Matches files cwd expectedDir outDir name := by
  cases h with
  | passed hall => exact ⟨fun _ => hall, fun _ => rfl⟩
  | failed hnames hbefore hfault =>
    refine ⟨nofun, fun hall => ?_⟩
    have hmem := hnames ▸ List.mem_append_right _ List.mem_cons_self
    exact absurd (hall _ hmem) (hfault.not_matches (hfiles _ hmem))

/-- In a sorted list, the names in front of a name are those below it. -/
theorem mem_of_lt_of_sorted {before after names : List FileName} {earlier : FileName}
    (hsorted : names.Pairwise (· < ·)) (hnames : names = before ++ name :: after)
    (hmem : earlier ∈ names) (hlt : earlier < name) : earlier ∈ before := by
  rw [hnames] at hsorted hmem
  obtain ⟨-, hlater, -⟩ := List.pairwise_append.1 hsorted
  obtain hbefore | hrest := List.mem_append.1 hmem
  · exact hbefore
  · obtain rfl | hafter := List.mem_cons.1 hrest
    · exact absurd hlt (String.lt_irrefl _)
    · exact absurd ((List.pairwise_cons.1 hlater).1 earlier hafter) (String.lt_asymm hlt)

/-- **Verifying is exact and only reads.** It complains of the accepted directory exactly if that is
none. Otherwise it passes, with the number of files, exactly if the regular files directly in the accepted
directory all have a counterpart of the same bytes; and if not, it tells what is wrong with the first one
of those that have none. Nothing but the log is changed in any case. -/
theorem verify_judges (expectedDir outDir : Path) (hadmits : s.files.Admits s.cwd expectedDir) :
    ∃ result events,
      verify expectedDir outDir s = (result, { s with events := s.events ++ events }) ∧
      (result = .error (.missingGoldenDir expectedDir) ↔ s.isDirectory expectedDir = false) ∧
      (s.isDirectory expectedDir = true → ∃ names, s.files.FilesOf s.cwd expectedDir names ∧
        (∀ n, result = .ok n ↔
          n = names.length ∧ ∀ name ∈ names, Matches s.files s.cwd expectedDir outDir name) ∧
        ((∃ n, result = .ok n) ∨ ∃ name ∈ names, ¬Matches s.files s.cwd expectedDir outDir name ∧
          (∀ earlier ∈ names, earlier < name → Matches s.files s.cwd expectedDir outDir earlier) ∧
          ∃ fault, Fault s.files s.cwd expectedDir outDir name fault ∧ result = .error fault)) := by
  cases hdir : s.isDirectory expectedDir with
  | false =>
    have hasked : (Action.ask (σ := σ) (ε := GoldenError) fun files cwd =>
        files.isDirectory cwd expectedDir) s = (.ok false, s) :=
      congrArg (fun found => (Except.ok found, s)) hdir
    refine ⟨.error (.missingGoldenDir expectedDir), [], ?_, iff_of_true rfl rfl, nofun⟩
    rw [verify, Action.bind_of_ok hasked, List.append_nil]
    rfl
  | true =>
    obtain ⟨names, judged, events, hfiles, hjudged, hrun⟩ :=
      verify_of_isDirectory outDir hdir hadmits
    have hall := hjudged.eq_ok_iff fun name => (hfiles.mem_iff name).1
    refine ⟨_, events, hrun, ?_, fun _ => ⟨names, hfiles, fun n => ?_, ?_⟩⟩
    · refine iff_of_false (fun heq => ?_) nofun
      cases hjudged with
      | passed _ => cases heq
      | failed _ _ hfault => cases hfault <;> cases heq
    · rw [← hall]
      cases judged with
      | ok _ => exact ⟨fun h => ⟨(Except.ok.inj h).symm, rfl⟩, fun ⟨h, _⟩ => h ▸ rfl⟩
      | error e => exact ⟨nofun, fun ⟨_, h⟩ => nomatch h⟩
    · cases hjudged with
      | passed _ => exact .inl ⟨names.length, rfl⟩
      | failed hnames hbefore hfault =>
        have hmem := hnames ▸ List.mem_append_right _ List.mem_cons_self
        refine .inr ⟨_, hmem, hfault.not_matches ((hfiles.mem_iff _).1 hmem), fun earlier hearlier hlt => ?_,
          _, hfault, rfl⟩
        exact hbefore earlier (mem_of_lt_of_sorted hfiles.sorted hnames hearlier hlt)

/-- Three accepted files: the first has an equal counterpart, the second a shorter one, and that of the
third is missing. A directory among the accepted files and a further output do not matter. -/
theorem verify_judges_shortened_output :
    let a : FileName := ⟨"a", by decide⟩
    let b : FileName := ⟨"b", by decide⟩
    let c : FileName := ⟨"c", by decide⟩
    let d : FileName := ⟨"d", by decide⟩
    let accepted : FileName := ⟨"expected", by decide⟩
    let fresh : FileName := ⟨"_out", by decide⟩
    let files := ((((((((FileSystem.empty.put [accepted] .directory).put [fresh] .directory).put
      [accepted, a] (.file [1] false)).put [fresh, a] (.file [1] true)).put
      [accepted, b] (.file [1, 2] false)).put [fresh, b] (.file [1] false)).put
      [accepted, c] (.file [] false)).put [accepted, d] .directory).put [fresh, d] (.file [] false)
    let s : Session Unit := .start ⟨files, .root⟩ ()
    s.files.Admits s.cwd (.ofName accepted) ∧
      ∃ events names, verify (.ofName accepted) (.ofName fresh) s =
          (.error (.mismatch (.ofString "expected/b") (.ofString "_out/b") 1),
            { s with events := s.events ++ events }) ∧
        s.files.FilesOf s.cwd (.ofName accepted) names ∧
        ∃ name ∈ names, ∀ earlier ∈ names, earlier < name →
          Matches s.files s.cwd (.ofName accepted) (.ofName fresh) earlier := by
  intro a b c d accepted fresh files s
  have hleads : s.files.Leads s.cwd (.ofName accepted) [accepted] := leads_iff.2 (by decide +kernel)
  have hchildren : s.files.children [accepted] =
      [(a, .file [1] false), (b, .file [1, 2] false), (c, .file [] false), (d, .directory)] := by
    decide +kernel
  have hadmits : s.files.Admits s.cwd (.ofName accepted) := by
    intro name hfile
    rw [hleads.bytesIn?_eq] at hfile
    cases hentry : s.files.get? ([accepted] ++ [name]) with
    | none =>
      rw [hentry] at hfile
      cases hfile
    | some entry =>
      have hmem := List.mem_map_of_mem (f := Prod.fst) (mem_children.2 hentry)
      rw [hchildren] at hmem
      have hfits : ∀ name ∈ [a, b, c, d],
          requireFit ((Path.ofName accepted).join (.ofName name)) = .ok () ∧ name.isTooLong = false := by
        decide +kernel
      obtain ⟨hfit, hshort⟩ := hfits name hmem
      rw [hleads.stat_join hfit hshort, hentry]
      exact nofun
  obtain ⟨result, events, hrun, -, hverdict⟩ := verify_judges (.ofName accepted) (.ofName fresh) hadmits
  have hresult : (verify (.ofName accepted) (.ofName fresh) s).1 =
      .error (.mismatch (.ofString "expected/b") (.ofString "_out/b") 1) := by
    decide +kernel
  rw [hrun] at hresult
  change result = _ at hresult
  obtain ⟨names, hfiles, -, ⟨n, hok⟩ | ⟨name, hname, -, hearlier, -⟩⟩ := hverdict (by decide +kernel)
  · rw [hok] at hresult
    cases hresult
  · exact ⟨hadmits, events, names, by rw [hrun, hresult], hfiles, name, hname, hearlier⟩

end Golden

end LinkBench
