import LinkBench.FileSystem.Operations

/-!
# Where paths lead

A path that leads to a directory can be prolonged by a name: `Leads.resolve_join` and
`Leads.resolveParent_join` say where the longer path leads, and the operations on such a path are
told from what stands at its location. Nothing is assumed of how the shorter path is written; it may
go up and down, and its way need not lead through directories that have names. But each name on the way
is an entry of its own, which anybody may search: trees have neither links nor access rights.
-/

namespace LinkBench

theorem bind_eq_ok_iff {α β ε : Type} {x : Except ε α} {f : α → Except ε β} {b : β} :
    x >>= f = .ok b ↔ ∃ a, x = .ok a ∧ f a = .ok b := by
  cases x <;> simp [bind, Except.bind]

namespace Path

theorem join_of_isAbsolute {p q : Path} (h : q.isAbsolute = true) : p.join q = q := by
  rw [join, if_pos h]

theorem segments_join {p q : Path} (h : q.isAbsolute = false) :
    (p.join q).segments = p.stem ++ q.segments := by
  unfold join
  rw [if_neg (by rw [h]; exact Bool.false_ne_true)]

@[simp] theorem isAbsolute_ofName (name : FileName) : (ofName name).isAbsolute = false := by
  simp [isAbsolute, ofName]

theorem segments_join_ofName (p : Path) (name : FileName) :
    (p.join (ofName name)).segments = p.stem ++ [name.text] :=
  segments_join (isAbsolute_ofName name)

theorem stem_join_ofName (p : Path) (name : FileName) :
    (p.join (ofName name)).stem = p.stem ++ [name.text] := by
  have hlast : (p.join (ofName name)).segments.getLast (p.join (ofName name)).ne_nil = name.text := by
    simp [segments_join_ofName]
  rw [stem, if_neg (by rw [hlast]; exact name.valid.1), segments_join_ofName]

theorem isAbsolute_eq_true_iff {p : Path} :
    p.isAbsolute = true ↔ ∃ s rest, p.segments = "" :: s :: rest := by
  unfold isAbsolute
  split
  · rename_i s rest hsegments
    exact ⟨fun _ => ⟨s, rest, hsegments⟩, fun _ => rfl⟩
  · rename_i hother
    exact ⟨fun h => absurd h Bool.false_ne_true, fun ⟨s, rest, h⟩ => absurd h (hother s rest)⟩

theorem isEmpty_eq_true_iff {p : Path} : p.isEmpty = true ↔ p.segments = [""] := by
  simp [isEmpty]

theorem stem_eq_or (p : Path) : p.segments = p.stem ∨ p.segments = p.stem ++ [""] := by
  unfold stem
  split
  · rename_i hlast
    refine .inr ?_
    rw [← hlast, List.dropLast_concat_getLast]
  · exact .inl rfl

theorem isAbsolute_join {p q : Path} (hp : p.isEmpty = false) (hq : q.isAbsolute = false) :
    (p.join q).isAbsolute = p.isAbsolute := by
  have hne : p.segments ≠ [""] := fun heq => by simp [isEmpty, heq] at hp
  obtain ⟨t, ts, hsegments⟩ := List.exists_cons_of_ne_nil q.ne_nil
  rw [Bool.eq_iff_iff, isAbsolute_eq_true_iff, isAbsolute_eq_true_iff, segments_join hq, hsegments]
  have hnil := p.ne_nil
  obtain hstem | hstem := p.stem_eq_or <;> rw [hstem] at hne hnil ⊢ <;> revert hne hnil
  · cases p.stem with
    | nil => simp
    | cons s rest => cases rest <;> simp
  · cases p.stem with
    | nil => simp
    | cons s rest => cases rest <;> simp

theorem isAbsolute_join_ofName {p : Path} (h : p.isEmpty = false) (name : FileName) :
    (p.join (ofName name)).isAbsolute = p.isAbsolute :=
  isAbsolute_join h (isAbsolute_ofName name)

theorem isEmpty_join_ofName (p : Path) (name : FileName) :
    (p.join (ofName name)).isEmpty = false := by
  rw [Bool.eq_false_iff]
  intro h
  have hlast := congrArg List.getLast? (isEmpty_eq_true_iff.1 h)
  rw [segments_join_ofName, List.getLast?_append, List.getLast?_singleton] at hlast
  exact name.valid.1 (Option.some.inj hlast)

theorem stem_join {p q : Path} (h : q.isAbsolute = false) : (p.join q).stem = p.stem ++ q.stem := by
  have hlast : (p.join q).segments.getLast (p.join q).ne_nil = q.segments.getLast q.ne_nil := by
    simp only [segments_join h, List.getLast_append_of_ne_nil _ q.ne_nil]
  unfold stem
  rw [hlast, segments_join h]
  split
  · rw [List.dropLast_append_of_ne_nil q.ne_nil]
    rfl
  · rfl

theorem isAbsolute_of_isEmpty {p : Path} (h : p.isEmpty = true) : p.isAbsolute = false := by
  simp [isAbsolute, isEmpty_eq_true_iff.1 h]

/-- Joining is associative where the last path is relative. -/
theorem join_join (p q : Path) {r : Path} (hr : r.isAbsolute = false) :
    p.join (q.join r) = (p.join q).join r := by
  by_cases habsolute : q.isAbsolute
  · have hne : q.isEmpty = false := by
      rw [Bool.eq_false_iff]
      intro h
      rw [isAbsolute_of_isEmpty h] at habsolute
      cases habsolute
    rw [join_of_isAbsolute habsolute, join_of_isAbsolute]
    rw [isAbsolute_join hne hr, habsolute]
  · have hrelative : q.isAbsolute = false := by simpa using habsolute
    have hlong : (q.join r).isAbsolute = false := by
      by_cases hempty : q.isEmpty
      · have hstem : q.stem = [] := by
          simp [stem, isEmpty_eq_true_iff.1 hempty]
        have hsame : q.join r = r := ext_segments (by rw [segments_join hr, hstem, List.nil_append])
        rw [hsame, hr]
      · rw [isAbsolute_join (by simpa using hempty) hr, hrelative]
    refine ext_segments ?_
    rw [segments_join hlong, segments_join hr, segments_join hr, stem_join hrelative,
      List.append_assoc]

theorem isAbsolute_of_singleton {p : Path} {s : String} (h : p.segments = [s]) :
    p.isAbsolute = false := by
  rw [Bool.eq_false_iff, Ne, isAbsolute_eq_true_iff, h]
  simp

end Path

namespace FileName

theorem ofString?_text (name : FileName) : ofString? name.text = some name := by
  rw [ofString?, dif_pos name.valid]

theorem ofString?_empty : ofString? "" = none := by
  rw [ofString?, dif_neg (fun h => h.1 rfl)]

end FileName

namespace FileSystem

variable {fs gs : FileSystem} {cwd p q r : Place} {path : Path} {l : Location} {name : FileName}
  {segment : String} {xs ys : List String} {n : Nat}

@[simp] theorem entryAt?_ofLocation (fs : FileSystem) (l : Location) :
    fs.entryAt? (.ofLocation l) = fs.get? l := rfl

/-- A step leads from a directory to a name in it, to the directory above it, or nowhere else. -/
theorem step_eq_ok_iff : fs.step p segment = .ok q ↔ fs.entryAt? p = some .directory ∧
    ((∃ name, FileName.ofString? segment = some name ∧ p.isLive = true ∧ name.isTooLong = false ∧
        q = .ofLocation (p.base ++ [name])) ∨
      (FileName.ofString? segment = none ∧ q = if segment = ".." then p.parent else p)) := by
  rw [step]
  cases hentry : fs.entryAt? p with
  | none => simp
  | some e =>
    cases e with
    | file bytes executable => simp
    | device d => simp
    | directory =>
      cases hname : FileName.ofString? segment with
      | none => simp [@eq_comm Place q]
      | some name =>
        cases hlive : p.isLive <;> cases hlong : name.isTooLong <;>
          simp [Place.ofLocation, @eq_comm Place q, hlong]

theorem step_name (hdir : fs.get? l = some .directory) (hshort : name.isTooLong = false) :
    fs.step (.ofLocation l) name.text = .ok (.ofLocation (l ++ [name])) :=
  step_eq_ok_iff.2 ⟨hdir, .inl ⟨name, name.ofString?_text, rfl, hshort, rfl⟩⟩

theorem step_empty (hdir : fs.entryAt? p = some .directory) : fs.step p "" = .ok p :=
  step_eq_ok_iff.2 ⟨hdir, .inr ⟨FileName.ofString?_empty, rfl⟩⟩

/-- What a step comes to depends only on what stands where it begins. -/
theorem step_congr (h : fs.entryAt? p = gs.entryAt? p) (segment : String) :
    fs.step p segment = gs.step p segment := by
  rw [step, step, h]

theorem walk_cons (fs : FileSystem) (p : Place) (segment : String) (xs : List String) :
    fs.walk p (segment :: xs) = (fs.step p segment).bind fun q => fs.walk q xs := by
  rw [walk]
  cases fs.step p segment <;> rfl

theorem walk_append (fs : FileSystem) (p : Place) (xs ys : List String) :
    fs.walk p (xs ++ ys) = (fs.walk p xs).bind fun q => fs.walk q ys := by
  induction xs generalizing p with
  | nil => rfl
  | cons x xs ih =>
    rw [List.cons_append, walk_cons, walk_cons]
    cases fs.step p x with
    | error e => rfl
    | ok q => exact ih q

theorem walk_cons_eq_ok_iff : fs.walk p (segment :: xs) = .ok r ↔
    ∃ q, fs.step p segment = .ok q ∧ fs.walk q xs = .ok r := by
  rw [walk_cons]
  cases fs.step p segment <;> simp [Except.bind]

theorem walk_append_eq_ok_iff : fs.walk p (xs ++ ys) = .ok r ↔
    ∃ q, fs.walk p xs = .ok q ∧ fs.walk q ys = .ok r := by
  rw [walk_append]
  cases fs.walk p xs <;> simp [Except.bind]

theorem walk_singleton (fs : FileSystem) (p : Place) (segment : String) :
    fs.walk p [segment] = fs.step p segment := by
  rw [walk_cons]
  cases fs.step p segment <;> rfl

/-! ### Paths to directories -/

/-- The path leads to a directory that is in the tree. -/
structure Leads (fs : FileSystem) (cwd : Place) (path : Path) (l : Location) : Prop where
  fit : requireFit path = .ok ()
  nonempty : path.isEmpty = false
  walk_eq : fs.walk (origin cwd path) path.segments = .ok (.ofLocation l)
  directory : fs.get? l = some .directory

theorem requireFit_eq_ok_iff :
    requireFit path = .ok () ↔ path.holdsNul = false ∧ path.isTooLong = false := by
  unfold requireFit
  cases path.holdsNul <;> cases path.isTooLong <;> simp

theorem resolve_of_fit (fs : FileSystem) (cwd : Place) (hfit : requireFit path = .ok ())
    (hempty : path.isEmpty = false) :
    fs.resolve cwd path = fs.walk (origin cwd path) path.segments := by
  rw [resolve, hfit, hempty]
  rfl

theorem resolve_eq_ok_iff : fs.resolve cwd path = .ok p ↔ requireFit path = .ok () ∧
    path.isEmpty = false ∧ fs.walk (origin cwd path) path.segments = .ok p := by
  unfold resolve
  cases hfit : requireFit path with
  | error e => simp [bind, Except.bind]
  | ok u =>
    cases hempty : path.isEmpty <;> simp [bind, Except.bind]

theorem leads_iff : fs.Leads cwd path l ↔
    fs.resolve cwd path = .ok (.ofLocation l) ∧ fs.get? l = some .directory := by
  rw [resolve_eq_ok_iff]
  exact ⟨fun h => ⟨⟨h.fit, h.nonempty, h.walk_eq⟩, h.directory⟩,
    fun ⟨⟨hfit, hempty, hwalk⟩, hdir⟩ => ⟨hfit, hempty, hwalk, hdir⟩⟩

theorem Leads.resolve_eq (h : fs.Leads cwd path l) : fs.resolve cwd path = .ok (.ofLocation l) :=
  (leads_iff.1 h).1

theorem Leads.isDirectory (h : fs.Leads cwd path l) : fs.isDirectory cwd path = true := by
  simp [FileSystem.isDirectory, stat, h.resolve_eq, h.directory, bind, Except.bind,
    Entry.isDirectory]

theorem walk_stem (h : fs.walk p path.segments = .ok q) : fs.walk p path.stem = .ok q := by
  obtain hstem | hstem := path.stem_eq_or
  · rwa [hstem] at h
  · rw [hstem, walk_append_eq_ok_iff] at h
    obtain ⟨r, hr, hstep⟩ := h
    rw [walk_singleton, step_eq_ok_iff, FileName.ofString?_empty] at hstep
    obtain ⟨-, ⟨name, hname, -⟩ | ⟨-, rfl⟩⟩ := hstep
    · cases hname
    · exact hr

theorem Leads.walk_stem (h : fs.Leads cwd path l) :
    fs.walk (origin cwd path) path.stem = .ok (.ofLocation l) :=
  FileSystem.walk_stem h.walk_eq

theorem Leads.readDirectory_eq (h : fs.Leads cwd path l) :
    fs.readDirectory cwd path = .ok (fs.children l) := by
  rw [readDirectory, h.resolve_eq]
  dsimp only [bind, Except.bind]
  rw [entryAt?_ofLocation, h.directory]
  rfl

theorem Leads.listDirectory_eq (h : fs.Leads cwd path l) :
    fs.listDirectory cwd path =
      .ok ((fs.children l).filter fun x => !(path.join (.ofName x.1)).isTooLong) := by
  rw [listDirectory, h.readDirectory_eq]
  rfl

theorem origin_join_ofName (cwd : Place) (h : path.isEmpty = false) (name : FileName) :
    origin cwd (path.join (.ofName name)) = origin cwd path := by
  rw [origin, origin, Path.isAbsolute_join_ofName h]

/-! ### Paths that end with a name -/

/-- The segments in front of the last name, dot or double dot. -/
def way (path : Path) : List String :=
  ((path.segments.reverse.dropWhile (· == "")).reverse).dropLast

theorem resolveParent_eq (fs : FileSystem) (cwd : Place) (path : Path) :
    fs.resolveParent cwd path = (requireFit path).bind fun _ =>
      if path.isEmpty then .error .notFound
      else (fs.walk (origin cwd path) (way path)).bind fun parent =>
        match fs.entryAt? parent with
        | some .directory => .ok (parent, ending path)
        | some _ => .error .notADirectory
        | none => .error .notFound := rfl

theorem resolveParent_eq_ok_iff {e : Ending} : fs.resolveParent cwd path = .ok (p, e) ↔
    requireFit path = .ok () ∧ path.isEmpty = false ∧
      fs.walk (origin cwd path) (way path) = .ok p ∧ fs.entryAt? p = some .directory ∧
      ending path = e := by
  rw [resolveParent_eq]
  cases requireFit path with
  | error _ => simp [Except.bind]
  | ok _ =>
    cases path.isEmpty with
    | true => simp [Except.bind]
    | false =>
      cases fs.walk (origin cwd path) (way path) with
      | error _ => simp [Except.bind]
      | ok parent =>
        simp only [Except.bind, Bool.false_eq_true, if_false, true_and, Except.ok.injEq]
        constructor
        · intro h
          split at h <;> cases h
          exact ⟨rfl, ‹_›, rfl⟩
        · rintro ⟨rfl, hdir, rfl⟩
          rw [hdir]

theorem reverse_segments_join_ofName (path : Path) (name : FileName) :
    (path.join (.ofName name)).segments.reverse.dropWhile (· == "") = name.text :: path.stem.reverse := by
  rw [Path.segments_join_ofName, List.reverse_append, List.reverse_singleton, List.singleton_append,
    List.dropWhile_cons_of_neg (by simpa using name.valid.1)]

theorem way_join_ofName (path : Path) (name : FileName) :
    way (path.join (.ofName name)) = path.stem := by
  rw [way, reverse_segments_join_ofName, List.reverse_cons, List.reverse_reverse, List.dropLast_concat]

theorem ending_join_ofName (path : Path) (name : FileName) :
    ending (path.join (.ofName name)) = .name name := by
  rw [ending, reverse_segments_join_ofName]
  simp only [name.ofString?_text]

section Join

variable (h : fs.Leads cwd path l) (hfit : requireFit (path.join (.ofName name)) = .ok ())
  (hshort : name.isTooLong = false)

include h hfit hshort

theorem Leads.resolve_join :
    fs.resolve cwd (path.join (.ofName name)) = .ok (.ofLocation (l ++ [name])) := by
  rw [resolve_of_fit fs cwd hfit (Path.isEmpty_join_ofName path name),
    origin_join_ofName cwd h.nonempty, Path.segments_join_ofName, walk_append, h.walk_stem]
  exact (walk_singleton fs _ _).trans (step_name h.directory hshort)

theorem Leads.join (hdir : fs.get? (l ++ [name]) = some .directory) :
    fs.Leads cwd (path.join (.ofName name)) (l ++ [name]) :=
  leads_iff.2 ⟨h.resolve_join hfit hshort, hdir⟩

theorem Leads.stat_join : fs.stat cwd (path.join (.ofName name)) =
    match fs.get? (l ++ [name]) with
    | some e => .ok e
    | none => .error .notFound := by
  rw [stat, h.resolve_join hfit hshort]
  rfl

omit hshort in
theorem Leads.resolveParent_join :
    fs.resolveParent cwd (path.join (.ofName name)) = .ok (.ofLocation l, .name name) := by
  refine resolveParent_eq_ok_iff.2 ⟨hfit, Path.isEmpty_join_ofName path name, ?_, h.directory,
    ending_join_ofName path name⟩
  rw [origin_join_ofName cwd h.nonempty, way_join_ofName]
  exact h.walk_stem

end Join

theorem Leads.resolve_join_segment {q : Path} (h : fs.Leads cwd path l) (hq : q.segments = [segment])
    (hfit : requireFit (path.join q) = .ok ()) :
    fs.resolve cwd (path.join q) = fs.step (.ofLocation l) segment := by
  have hrelative := Path.isAbsolute_of_singleton hq
  have hnonempty : (path.join q).isEmpty = false := by
    rw [Bool.eq_false_iff]
    intro hempty
    have hsegments := Path.isEmpty_eq_true_iff.1 hempty
    rw [Path.segments_join hrelative, hq, ← List.nil_append [""]] at hsegments
    have hstem := (List.append_inj' hsegments rfl).1
    have hwalk := h.nonempty
    obtain hwhole | hwhole := path.stem_eq_or <;> rw [hstem] at hwhole
    · exact path.ne_nil hwhole
    · rw [Path.isEmpty_eq_true_iff.2 hwhole] at hwalk
      cases hwalk
  rw [resolve_of_fit fs cwd hfit hnonempty, origin, Path.isAbsolute_join h.nonempty hrelative, ← origin,
    Path.segments_join hrelative, hq, walk_append, h.walk_stem]
  exact walk_singleton fs _ _

/-- Two trees that show the same in a directory show the same at a path of one more segment. -/
theorem isFile_join_congr {cwd' : Place} {q : Path} (hfs : fs.Leads cwd path l)
    (hgs : gs.Leads cwd' path l) (hq : q.segments = [segment])
    (habove : fs.get? l.dropLast = gs.get? l.dropLast)
    (hin : ∀ name, fs.get? (l ++ [name]) = gs.get? (l ++ [name])) :
    fs.isFile cwd (path.join q) = gs.isFile cwd' (path.join q) := by
  have hstat : fs.stat cwd (path.join q) = gs.stat cwd' (path.join q) := by
    cases hfit : requireFit (path.join q) with
    | error e => rw [stat, stat, resolve, resolve, hfit]; rfl
    | ok _ =>
      have hdir : fs.entryAt? (.ofLocation l) = gs.entryAt? (.ofLocation l) :=
        hfs.directory.trans hgs.directory.symm
      rw [stat, stat, hfs.resolve_join_segment hq hfit, hgs.resolve_join_segment hq hfit,
        ← step_congr hdir segment]
      cases hstep : fs.step (.ofLocation l) segment with
      | error e => rfl
      | ok p =>
        have hentry : fs.entryAt? p = gs.entryAt? p := by
          obtain ⟨-, ⟨name, -, -, -, rfl⟩ | ⟨-, rfl⟩⟩ := step_eq_ok_iff.1 hstep
          · exact hin name
          · split
            · exact habove
            · exact hdir
        simp only [bind, Except.bind, hentry]
  rw [isFile, isFile, hstat]

theorem nameIn_ofLocation (l : Location) (hshort : name.isTooLong = false) :
    nameIn (.ofLocation l) name = .ok (l ++ [name]) := by
  rw [nameIn, hshort]
  rfl

theorem nameIn_eq_ok_iff : nameIn p name = .ok l ↔
    ∃ d, p = .ofLocation d ∧ name.isTooLong = false ∧ l = d ++ [name] := by
  obtain ⟨base, lost⟩ := p
  cases lost with
  | nil =>
    cases hlong : name.isTooLong <;>
      simp [nameIn, Place.isLive, Place.ofLocation, hlong, @eq_comm _ l]
  | cons x lost => simp [nameIn, Place.isLive, Place.ofLocation]

/-- The path calls a location by the name that an entry there has in its directory. -/
def Names (fs : FileSystem) (cwd : Place) (path : Path) (l : Location) : Prop :=
  ∃ d name, fs.resolveParent cwd path = .ok (.ofLocation d, .name name) ∧
    nameIn (.ofLocation d) name = .ok l

theorem Names.eq_concat (h : fs.Names cwd path l) : ∃ d name, l = d ++ [name] := by
  obtain ⟨d, name, -, hname⟩ := h
  obtain ⟨d', -, -, rfl⟩ := nameIn_eq_ok_iff.1 hname
  exact ⟨d', name, rfl⟩

theorem Names.ne_nil (h : fs.Names cwd path l) : l ≠ [] := by
  obtain ⟨d, name, rfl⟩ := h.eq_concat
  simp

theorem eq_text_of_ofString?_eq_some (h : FileName.ofString? segment = some name) :
    segment = name.text := by
  rw [FileName.ofString?] at h
  split at h
  · cases h
    rfl
  · cases h

theorem segments_of_ending_name (h : ending path = .name name) :
    ∃ n, path.segments = way path ++ name.text :: List.replicate n "" := by
  obtain ⟨last, above, hdrop, hlast⟩ : ∃ last above,
      path.segments.reverse.dropWhile (· == "") = last :: above ∧ last = name.text := by
    unfold ending at h
    split at h
    · cases h
    · rename_i last above hdrop
      refine ⟨last, above, hdrop, ?_⟩
      split at h
      · cases h
        exact eq_text_of_ofString?_eq_some ‹_›
      · split at h <;> cases h
  obtain ⟨blanks, hblanks, hsplit⟩ : ∃ blanks : List String, (∀ s ∈ blanks, s = "") ∧
      blanks ++ last :: above = path.segments.reverse := by
    refine ⟨path.segments.reverse.takeWhile (· == ""), fun s hs => ?_, ?_⟩
    · simpa using List.all_eq_true.1 List.all_takeWhile s hs
    · rw [← hdrop, List.takeWhile_append_dropWhile]
  have hway : way path = above.reverse := by
    rw [way, hdrop, List.reverse_cons, List.dropLast_concat]
  have hsegments := congrArg List.reverse hsplit
  rw [List.eq_replicate_of_mem hblanks, hlast, List.reverse_reverse, List.reverse_append,
    List.reverse_cons, List.reverse_replicate, List.append_assoc, ← hway] at hsegments
  exact ⟨blanks.length, hsegments.symm⟩

theorem walk_blanks (h : fs.walk p (List.replicate n "") = .ok q) : q = p := by
  induction n with
  | zero =>
    cases h
    rfl
  | succ n ih =>
    obtain ⟨next, hstep, hrest⟩ := walk_cons_eq_ok_iff.1 h
    rw [step_empty (step_eq_ok_iff.1 hstep).1] at hstep
    cases hstep
    exact ih hrest

/-- A path that ends with a name leads nowhere else than to that name. -/
theorem Names.eq_of_resolve (h : fs.Names cwd path l) (hresolve : fs.resolve cwd path = .ok q) :
    q = .ofLocation l := by
  obtain ⟨d, name, hparent, hname⟩ := h
  obtain ⟨-, -, hwalk, hdir, hending⟩ := resolveParent_eq_ok_iff.1 hparent
  obtain ⟨d', hd, hshort, rfl⟩ := nameIn_eq_ok_iff.1 hname
  cases hd
  obtain ⟨n, hsegments⟩ := segments_of_ending_name hending
  obtain ⟨-, -, hfull⟩ := resolve_eq_ok_iff.1 hresolve
  rw [hsegments, walk_append_eq_ok_iff] at hfull
  obtain ⟨parent, hparent', hlast⟩ := hfull
  rw [hwalk] at hparent'
  cases hparent'
  obtain ⟨next, hstep, hblank⟩ := walk_cons_eq_ok_iff.1 hlast
  rw [step_name (l := d) hdir hshort] at hstep
  cases hstep
  exact walk_blanks hblank

/-! ### Making directories -/

/-- A walk that ends in a directory has gone through directories. -/
theorem entryAt?_of_walk (hwalk : fs.walk p xs = .ok q) (hdir : fs.entryAt? q = some .directory) :
    fs.entryAt? p = some .directory := by
  cases xs with
  | nil =>
    cases hwalk
    exact hdir
  | cons x xs =>
    obtain ⟨_, hstep, -⟩ := walk_cons_eq_ok_iff.1 hwalk
    exact (step_eq_ok_iff.1 hstep).1

/-- Directories that exist already are passed through. -/
theorem makeDirectories_append (hwalk : fs.walk p xs = .ok q)
    (hdir : fs.entryAt? q = some .directory) (ys : List String) :
    fs.makeDirectories p (xs ++ ys) = fs.makeDirectories q ys := by
  induction xs generalizing p with
  | nil =>
    cases hwalk
    rfl
  | cons x xs ih =>
    obtain ⟨next, hstep, hrest⟩ := walk_cons_eq_ok_iff.1 hwalk
    rw [List.cons_append, makeDirectories, hstep]
    simp only [entryAt?_of_walk hrest hdir]
    exact ih hrest

theorem Leads.createDirAll_join (h : fs.Leads cwd path l)
    (hfit : requireFit (path.join (.ofName name)) = .ok ()) (hshort : name.isTooLong = false)
    (hfree : fs.get? (l ++ [name]) = none) :
    fs.createDirAll cwd (path.join (.ofName name)) =
      (.ok (), [.put (l ++ [name]) .directory]) := by
  rw [createDirAll, if_neg (by rw [Path.isEmpty_join_ofName]; exact Bool.false_ne_true), hfit]
  dsimp only
  rw [origin_join_ofName cwd h.nonempty, Path.segments_join_ofName,
    makeDirectories_append h.walk_stem h.directory, makeDirectories,
    step_name h.directory hshort]
  simp only [entryAt?_ofLocation, hfree]
  rfl

end FileSystem

end LinkBench
