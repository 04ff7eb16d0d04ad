/-!
File names and paths. A path is kept exactly as it was written: it is the list of the segments
between its slashes, so `/a` begins with an empty segment and `a/` ends with one. Joining two
paths is then appending two lists, and nothing is normalised. Names and paths are texts; a system also
has names whose bytes are no text, and these are left out.
-/

namespace LinkBench

/-- The pieces of a text between the occurrences of `separator`; there is always at least one. -/
def splitAtEach (separator : Char) : List Char → List (List Char)
  | [] => [[]]
  | c :: cs =>
    if c = separator then
      [] :: splitAtEach separator cs
    else
      match splitAtEach separator cs with
      | [] => [[c]]
      | piece :: pieces => (c :: piece) :: pieces

theorem splitAtEach_ne_nil (separator : Char) (cs : List Char) : splitAtEach separator cs ≠ [] := by
  induction cs with
  | nil => simp [splitAtEach]
  | cons c cs ih =>
    simp only [splitAtEach]
    split
    · simp
    · split <;> simp

theorem not_mem_of_mem_splitAtEach {separator : Char} {cs piece : List Char}
    (hpiece : piece ∈ splitAtEach separator cs) : separator ∉ piece := by
  induction cs generalizing piece with
  | nil =>
    simp only [splitAtEach, List.mem_singleton] at hpiece
    simp [hpiece]
  | cons c cs ih =>
    simp only [splitAtEach] at hpiece
    split at hpiece
    · rcases List.mem_cons.1 hpiece with rfl | h
      · simp
      · exact ih h
    · rename_i hc
      split at hpiece
      · rename_i hnil
        exact absurd hnil (splitAtEach_ne_nil separator cs)
      · rename_i first others hcons
        rcases List.mem_cons.1 hpiece with rfl | h
        · have := ih (hcons ▸ List.mem_cons_self : first ∈ splitAtEach separator cs)
          simp [this, Ne.symm hc]
        · exact ih (hcons ▸ List.mem_cons_of_mem _ h)

/-- The name of a directory entry: not empty, not one of the two dot names, and without slashes. -/
structure FileName where
  text : String
  valid : text ≠ "" ∧ text ≠ "." ∧ text ≠ ".." ∧ '/' ∉ text.toList
  deriving DecidableEq

namespace FileName

theorem ext_text {a b : FileName} (h : a.text = b.text) : a = b := by
  cases a; cases b; cases h; rfl

/-- Names are ordered by their characters, which is the order of their UTF-8 bytes. -/
instance : LT FileName where
  lt a b := a.text < b.text

instance (a b : FileName) : Decidable (a < b) :=
  inferInstanceAs (Decidable (a.text < b.text))

def ofString? (text : String) : Option FileName :=
  if valid : text ≠ "" ∧ text ≠ "." ∧ text ≠ ".." ∧ '/' ∉ text.toList then
    some ⟨text, valid⟩
  else
    none

/-- The number of bytes that a name may have. -/
def sizeLimit : Nat := 255

def isTooLong (name : FileName) : Bool :=
  decide (sizeLimit < name.text.utf8ByteSize)

def isHidden (name : FileName) : Bool :=
  name.text.toList.head? == some '.'

/-- The text before the last dot and the text behind it; there is no extension where nothing stands
before that dot. -/
def splitExtension? (name : FileName) : Option (String × String) :=
  let backward := name.text.toList.reverse
  let extension := backward.takeWhile (· != '.')
  match backward.dropWhile (· != '.') with
  | _ :: c :: stem => some (String.ofList (c :: stem).reverse, String.ofList extension.reverse)
  | _ => none

end FileName

structure Path where
  segments : List String
  ne_nil : segments ≠ []
  slashless : ∀ s ∈ segments, '/' ∉ s.toList
  deriving DecidableEq

namespace Path

theorem ext_segments {p q : Path} (h : p.segments = q.segments) : p = q := by
  cases p; cases q; cases h; rfl

def ofString (text : String) : Path where
  segments := (splitAtEach '/' text.toList).map String.ofList
  ne_nil := by simp [splitAtEach_ne_nil]
  slashless := by
    intro s hs
    obtain ⟨piece, hpiece, rfl⟩ := List.mem_map.1 hs
    simpa using not_mem_of_mem_splitAtEach hpiece

/-- The path as it is written. -/
def text (p : Path) : String :=
  String.intercalate "/" p.segments

/-- The number of bytes that a path has to stay below. -/
def sizeLimit : Nat := 4096

def isTooLong (p : Path) : Bool :=
  decide (sizeLimit ≤ p.text.utf8ByteSize)

/-- A NUL would end the path where it is handed over to the system. -/
def holdsNul (p : Path) : Bool :=
  p.segments.any fun s => s.toList.contains '\x00'

/-- The path of one segment. -/
def ofName (name : FileName) : Path where
  segments := [name.text]
  ne_nil := by simp
  slashless := by simpa using name.valid.2.2.2

/-- The path that begins at the root. -/
def isAbsolute (p : Path) : Bool :=
  match p.segments with
  | "" :: _ :: _ => true
  | _ => false

def isEmpty (p : Path) : Bool :=
  p.segments == [""]

/-- The segments to which others can be appended: an empty last segment is the place of what
follows the slash. -/
def stem (p : Path) : List String :=
  if p.segments.getLast p.ne_nil = "" then p.segments.dropLast else p.segments

/-- The second path as seen from the first; an absolute one stands for itself. -/
def join (p q : Path) : Path :=
  if q.isAbsolute then
    q
  else {
    segments := p.stem ++ q.segments
    ne_nil := by simp [q.ne_nil]
    slashless := by
      intro s hs
      rcases List.mem_append.1 hs with h | h
      · refine p.slashless s ?_
        unfold stem at h
        split at h
        · exact List.dropLast_subset _ h
        · exact h
      · exact q.slashless s h
  }

instance : HDiv Path Path Path where
  hDiv := join

instance : HDiv Path FileName Path where
  hDiv p name := p.join (ofName name)

/-- Segments that do not move: the empty one and the single dot. -/
def isStill (segment : String) : Bool :=
  segment == "" || segment == "."

/-- The last segment that is not still, unless it leads to a parent directory. -/
def fileName? (p : Path) : Option String :=
  match p.segments.reverse.dropWhile isStill with
  | [] => none
  | last :: _ => if last = ".." then none else some last

/-- A relative path of more than one component; a leading dot is a component. -/
def isCompound (p : Path) : Bool :=
  let moving := p.segments.countP fun s => !isStill s
  let leadingDot := if p.segments.head? = some "." then 1 else 0
  !p.isAbsolute && decide (1 < moving + leadingDot)

end Path

end LinkBench
