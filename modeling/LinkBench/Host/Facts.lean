import LinkBench.Host.Attributes
import LinkBench.Host.Calendar
/-!
What is known of an entry: its kind, its size, its mode, how many names lead to it, and when it was changed
last.
-/

namespace LinkBench.Host

structure Facts where
  entry : Entry
  attributes : Attributes
  /-- How many names lead to the entry. -/
  links : Nat

namespace Facts

/-- What is known of what stands at a location. Every directory in a directory leads back to it. -/
def at? (w : View) (l : Location) : Option Facts :=
  (w.files.get? l).map fun e =>
    let links := match e with
      | .directory => 2 + ((w.files.children l).filter (·.2.isDirectory)).length
      | _ => 1
    ⟨e, w.attributes.attributesOf l, links⟩

/-- What is known of what a path leads to. -/
def ofPath (w : View) (p : Path) : Except IoError Facts := do
  let place ← w.files.resolve w.cwd p
  match w.files.entryAt? place with
  | none => throw .notFound
  | some e => return if place.isLive then (at? w place.base).getD ⟨e, .usual, 1⟩ else ⟨e, .usual, 1⟩

/-- The number of bytes that an entry is said to have. -/
def size (f : Facts) : Nat :=
  match f.entry with
  | .directory => 4096
  | .file bytes _ => bytes.length
  | .device _ => 0

/-- The number of blocks of 512 bytes that an entry takes. -/
def blocks (f : Facts) : Nat := (f.size + 4095) / 4096 * 8

/-- The bits of the mode. -/
def mode (f : Facts) : Nat := f.attributes.mode.getD (Mode.ofEntry f.entry)

/-- The letter of the kind of an entry in front of its mode. -/
def kindLetter (f : Facts) : Char :=
  match f.entry with
  | .directory => 'd'
  | .file .. => '-'
  | .device _ => 'c'

def modeText (f : Facts) : String := String.singleton f.kindLetter ++ Mode.letters f.mode

/-- The mode with the bits of the kind. -/
def rawMode (f : Facts) : Nat :=
  f.mode + match f.entry with
    | .directory => 0o040000
    | .file .. => 0o100000
    | .device _ => 0o020000

/-- When the entry was changed last. -/
def moment (f : Facts) : Calendar.Moment :=
  let time := f.attributes.modified
  .ofSeconds (time / 1000000000) (time % 1000000000).toNat

end Facts

end LinkBench.Host
