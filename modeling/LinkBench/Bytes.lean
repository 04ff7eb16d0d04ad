/-!
Bytes and 32-bit words. A word is written as four bytes, low byte first or high byte first;
reading either form back gives the word (`ofLittleEndian_toLittleEndian`,
`ofBigEndian_toBigEndian`).
-/

namespace LinkBench

abbrev Bytes := List UInt8

/-- The number of values of a word; every count and length stored in a container stays below it. -/
def wordLimit : Nat := 4294967296

/-- Writes `patch` over the bytes from `position` on. -/
def overwrite (bytes : Bytes) (position : Nat) (patch : Bytes) : Bytes :=
  bytes.take position ++ patch ++ bytes.drop (position + patch.length)

/-- The UTF-8 bytes of a text. -/
def Bytes.ofString (text : String) : Bytes :=
  text.toUTF8.data.toList

namespace Bytes

/-- How many bytes a character takes that begins with the given one; a byte that begins none counts
as a character of its own. -/
def sequenceLength (first : UInt8) : Nat :=
  if first < 0xc2 then 1
  else if first < 0xe0 then 2
  else if first < 0xf0 then 3
  else if first < 0xf5 then 4
  else 1

/-- Whether a byte can be the second one of a character. The bounds leave out longer forms of short
characters, surrogates and what lies above the last character. -/
def follows (first second : UInt8) : Bool :=
  let low : UInt8 := if first = 0xe0 then 0xa0 else if first = 0xf0 then 0x90 else 0x80
  let high : UInt8 := if first = 0xed then 0x9f else if first = 0xf4 then 0x8f else 0xbf
  low ≤ second && second ≤ high

/-- The characters that the bytes encode. The longest beginning of a character that is not complete
stands for one replacement character. The fuel bounds the number of characters. -/
def decode : Nat → Bytes → List Char
  | 0, _ | _, [] => []
  | fuel + 1, first :: rest =>
    let length := sequenceLength first
    let others := match rest.take (length - 1) with
      | [] => []
      | second :: more =>
        if follows first second then second :: more.takeWhile (follows 0) else []
    let c :=
      if first < 0x80 then Char.ofNat first.toNat
      else if length = 1 ∨ others.length + 1 < length then Char.ofNat 0xfffd
      else Char.ofNat (others.foldl (fun n b => n * 64 + b.toNat % 64)
        (first.toNat % Nat.pow 2 (7 - length)))
    c :: decode fuel (rest.drop others.length)

/-- The text that the bytes encode; what is not UTF-8 is replaced. -/
def toText (bytes : Bytes) : String :=
  String.ofList (decode bytes.length bytes)

end Bytes

namespace Word

def ofLittleEndian (b₀ b₁ b₂ b₃ : UInt8) : UInt32 :=
  UInt32.ofNat (b₀.toNat + 256 * b₁.toNat + 65536 * b₂.toNat + 16777216 * b₃.toNat)

def ofBigEndian (b₀ b₁ b₂ b₃ : UInt8) : UInt32 :=
  ofLittleEndian b₃ b₂ b₁ b₀

/-- The four bytes of a word, low byte first. -/
def toLittleEndian (word : UInt32) : Bytes :=
  [UInt8.ofNat word.toNat, UInt8.ofNat (word.toNat / 256),
    UInt8.ofNat (word.toNat / 65536), UInt8.ofNat (word.toNat / 16777216)]

/-- The four bytes of a word, high byte first. -/
def toBigEndian (word : UInt32) : Bytes :=
  [UInt8.ofNat (word.toNat / 16777216), UInt8.ofNat (word.toNat / 65536),
    UInt8.ofNat (word.toNat / 256), UInt8.ofNat word.toNat]

theorem toNat_ofNat {n : Nat} (h : n < wordLimit) : (UInt32.ofNat n).toNat = n :=
  UInt32.toNat_ofNat_of_lt' h

theorem toNat_lt_wordLimit (w : UInt32) : w.toNat < wordLimit :=
  w.toNat_lt

theorem toNat_add_one {w : UInt32} (h : w.toNat + 1 < wordLimit) :
    (w + 1).toNat = w.toNat + 1 := by
  rw [UInt32.toNat_add, UInt32.toNat_one]
  exact Nat.mod_eq_of_lt h

theorem add_ofNat_succ (w : UInt32) (n : Nat) :
    w + UInt32.ofNat (n + 1) = w + 1 + UInt32.ofNat n := by
  rw [Nat.add_comm, UInt32.ofNat_add, ← UInt32.add_assoc]
  rfl

@[simp] theorem length_toLittleEndian (word : UInt32) : (toLittleEndian word).length = 4 := rfl

@[simp] theorem length_toBigEndian (word : UInt32) : (toBigEndian word).length = 4 := rfl

theorem ofLittleEndian_toLittleEndian (word : UInt32) :
    ofLittleEndian (UInt8.ofNat word.toNat) (UInt8.ofNat (word.toNat / 256))
      (UInt8.ofNat (word.toNat / 65536)) (UInt8.ofNat (word.toNat / 16777216)) = word := by
  have hlt : word.toNat < 4294967296 := word.toNat_lt
  apply UInt32.toNat_inj.1
  simp only [ofLittleEndian, UInt32.toNat_ofNat', UInt8.toNat_ofNat']
  omega

theorem ofBigEndian_toBigEndian (word : UInt32) :
    ofBigEndian (UInt8.ofNat (word.toNat / 16777216)) (UInt8.ofNat (word.toNat / 65536))
      (UInt8.ofNat (word.toNat / 256)) (UInt8.ofNat word.toNat) = word :=
  ofLittleEndian_toLittleEndian word

theorem toLittleEndian_ofLittleEndian (b₀ b₁ b₂ b₃ : UInt8) :
    toLittleEndian (ofLittleEndian b₀ b₁ b₂ b₃) = [b₀, b₁, b₂, b₃] := by
  have h₀ := b₀.toNat_lt
  have h₁ := b₁.toNat_lt
  have h₂ := b₂.toNat_lt
  have h₃ := b₃.toNat_lt
  simp only [toLittleEndian, ofLittleEndian, UInt32.toNat_ofNat', List.cons.injEq, and_true]
  refine ⟨?_, ?_, ?_, ?_⟩ <;> apply UInt8.toNat_inj.1 <;> simp only [UInt8.toNat_ofNat'] <;> omega

end Word

end LinkBench
