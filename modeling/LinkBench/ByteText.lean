import LinkBench.Bytes
/-!
Text of bytes. Programs exchange bytes without saying what characters they stand for, so their text is
kept as a string with one character for each byte. Nothing is lost on the way to bytes and back
(`toBytes_ofBytes`); the text of names and messages comes from UTF-8 and goes back to it.
-/

namespace LinkBench.ByteText

def ofByte (b : UInt8) : Char := Char.ofNat b.toNat

def toByte (c : Char) : UInt8 := UInt8.ofNat c.toNat

def ofBytes (bytes : Bytes) : String :=
  String.ofList (bytes.map ofByte)

def toBytes (text : String) : Bytes :=
  text.toList.map toByte

/-- The UTF-8 bytes of an ordinary text. -/
def encode (text : String) : String :=
  if text.toList.all (·.toNat < 128) then text else ofBytes (Bytes.ofString text)

/-- The ordinary text that the bytes encode; what is not UTF-8 is replaced. -/
def decode (text : String) : String :=
  if text.toList.all (·.toNat < 128) then text else (toBytes text).toText

/-! ### Characters of several bytes -/

/-- The character that the first bytes of a text encode, and how many bytes that are. A byte that does
not begin a character stands alone and encodes nothing. -/
def firstUnit (first : Char) (rest : List Char) : Option Char × Nat :=
  let length := Bytes.sequenceLength (toByte first)
  let others := (rest.take (length - 1)).map toByte
  let isWhole := others.length + 1 == length && match others with
    | [] => first.toNat < 128
    | second :: more => Bytes.follows (toByte first) second && more.all (Bytes.follows 0)
  if isWhole then
    (((toByte first :: others) |> Bytes.decode length).head?, length)
  else
    (none, 1)

/-- The text cut into the bytes of its characters, each with the character if there is one. The fuel
bounds their number. -/
def unitsFrom : Nat → List Char → List (List Char × Option Char)
  | 0, _ | _, [] => []
  | fuel + 1, c :: cs =>
    let (encoded, length) := firstUnit c cs
    ((c :: cs).take length, encoded) :: unitsFrom fuel ((c :: cs).drop length)

def units (text : List Char) : List (List Char × Option Char) :=
  unitsFrom text.length text

/-- The first of the codes that stand for bytes that encode no character. -/
def standInStart : Nat := 0x10ff00

def isStandIn (c : Char) : Bool := standInStart + 128 ≤ c.toNat

/-- Makes one item of those that carry the bytes of one character; bytes that encode none get codes of
their own. The fuel bounds the number of items. -/
def widenFrom {α : Type} (byteOf : α → Char) (build : Char → α → α) : Nat → List α → List α
  | 0, _ | _, [] => []
  | fuel + 1, x :: xs =>
    if (byteOf x).toNat < 128 then
      x :: widenFrom byteOf build fuel xs
    else
      match firstUnit (byteOf x) ((xs.take 3).map byteOf) with
      | (some c, length) =>
        if isStandIn c then
          build (Char.ofNat (standInStart + (byteOf x).toNat)) x :: widenFrom byteOf build fuel xs
        else
          build c x :: widenFrom byteOf build fuel (xs.drop (length - 1))
      | (none, _) =>
        build (Char.ofNat (standInStart + (byteOf x).toNat)) x :: widenFrom byteOf build fuel xs

/-- The characters that a text of bytes encodes. -/
def widen (text : List Char) : List Char :=
  widenFrom id (fun c _ => c) text.length text

/-- The text of bytes of characters. -/
def narrow (cs : List Char) : List Char :=
  cs.flatMap fun c =>
    if c.toNat < 128 then [c]
    else if isStandIn c then [Char.ofNat (c.toNat - standInStart)]
    else (encode (String.singleton c)).toList

theorem toByte_ofByte (b : UInt8) : toByte (ofByte b) = b := by
  have hlt := b.toNat_lt
  have hvalid : b.toNat.isValidChar := Or.inl (by omega)
  have hchar : (Char.ofNat b.toNat).toNat = b.toNat := by
    rw [Char.ofNat, dif_pos hvalid]
    rfl
  rw [toByte, ofByte, hchar, UInt8.ofNat_toNat]

theorem toBytes_ofBytes (bytes : Bytes) : toBytes (ofBytes bytes) = bytes := by
  simp [toBytes, ofBytes, Function.comp_def, toByte_ofByte]

end LinkBench.ByteText
