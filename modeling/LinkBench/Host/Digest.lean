import LinkBench.Bytes
/-!
Checksums and digests of byte strings. A digest puts the message into blocks behind a padding that
holds its length, and folds a compression over them.
-/

namespace LinkBench.Host.Digest

/-! ### Checksums -/

/-- One step of the cyclic redundancy check with the polynomial `0x04c11db7`, bit by bit. -/
def crcBit (crc : UInt32) : UInt32 :=
  if crc &&& 0x80000000 = 0 then crc <<< 1 else (crc <<< 1) ^^^ 0x04c11db7

def crcByte (crc : UInt32) (b : UInt8) : UInt32 :=
  (List.range 8).foldl (fun crc _ => crcBit crc) (crc ^^^ (b.toUInt32 <<< 24))

/-- The bytes of a length without leading zeros, the lowest first. -/
def lengthBytes : Nat → Nat → Bytes
  | 0, _ => []
  | fuel + 1, n => if n = 0 then [] else UInt8.ofNat n :: lengthBytes fuel (n / 256)

/-- The check over the bytes and then over their number. -/
def crc (bytes : Bytes) : UInt32 :=
  (lengthBytes 9 bytes.length).foldl crcByte (bytes.foldl crcByte 0) ^^^ 0xffffffff

/-- The sum that is turned by one bit before each byte. -/
def turningSum (bytes : Bytes) : Nat :=
  bytes.foldl (fun n b => (n / 2 + n % 2 * 32768 + b.toNat) % 65536) 0

/-! ### Blocks -/

/-- The bytes of a number, the highest first. -/
def bigEndian (width n : Nat) : Bytes :=
  (List.range width).map fun i => UInt8.ofNat (n / Nat.pow 256 (width - 1 - i))

/-- The number that bytes stand for, the highest first. -/
def ofBigEndian (bytes : Bytes) : Nat :=
  bytes.foldl (fun n b => n * 256 + b.toNat) 0

/-- The message behind its end mark, zeros and its length in bits, in whole blocks. -/
def padded (block lengthWidth : Nat) (isLittle : Bool) (bytes : Bytes) : Bytes :=
  let length := bigEndian lengthWidth (bytes.length * 8)
  let used := (bytes.length + 1 + lengthWidth) % block
  bytes ++ 0x80 :: List.replicate ((block - used) % block) 0 ++
    (if isLittle then length.reverse else length)

/-- Pieces of equal length. The fuel is at least the number of bytes. -/
def pieces (width : Nat) : Nat → Bytes → List Bytes
  | 0, _ | _, [] => []
  | fuel + 1, bytes => bytes.take width :: pieces width fuel (bytes.drop width)

def blocks (width : Nat) (bytes : Bytes) : List Bytes :=
  pieces width (bytes.length / width + 1) bytes

def turnLeft (x : UInt32) (n : UInt32) : UInt32 := (x <<< n) ||| (x >>> (32 - n))

def turnRight (x : UInt32) (n : UInt32) : UInt32 := (x >>> n) ||| (x <<< (32 - n))

def turnRight64 (x : UInt64) (n : UInt64) : UInt64 := (x >>> n) ||| (x <<< (64 - n))

/-- The fractional part of a root of a number, as an integer of the given number of bits: the greatest
whose power is not above. -/
def rootBits (power n bits : Nat) : Nat :=
  let target := n * Nat.pow 2 (bits * power)
  let root := (List.range (bits + 8)).reverse.foldl (fun r i =>
    let candidate := r + Nat.pow 2 i
    if Nat.pow candidate power ≤ target then candidate else r) 0
  root % Nat.pow 2 bits

/-- The first prime numbers. -/
def primes (count : Nat) : List Nat :=
  ((List.range 420).filter fun n =>
    2 ≤ n && (List.range n).all fun d => d < 2 || n % d != 0).take count

/-! ### MD5 -/

/-- How far each step turns. -/
def md5Turns : Array UInt32 :=
  ([[7, 12, 17, 22], [5, 9, 14, 20], [4, 11, 16, 23], [6, 10, 15, 21]].flatMap fun row =>
    row ++ row ++ row ++ row).toArray

def md5Constants : Array UInt32 := #[
  0xd76aa478, 0xe8c7b756, 0x242070db, 0xc1bdceee, 0xf57c0faf, 0x4787c62a, 0xa8304613, 0xfd469501,
  0x698098d8, 0x8b44f7af, 0xffff5bb1, 0x895cd7be, 0x6b901122, 0xfd987193, 0xa679438e, 0x49b40821,
  0xf61e2562, 0xc040b340, 0x265e5a51, 0xe9b6c7aa, 0xd62f105d, 0x02441453, 0xd8a1e681, 0xe7d3fbc8,
  0x21e1cde6, 0xc33707d6, 0xf4d50d87, 0x455a14ed, 0xa9e3e905, 0xfcefa3f8, 0x676f02d9, 0x8d2a4c8a,
  0xfffa3942, 0x8771f681, 0x6d9d6122, 0xfde5380c, 0xa4beea44, 0x4bdecfa9, 0xf6bb4b60, 0xbebfbc70,
  0x289b7ec6, 0xeaa127fa, 0xd4ef3085, 0x04881d05, 0xd9d4d039, 0xe6db99e5, 0x1fa27cf8, 0xc4ac5665,
  0xf4292244, 0x432aff97, 0xab9423a7, 0xfc93a039, 0x655b59c3, 0x8f0ccc92, 0xffeff47d, 0x85845dd1,
  0x6fa87e4f, 0xfe2ce6e0, 0xa3014314, 0x4e0811a1, 0xf7537e82, 0xbd3af235, 0x2ad7d2bb, 0xeb86d391]

structure Quad where
  a : UInt32
  b : UInt32
  c : UInt32
  d : UInt32

def md5Step (words : Array UInt32) (s : Quad) (i : Nat) : Quad :=
  let (f, g) :=
    if i < 16 then ((s.b &&& s.c) ||| (~~~s.b &&& s.d), i)
    else if i < 32 then ((s.d &&& s.b) ||| (~~~s.d &&& s.c), (5 * i + 1) % 16)
    else if i < 48 then (s.b ^^^ s.c ^^^ s.d, (3 * i + 5) % 16)
    else (s.c ^^^ (s.b ||| ~~~s.d), (7 * i) % 16)
  let sum := s.a + f + md5Constants.getD i 0 + words.getD g 0
  ⟨s.d, s.b + turnLeft sum (md5Turns.getD i 0), s.b, s.c⟩

def md5Block (s : Quad) (block : Bytes) : Quad :=
  let words := ((blocks 4 block).map fun w => UInt32.ofNat (ofBigEndian w.reverse)).toArray
  let t := (List.range 64).foldl (md5Step words) s
  ⟨s.a + t.a, s.b + t.b, s.c + t.c, s.d + t.d⟩

def md5 (bytes : Bytes) : Bytes :=
  let s := (blocks 64 (padded 64 8 true bytes)).foldl md5Block
    ⟨0x67452301, 0xefcdab89, 0x98badcfe, 0x10325476⟩
  [s.a, s.b, s.c, s.d].flatMap fun w => (bigEndian 4 w.toNat).reverse

/-! ### SHA-1 -/

/-- The words of a block, continued by sums of earlier ones. -/
def sha1Schedule (block : Bytes) : Array UInt32 :=
  let words := ((blocks 4 block).map fun w => UInt32.ofNat (ofBigEndian w)).toArray
  (List.range 64).foldl (fun words i =>
    let at' (back : Nat) : UInt32 := words.getD (i + 16 - back) 0
    words.push (turnLeft (at' 3 ^^^ at' 8 ^^^ at' 14 ^^^ at' 16) 1)) words

structure Quint extends Quad where
  e : UInt32

def sha1Step (words : Array UInt32) (s : Quint) (i : Nat) : Quint :=
  let (f, k) :=
    if i < 20 then ((s.b &&& s.c) ||| (~~~s.b &&& s.d), 0x5a827999)
    else if i < 40 then (s.b ^^^ s.c ^^^ s.d, 0x6ed9eba1)
    else if i < 60 then ((s.b &&& s.c) ||| (s.b &&& s.d) ||| (s.c &&& s.d), 0x8f1bbcdc)
    else (s.b ^^^ s.c ^^^ s.d, 0xca62c1d6)
  let sum := turnLeft s.a 5 + f + s.e + k + words.getD i 0
  ⟨⟨sum, s.a, turnLeft s.b 30, s.c⟩, s.d⟩

def sha1Block (s : Quint) (block : Bytes) : Quint :=
  let t := (List.range 80).foldl (sha1Step (sha1Schedule block)) s
  ⟨⟨s.a + t.a, s.b + t.b, s.c + t.c, s.d + t.d⟩, s.e + t.e⟩

def sha1 (bytes : Bytes) : Bytes :=
  let s := (blocks 64 (padded 64 8 false bytes)).foldl sha1Block
    ⟨⟨0x67452301, 0xefcdab89, 0x98badcfe, 0x10325476⟩, 0xc3d2e1f0⟩
  [s.a, s.b, s.c, s.d, s.e].flatMap fun w => bigEndian 4 w.toNat

/-! ### SHA-2 -/

/-- The operations on words of one size that the second family is made of. -/
structure WordSize (α : Type) where
  bytes : Nat
  rounds : Nat
  ofNat : Nat → α
  toNat : α → Nat
  add : α → α → α
  xor : α → α → α
  and : α → α → α
  complement : α → α
  /-- The two sums of the schedule and the two of the rounds. -/
  low0 : α → α
  low1 : α → α
  high0 : α → α
  high1 : α → α
  constants : Array α

namespace WordSize

variable {α : Type} [Inhabited α]

def schedule (w : WordSize α) (block : Bytes) : Array α :=
  let words := ((blocks w.bytes block).map fun b => w.ofNat (ofBigEndian b)).toArray
  (List.range (w.rounds - 16)).foldl (fun words i =>
    let at' (back : Nat) : α := words.getD (i + 16 - back) default
    words.push (w.add (w.add (at' 16) (w.low0 (at' 15))) (w.add (at' 7) (w.low1 (at' 2))))) words

def step (w : WordSize α) (words : Array α) (s : Array α) (i : Nat) : Array α :=
  let v (k : Nat) : α := s.getD k default
  let choice := w.xor (w.and (v 4) (v 5)) (w.and (w.complement (v 4)) (v 6))
  let majority := w.xor (w.xor (w.and (v 0) (v 1)) (w.and (v 0) (v 2))) (w.and (v 1) (v 2))
  let first := w.add (w.add (w.add (v 7) (w.high1 (v 4))) choice)
    (w.add (w.constants.getD i default) (words.getD i default))
  let second := w.add (w.high0 (v 0)) majority
  #[w.add first second, v 0, v 1, v 2, w.add (v 3) first, v 4, v 5, v 6]

def block (w : WordSize α) (s : Array α) (bytes : Bytes) : Array α :=
  let t := (List.range w.rounds).foldl (w.step (w.schedule bytes)) s
  Array.zipWith w.add s t

/-- The first bytes of the digest from a starting state. -/
def digest (w : WordSize α) (start : List Nat) (width : Nat) (bytes : Bytes) : Bytes :=
  let size := w.bytes * 16
  let s := (blocks size (padded size (w.bytes * 2) false bytes)).foldl w.block
    (start.map w.ofNat).toArray
  (s.toList.flatMap fun x => bigEndian w.bytes (w.toNat x)).take width

end WordSize

def words32 : WordSize UInt32 where
  bytes := 4
  rounds := 64
  ofNat := UInt32.ofNat
  toNat := UInt32.toNat
  add := (· + ·)
  xor := (· ^^^ ·)
  and := (· &&& ·)
  complement := (~~~ ·)
  low0 x := turnRight x 7 ^^^ turnRight x 18 ^^^ (x >>> 3)
  low1 x := turnRight x 17 ^^^ turnRight x 19 ^^^ (x >>> 10)
  high0 x := turnRight x 2 ^^^ turnRight x 13 ^^^ turnRight x 22
  high1 x := turnRight x 6 ^^^ turnRight x 11 ^^^ turnRight x 25
  constants := ((primes 64).map fun p => UInt32.ofNat (rootBits 3 p 32)).toArray

def words64 : WordSize UInt64 where
  bytes := 8
  rounds := 80
  ofNat := UInt64.ofNat
  toNat := UInt64.toNat
  add := (· + ·)
  xor := (· ^^^ ·)
  and := (· &&& ·)
  complement := (~~~ ·)
  low0 x := turnRight64 x 1 ^^^ turnRight64 x 8 ^^^ (x >>> 7)
  low1 x := turnRight64 x 19 ^^^ turnRight64 x 61 ^^^ (x >>> 6)
  high0 x := turnRight64 x 28 ^^^ turnRight64 x 34 ^^^ turnRight64 x 39
  high1 x := turnRight64 x 14 ^^^ turnRight64 x 18 ^^^ turnRight64 x 41
  constants := ((primes 80).map fun p => UInt64.ofNat (rootBits 3 p 64)).toArray

/-- The fractional parts of the square roots of some primes. -/
def rootStart (bits skipped : Nat) : List Nat :=
  ((primes 16).drop skipped).take 8 |>.map fun p => rootBits 2 p bits

def sha256 (bytes : Bytes) : Bytes := words32.digest (rootStart 32 0) 32 bytes

/-- The shorter digest starts with the lower halves of other roots. -/
def sha224 (bytes : Bytes) : Bytes :=
  words32.digest ((rootStart 64 8).map (· % 4294967296)) 28 bytes

def sha512 (bytes : Bytes) : Bytes := words64.digest (rootStart 64 0) 64 bytes

def sha384 (bytes : Bytes) : Bytes := words64.digest (rootStart 64 8) 48 bytes

/-! ### BLAKE2b -/

/-- The order in which the words of a block are mixed in, one row for each round; the rows begin anew
after the last one. -/
def blakeOrder : Array (Array Nat) := #[
  #[0, 1, 2, 3, 4, 5, 6, 7, 8, 9, 10, 11, 12, 13, 14, 15],
  #[14, 10, 4, 8, 9, 15, 13, 6, 1, 12, 0, 2, 11, 7, 5, 3],
  #[11, 8, 12, 0, 5, 2, 15, 13, 10, 14, 3, 6, 7, 1, 9, 4],
  #[7, 9, 3, 1, 13, 12, 11, 14, 2, 6, 5, 10, 4, 0, 15, 8],
  #[9, 0, 5, 7, 2, 4, 10, 15, 14, 1, 11, 12, 6, 8, 3, 13],
  #[2, 12, 6, 10, 0, 11, 8, 3, 4, 13, 7, 5, 15, 14, 1, 9],
  #[12, 5, 1, 15, 14, 13, 4, 10, 0, 7, 6, 3, 9, 2, 8, 11],
  #[13, 11, 7, 14, 12, 1, 3, 9, 5, 0, 15, 4, 8, 6, 2, 10],
  #[6, 15, 14, 9, 11, 3, 0, 8, 12, 2, 13, 7, 1, 4, 10, 5],
  #[10, 2, 8, 4, 7, 6, 1, 5, 15, 11, 9, 14, 3, 12, 13, 0]]

/-- Mixes two words into four places of the state. -/
def blakeMix (v : Array UInt64) (a b c d : Nat) (x y : UInt64) : Array UInt64 :=
  let at' (i : Nat) : UInt64 := v.getD i 0
  let a1 := at' a + at' b + x
  let d1 := turnRight64 (at' d ^^^ a1) 32
  let c1 := at' c + d1
  let b1 := turnRight64 (at' b ^^^ c1) 24
  let a2 := a1 + b1 + y
  let d2 := turnRight64 (d1 ^^^ a2) 16
  let c2 := c1 + d2
  let b2 := turnRight64 (b1 ^^^ c2) 63
  (((v.setIfInBounds a a2).setIfInBounds b b2).setIfInBounds c c2).setIfInBounds d d2

/-- The places that are mixed in a round: columns, and then diagonals. -/
def blakePlaces : List (Nat × Nat × Nat × Nat) :=
  [(0, 4, 8, 12), (1, 5, 9, 13), (2, 6, 10, 14), (3, 7, 11, 15),
    (0, 5, 10, 15), (1, 6, 11, 12), (2, 7, 8, 13), (3, 4, 9, 14)]

def blakeRound (words v : Array UInt64) (i : Nat) : Array UInt64 :=
  let order := blakeOrder.getD (i % 10) #[]
  let word (k : Nat) : UInt64 := words.getD (order.getD k 0) 0
  blakePlaces.zipIdx.foldl (fun v ((a, b, c, d), k) =>
    blakeMix v a b c d (word (2 * k)) (word (2 * k + 1))) v

/-- Takes a block in; `count` bytes have been taken in with it. -/
def blakeBlock (start h : Array UInt64) (block : Bytes) (count : Nat) (isLast : Bool) : Array UInt64 :=
  let words := ((blocks 8 (block.rightpad 128 0)).map fun w =>
    UInt64.ofNat (ofBigEndian w.reverse)).toArray
  let tail := #[start.getD 4 0 ^^^ UInt64.ofNat count, start.getD 5 0,
    if isLast then ~~~(start.getD 6 0) else start.getD 6 0, start.getD 7 0]
  let v := (List.range 12).foldl (blakeRound words) (h ++ start.take 4 ++ tail)
  (Array.range 8).map fun i => h.getD i 0 ^^^ v.getD i 0 ^^^ v.getD (i + 8) 0

/-- The digest of so many bytes. -/
def blake2b (width : Nat) (bytes : Bytes) : Bytes :=
  let start := ((rootStart 64 0).map UInt64.ofNat).toArray
  let h := start.setIfInBounds 0 (start.getD 0 0 ^^^ 0x01010000 ^^^ UInt64.ofNat width)
  let cut := if bytes.isEmpty then [[]] else blocks 128 bytes
  let h := cut.zipIdx.foldl (fun h (block, i) =>
    blakeBlock start h block (min bytes.length (128 * (i + 1))) (i + 1 == cut.length)) h
  (h.toList.flatMap fun x => (bigEndian 8 x.toNat).reverse).take width

end LinkBench.Host.Digest
