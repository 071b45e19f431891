import AlertLine.Text.Utf8

/-!
# SHA-512

The hash function over byte sequences: padding to whole blocks of 128 bytes, a schedule of eighty
words for each block, and eighty rounds that mix the schedule into the running digest.
-/

namespace AlertLine.Sha512

/-- The eight words of the running digest. -/
structure Digest where
  /-- First word. -/
  a : UInt64
  /-- Second word. -/
  b : UInt64
  /-- Third word. -/
  c : UInt64
  /-- Fourth word. -/
  d : UInt64
  /-- Fifth word. -/
  e : UInt64
  /-- Sixth word. -/
  f : UInt64
  /-- Seventh word. -/
  g : UInt64
  /-- Eighth word. -/
  h : UInt64

/-- The digest to start from: the fractions of the square roots of the first eight primes. -/
def start : Digest :=
  ⟨0x6a09e667f3bcc908, 0xbb67ae8584caa73b, 0x3c6ef372fe94f82b, 0xa54ff53a5f1d36f1,
   0x510e527fade682d1, 0x9b05688c2b3e6c1f, 0x1f83d9abfb41bd6b, 0x5be0cd19137e2179⟩

/-- The constants of the eighty rounds: the fractions of the cube roots of the first eighty
primes. -/
def roundConstants : List UInt64 :=
  [0x428a2f98d728ae22, 0x7137449123ef65cd, 0xb5c0fbcfec4d3b2f, 0xe9b5dba58189dbbc,
   0x3956c25bf348b538, 0x59f111f1b605d019, 0x923f82a4af194f9b, 0xab1c5ed5da6d8118,
   0xd807aa98a3030242, 0x12835b0145706fbe, 0x243185be4ee4b28c, 0x550c7dc3d5ffb4e2,
   0x72be5d74f27b896f, 0x80deb1fe3b1696b1, 0x9bdc06a725c71235, 0xc19bf174cf692694,
   0xe49b69c19ef14ad2, 0xefbe4786384f25e3, 0x0fc19dc68b8cd5b5, 0x240ca1cc77ac9c65,
   0x2de92c6f592b0275, 0x4a7484aa6ea6e483, 0x5cb0a9dcbd41fbd4, 0x76f988da831153b5,
   0x983e5152ee66dfab, 0xa831c66d2db43210, 0xb00327c898fb213f, 0xbf597fc7beef0ee4,
   0xc6e00bf33da88fc2, 0xd5a79147930aa725, 0x06ca6351e003826f, 0x142929670a0e6e70,
   0x27b70a8546d22ffc, 0x2e1b21385c26c926, 0x4d2c6dfc5ac42aed, 0x53380d139d95b3df,
   0x650a73548baf63de, 0x766a0abb3c77b2a8, 0x81c2c92e47edaee6, 0x92722c851482353b,
   0xa2bfe8a14cf10364, 0xa81a664bbc423001, 0xc24b8b70d0f89791, 0xc76c51a30654be30,
   0xd192e819d6ef5218, 0xd69906245565a910, 0xf40e35855771202a, 0x106aa07032bbd1b8,
   0x19a4c116b8d2d0c8, 0x1e376c085141ab53, 0x2748774cdf8eeb99, 0x34b0bcb5e19b48a8,
   0x391c0cb3c5c95a63, 0x4ed8aa4ae3418acb, 0x5b9cca4f7763e373, 0x682e6ff3d6b2b8a3,
   0x748f82ee5defb2fc, 0x78a5636f43172f60, 0x84c87814a1f0ab72, 0x8cc702081a6439ec,
   0x90befffa23631e28, 0xa4506cebde82bde9, 0xbef9a3f7b2c67915, 0xc67178f2e372532b,
   0xca273eceea26619c, 0xd186b8c721c0c207, 0xeada7dd6cde0eb1e, 0xf57d4f7fee6ed178,
   0x06f067aa72176fba, 0x0a637dc5a2c898a6, 0x113f9804bef90dae, 0x1b710b35131c471b,
   0x28db77f523047d84, 0x32caab7b40c72493, 0x3c9ebe0a15c9bebc, 0x431d67c49c100d4c,
   0x4cc5d4becb3e42b6, 0x597f299cfc657e2a, 0x5fcb6fab3ad6faec, 0x6c44198c4a475817]

/-- Rotation to the right by `n` places, for `n` from 1 to 63. -/
def rotate (x : UInt64) (n : UInt64) : UInt64 :=
  (x >>> n) ||| (x <<< (64 - n))

/-- The next word of a schedule whose words so far are given newest first. -/
def nextWord (newestFirst : List UInt64) : UInt64 :=
  let w2 := newestFirst.getD 1 0
  let w7 := newestFirst.getD 6 0
  let w15 := newestFirst.getD 14 0
  let w16 := newestFirst.getD 15 0
  let s0 := rotate w15 1 ^^^ rotate w15 8 ^^^ (w15 >>> 7)
  let s1 := rotate w2 19 ^^^ rotate w2 61 ^^^ (w2 >>> 6)
  s1 + w7 + s0 + w16

/-- Adds `n` words to a schedule given newest first. -/
def extend : Nat → List UInt64 → List UInt64
  | 0, ws => ws
  | n + 1, ws => extend n (nextWord ws :: ws)

/-- The eighty words of the schedule of a block of sixteen words. -/
def schedule (block : List UInt64) : List UInt64 :=
  (extend 64 block.reverse).reverse

/-- One round, with its constant and its word of the schedule. -/
def round (s : Digest) (kw : UInt64 × UInt64) : Digest :=
  let sum1 := rotate s.e 14 ^^^ rotate s.e 18 ^^^ rotate s.e 41
  let choice := (s.e &&& s.f) ^^^ (~~~s.e &&& s.g)
  let t1 := s.h + sum1 + choice + kw.1 + kw.2
  let sum0 := rotate s.a 28 ^^^ rotate s.a 34 ^^^ rotate s.a 39
  let majority := (s.a &&& s.b) ^^^ (s.a &&& s.c) ^^^ (s.b &&& s.c)
  ⟨t1 + (sum0 + majority), s.a, s.b, s.c, s.d + t1, s.e, s.f, s.g⟩

/-- The digest after one more block. -/
def compress (s : Digest) (block : List UInt64) : Digest :=
  let r := (roundConstants.zip (schedule block)).foldl round s
  ⟨s.a + r.a, s.b + r.b, s.c + r.c, s.d + r.d, s.e + r.e, s.f + r.f, s.g + r.g, s.h + r.h⟩

/-- The word with the given bytes, most significant first. -/
def wordOf (bs : Bytes) : UInt64 :=
  bs.foldl (fun w b => (w <<< 8) ||| b.toUInt64) 0

/-- The words of the first `n` groups of eight bytes. -/
def wordsOf : Nat → Bytes → List UInt64
  | 0, _ => []
  | n + 1, bs => wordOf (bs.take 8) :: wordsOf n (bs.drop 8)

/-- The digest after all blocks of a padded message. -/
def compressAll (s : Digest) (bs : Bytes) : Digest :=
  if bs.isEmpty then s else compressAll (compress s (wordsOf 16 bs)) (bs.drop 128)
termination_by bs.length
decreasing_by
  rename_i h
  have : 0 < bs.length := by cases bs <;> simp_all
  simp only [List.length_drop]
  omega

/-- The bytes of a word, most significant first. -/
def bytesOfWord (w : UInt64) : Bytes :=
  ([56, 48, 40, 32, 24, 16, 8, 0] : List UInt64).map fun n => (w >>> n).toUInt8

/-- What is put behind a message of `n` bytes to reach a whole number of blocks: a one bit, zero
bits, and the length in bits. -/
def padding (n : Nat) : Bytes :=
  0x80 :: List.replicate ((239 - n % 128) % 128) 0 ++
    (bytesOfWord (UInt64.ofNat (8 * n / UInt64.size)) ++ bytesOfWord (UInt64.ofNat (8 * n)))

/-- The sixty-four bytes of the hash of a message. -/
def hash (message : Bytes) : Bytes :=
  let s := compressAll start (message ++ padding message.length)
  [s.a, s.b, s.c, s.d, s.e, s.f, s.g, s.h].flatMap bytesOfWord

end AlertLine.Sha512
