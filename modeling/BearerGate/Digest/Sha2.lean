import BearerGate.Text.Utf8

/-!
# The SHA-2 Digests

SHA-256, SHA-384 and SHA-512 are one construction with two word widths. A message is padded
with a one bit, zero bits and its length to whole blocks of sixteen words; each block is
stretched to one word per round by a linear recurrence, and the rounds mix these words into a
state of eight words. `Sha2.Variant` holds what distinguishes the members; `Digest.hash` is
the digest of a message.
-/

namespace BearerGate

/-- A big-endian byte sequence as a number. -/
def Bytes.toNat (bytes : Bytes) : Nat :=
  bytes.foldl (fun n b => 256 * n + b.toNat) 0

/-- The lowest `size` bytes of a number, most significant byte first. -/
def Bytes.ofNat (size n : Nat) : Bytes :=
  (List.range size).reverse.map fun i => UInt8.ofNat (n >>> (8 * i))

namespace Sha2

/-- The eight words that the rounds work on. -/
structure State (w : Nat) where
  a : BitVec w
  b : BitVec w
  c : BitVec w
  d : BitVec w
  e : BitVec w
  f : BitVec w
  g : BitVec w
  h : BitVec w

/-- What distinguishes the members of the family: the start value, one constant per round, and
the amounts of the four mixing functions; the last amount of `small0` and `small1` is a shift,
all others are rotations. -/
structure Variant (w : Nat) where
  start : State w
  rounds : List (BitVec w)
  big0 : Nat × Nat × Nat
  big1 : Nat × Nat × Nat
  small0 : Nat × Nat × Nat
  small1 : Nat × Nat × Nat

variable {w : Nat}

/-- Three rotations of a word, combined by exclusive or. -/
def bigSigma (r : Nat × Nat × Nat) (x : BitVec w) : BitVec w :=
  x.rotateRight r.1 ^^^ x.rotateRight r.2.1 ^^^ x.rotateRight r.2.2

/-- Two rotations and a shift of a word, combined by exclusive or. -/
def smallSigma (r : Nat × Nat × Nat) (x : BitVec w) : BitVec w :=
  x.rotateRight r.1 ^^^ x.rotateRight r.2.1 ^^^ (x >>> r.2.2)

/-- Word by word addition of two states. -/
def State.add (s t : State w) : State w :=
  ⟨s.a + t.a, s.b + t.b, s.c + t.c, s.d + t.d, s.e + t.e, s.f + t.f, s.g + t.g, s.h + t.h⟩

/-- The words of a state, in order. -/
def State.words (s : State w) : List (BitVec w) :=
  [s.a, s.b, s.c, s.d, s.e, s.f, s.g, s.h]

/-- One round with its constant and its word of the message schedule. -/
def Variant.round (v : Variant w) (s : State w) (k word : BitVec w) : State w :=
  let choice := (s.e &&& s.f) ^^^ (~~~s.e &&& s.g)
  let majority := (s.a &&& s.b) ^^^ (s.a &&& s.c) ^^^ (s.b &&& s.c)
  let t1 := s.h + bigSigma v.big1 s.e + choice + k + word
  let t2 := bigSigma v.big0 s.a + majority
  ⟨t1 + t2, s.a, s.b, s.c, s.d + t1, s.e, s.f, s.g⟩

/-- The window of the next sixteen schedule words, moved on by one word. -/
def Variant.slide (v : Variant w) (window : List (BitVec w)) : List (BitVec w) :=
  let next := smallSigma v.small1 (window.getD 14 0) + window.getD 9 0 +
    smallSigma v.small0 (window.getD 1 0) + window.getD 0 0
  window.tail ++ [next]

/-- All rounds over one block of sixteen words. -/
def Variant.compress (v : Variant w) (s : State w) (block : List (BitVec w)) : State w :=
  let done := v.rounds.foldl
    (fun (acc : State w × List (BitVec w)) k =>
      (v.round acc.1 k (acc.2.headD 0), v.slide acc.2))
    (s, block)
  s.add done.1

/-- A message followed by its padding: a one bit, zero bits, and the length in bits as a
number of two words, so that the whole is a multiple of sixteen words. -/
def padded (wordBytes : Nat) (message : Bytes) : Bytes :=
  let block := 16 * wordBytes
  let zeros := (block - (message.length + 1 + 2 * wordBytes) % block) % block
  message ++ 0x80 :: List.replicate zeros 0 ++ Bytes.ofNat (2 * wordBytes) (8 * message.length)

/-- Bytes gathered into big-endian words; `fuel` bounds the number of words. -/
def gather (w wordBytes : Nat) : Nat → Bytes → List (BitVec w)
  | 0, _ => []
  | _, [] => []
  | fuel + 1, bytes =>
    BitVec.ofNat w (Bytes.toNat (bytes.take wordBytes)) ::
      gather w wordBytes fuel (bytes.drop wordBytes)

/-- Compresses the blocks of a padded message in order; `fuel` bounds the number of blocks. -/
def Variant.absorb (v : Variant w) : Nat → State w → List (BitVec w) → State w
  | 0, s, _ => s
  | _, s, [] => s
  | fuel + 1, s, words => v.absorb fuel (v.compress s (words.take 16)) (words.drop 16)

/-- The words of the final state over a message, as bytes. -/
def Variant.run (v : Variant w) (message : Bytes) : Bytes :=
  let wordBytes := w / 8
  let bytes := padded wordBytes message
  let words := gather w wordBytes bytes.length bytes
  (v.absorb words.length v.start words).words.flatMap fun x => Bytes.ofNat wordBytes x.toNat

/-- The first 32 bits of the fractional parts of the cube roots of the first 64 primes. -/
def constants32 : List (BitVec 32) :=
  [0x428a2f98, 0x71374491, 0xb5c0fbcf, 0xe9b5dba5, 0x3956c25b, 0x59f111f1, 0x923f82a4, 0xab1c5ed5,
   0xd807aa98, 0x12835b01, 0x243185be, 0x550c7dc3, 0x72be5d74, 0x80deb1fe, 0x9bdc06a7, 0xc19bf174,
   0xe49b69c1, 0xefbe4786, 0x0fc19dc6, 0x240ca1cc, 0x2de92c6f, 0x4a7484aa, 0x5cb0a9dc, 0x76f988da,
   0x983e5152, 0xa831c66d, 0xb00327c8, 0xbf597fc7, 0xc6e00bf3, 0xd5a79147, 0x06ca6351, 0x14292967,
   0x27b70a85, 0x2e1b2138, 0x4d2c6dfc, 0x53380d13, 0x650a7354, 0x766a0abb, 0x81c2c92e, 0x92722c85,
   0xa2bfe8a1, 0xa81a664b, 0xc24b8b70, 0xc76c51a3, 0xd192e819, 0xd6990624, 0xf40e3585, 0x106aa070,
   0x19a4c116, 0x1e376c08, 0x2748774c, 0x34b0bcb5, 0x391c0cb3, 0x4ed8aa4a, 0x5b9cca4f, 0x682e6ff3,
   0x748f82ee, 0x78a5636f, 0x84c87814, 0x8cc70208, 0x90befffa, 0xa4506ceb, 0xbef9a3f7, 0xc67178f2]

/-- The first 64 bits of the fractional parts of the cube roots of the first 80 primes. -/
def constants64 : List (BitVec 64) :=
  [0x428a2f98d728ae22, 0x7137449123ef65cd, 0xb5c0fbcfec4d3b2f, 0xe9b5dba58189dbbc,
   0x3956c25bf348b538, 0x59f111f1b605d019, 0x923f82a4af194f9b, 0xab1c5ed5da6d8118,
   0xd807aa98a3030242, 0x12835b0145706fbe, 0x243185be4ee4b28c, 0x550c7dc3d5ffb4e2,
   0x72be5d74f27b896f, 0x80deb1fe3b1696b1, 0x9bdc06a725c71235, 0xc19bf174cf692694,
   0xe49b69c19ef14ad2, 0xefbe4786384f25e3, 0x0fc19dc68b8cd5b5, 0x240ca1cc77ac9c65,
   0x2de92c6f592b0275, 0x4a7484aa6ea6e483, 0x5cb0a9dcbd41fbd4, 0x76f988da831153b5,
   0x983e5152ee66dfab, 0xa831c66d2db43210, 0xb00327c898fb213f, 0xbf597fc7beef0ee4,
   0xc6e00bf33da88fc2, 0xd5a79147930aa725, 0x06ca6351e003826f, 0x142929670a0e6e70,
   0x27b70a8546d22ffc, 0x2e1b21385c26c926, 0x4d2c6dfc5ac42aed, 0x53380d139d95b3df,
   0x650a73548baf63de, 0x766a0abb3c77b2a8, 0x81c2c92e47edaee6, 0x92722c851482353b,
   0xa2bfe8a14cf10364, 0xa81a664bbc423001, 0xc24b8b70d0f89791, 0xc76c51a30654be30,
   0xd192e819d6ef5218, 0xd69906245565a910, 0xf40e35855771202a, 0x106aa07032bbd1b8,
   0x19a4c116b8d2d0c8, 0x1e376c085141ab53, 0x2748774cdf8eeb99, 0x34b0bcb5e19b48a8,
   0x391c0cb3c5c95a63, 0x4ed8aa4ae3418acb, 0x5b9cca4f7763e373, 0x682e6ff3d6b2b8a3,
   0x748f82ee5defb2fc, 0x78a5636f43172f60, 0x84c87814a1f0ab72, 0x8cc702081a6439ec,
   0x90befffa23631e28, 0xa4506cebde82bde9, 0xbef9a3f7b2c67915, 0xc67178f2e372532b,
   0xca273eceea26619c, 0xd186b8c721c0c207, 0xeada7dd6cde0eb1e, 0xf57d4f7fee6ed178,
   0x06f067aa72176fba, 0x0a637dc5a2c898a6, 0x113f9804bef90dae, 0x1b710b35131c471b,
   0x28db77f523047d84, 0x32caab7b40c72493, 0x3c9ebe0a15c9bebc, 0x431d67c49c100d4c,
   0x4cc5d4becb3e42b6, 0x597f299cfc657e2a, 0x5fcb6fab3ad6faec, 0x6c44198c4a475817]

/-- The member with 32-bit words. -/
def narrow : Variant 32 where
  start := ⟨0x6a09e667, 0xbb67ae85, 0x3c6ef372, 0xa54ff53a,
   0x510e527f, 0x9b05688c, 0x1f83d9ab, 0x5be0cd19⟩
  rounds := constants32
  big0 := (2, 13, 22)
  big1 := (6, 11, 25)
  small0 := (7, 18, 3)
  small1 := (17, 19, 10)

/-- The members with 64-bit words differ in their start value only. -/
def wide (start : State 64) : Variant 64 where
  start := start
  rounds := constants64
  big0 := (28, 34, 39)
  big1 := (14, 18, 41)
  small0 := (1, 8, 7)
  small1 := (19, 61, 6)

/-- Start value of SHA-512. -/
def start512 : State 64 :=
  ⟨0x6a09e667f3bcc908, 0xbb67ae8584caa73b, 0x3c6ef372fe94f82b, 0xa54ff53a5f1d36f1,
   0x510e527fade682d1, 0x9b05688c2b3e6c1f, 0x1f83d9abfb41bd6b, 0x5be0cd19137e2179⟩

/-- Start value of SHA-384. -/
def start384 : State 64 :=
  ⟨0xcbbb9d5dc1059ed8, 0x629a292a367cd507, 0x9159015a3070dd17, 0x152fecd8f70e5939,
   0x67332667ffc00b31, 0x8eb44a8768581511, 0xdb0c2e0d64f98fa7, 0x47b5481dbefa4fa4⟩

end Sha2

/-- The digests that signatures are made over. -/
inductive Digest where
  | sha256
  | sha384
  | sha512
  deriving DecidableEq

namespace Digest

/-- The length of a digest in bytes. -/
def size : Digest → Nat
  | sha256 => 32
  | sha384 => 48
  | sha512 => 64

/-- The digest of a message. SHA-384 is a truncated run with its own start value. -/
def hash : Digest → Bytes → Bytes
  | sha256, message => Sha2.narrow.run message
  | sha384, message => ((Sha2.wide Sha2.start384).run message).take 48
  | sha512, message => (Sha2.wide Sha2.start512).run message

end Digest

end BearerGate
