import BearerGate.Digest.Sha2
import BearerGate.Number.Modular

/-!
# RSA Signatures

The two signature schemes of RFC 8017 over one primitive, the power modulo a public number.

* PKCS#1 v1.5 raises a fixed block to the private exponent: the digest with its full algorithm
  identifier, behind a filling of ones. There is one valid signature for each message.
* PSS raises a block that mixes the digest with a salt, which is as long as the digest; its mask
  is made with the same digest. The salt is drawn at random, which is to say that it comes from
  outside.

Only keys of 2048 to 8192 bits are used, and a signature is exactly as long as the modulus. A
private key comes with the two factors of its modulus and with what speeds up powers modulo these;
it is used only if all its numbers fit each other.
-/

namespace BearerGate.Rsa

/-- The public half of a key. -/
structure PublicKey where
  modulus : Nat
  exponent : Nat
  deriving DecidableEq

/-- A key that can sign: the numbers of the public half, the secret exponent, the two factors of the
modulus with the secret exponent reduced for each, and the inverse of the second factor modulo the
first. -/
structure PrivateKey where
  modulus : Nat
  exponent : Nat
  secret : Nat
  p : Nat
  q : Nat
  secretP : Nat
  secretQ : Nat
  inverseQ : Nat
  deriving DecidableEq

/-- The public half of a key that can sign. -/
def PrivateKey.publicKey (key : PrivateKey) : PublicKey := ⟨key.modulus, key.exponent⟩

/-- The length of a number in bits. -/
def bitLength (n : Nat) : Nat :=
  if n = 0 then 0 else n.log2 + 1

/-- The length of a modulus in bytes. -/
def byteLength (n : Nat) : Nat :=
  (bitLength n + 7) / 8

/-- Whether a modulus has a size that is used. -/
def isUsable (modulus : Nat) : Bool :=
  2048 ≤ bitLength modulus && bitLength modulus ≤ 8192

/-- Whether a public key can verify at all: both numbers odd, the exponent of 2 to 33 bits. -/
def PublicKey.isUsable (key : PublicKey) : Bool :=
  Rsa.isUsable key.modulus && key.modulus % 2 = 1 && key.exponent % 2 = 1 &&
    2 ≤ bitLength key.exponent && bitLength key.exponent ≤ 33

/-- Whether a number is the inverse of another modulo `m`, reduced. -/
def isInverseModulo (m a b : Nat) : Bool :=
  b < m && a * b % m = 1

/-- Whether the numbers of a private key fit each other. -/
def PrivateKey.isConsistent (key : PrivateKey) : Bool :=
  key.publicKey.isUsable && key.p * key.q = key.modulus && key.secret < key.modulus &&
    key.exponent * key.secret % (key.p - 1) = 1 && key.exponent * key.secret % (key.q - 1) = 1 &&
    isInverseModulo (key.p - 1) key.exponent key.secretP &&
    isInverseModulo (key.q - 1) key.exponent key.secretQ &&
    isInverseModulo key.p key.q key.inverseQ

/-- The two schemes. -/
inductive Padding where
  | pkcs1
  | pss
  deriving DecidableEq

/-! ### PKCS#1 v1.5 -/

/-- The DER form of a digest's algorithm identifier, up to where the digest follows. -/
def digestInfo : Digest → Bytes
  | .sha256 => [0x30, 0x31, 0x30, 0x0d, 0x06, 0x09, 0x60, 0x86, 0x48, 0x01, 0x65, 0x03, 0x04,
      0x02, 0x01, 0x05, 0x00, 0x04, 0x20]
  | .sha384 => [0x30, 0x41, 0x30, 0x0d, 0x06, 0x09, 0x60, 0x86, 0x48, 0x01, 0x65, 0x03, 0x04,
      0x02, 0x02, 0x05, 0x00, 0x04, 0x30]
  | .sha512 => [0x30, 0x51, 0x30, 0x0d, 0x06, 0x09, 0x60, 0x86, 0x48, 0x01, 0x65, 0x03, 0x04,
      0x02, 0x03, 0x05, 0x00, 0x04, 0x40]

/-- The block of `size` bytes that stands for a message. -/
def pkcs1Block (d : Digest) (size : Nat) (message : Bytes) : Bytes :=
  let tail := digestInfo d ++ d.hash message
  0x00 :: 0x01 :: List.replicate (size - 3 - tail.length) 0xFF ++ 0x00 :: tail

/-! ### PSS -/

/-- The first `size` bytes of the mask that a seed is stretched to. -/
def mask (d : Digest) (seed : Bytes) (size : Nat) : Bytes :=
  ((List.range (size / d.size + 1)).flatMap fun i => d.hash (seed ++ Bytes.ofNat 4 i)).take size

/-- Exclusive or, byte by byte. -/
def xor (xs ys : Bytes) : Bytes :=
  xs.zipWith (· ^^^ ·) ys

/-- The digest of a message mixed with a salt. -/
def salted (d : Digest) (salt message : Bytes) : Bytes :=
  d.hash (List.replicate 8 0 ++ d.hash message ++ salt)

/-- A byte sequence with all but the lowest `bits % 8` bits of its first byte cleared; nothing is
cleared where `bits` is a multiple of eight. -/
def clearTop (bits : Nat) : Bytes → Bytes
  | [] => []
  | b :: rest => if bits % 8 = 0 then b :: rest else UInt8.ofNat (b.toNat % Nat.pow 2 (bits % 8)) :: rest

/-- The block of `bits` bits that stands for a message under a salt. -/
def pssBlock (d : Digest) (bits : Nat) (salt message : Bytes) : Bytes :=
  let size := (bits + 7) / 8
  let h := salted d salt message
  let filling := List.replicate (size - salt.length - d.size - 2) 0
  let plain := filling ++ 0x01 :: salt
  clearTop bits (xor plain (mask d h (size - d.size - 1))) ++ h ++ [0xBC]

/-- Whether a block of `bits` bits stands for a message under some salt. -/
def isPssBlock (d : Digest) (bits : Nat) (message block : Bytes) : Bool :=
  let size := (bits + 7) / 8
  let front := size - d.size - 1
  let masked := block.take front
  let h := (block.drop front).take d.size
  let plain := clearTop bits (xor masked (mask d h front))
  let filling := front - d.size - 1
  2 * d.size + 2 ≤ size && block.drop (front + d.size) == [0xBC] &&
    clearTop bits masked == masked && plain.take filling == List.replicate filling 0 &&
    (plain.drop filling).take 1 == [0x01] && salted d (plain.drop (filling + 1)) message == h

/-! ### Signing and verifying -/

/-- The signature of a message; `none` where the key is not of a size that is used. The salt of
PSS is the bytes of a number that was drawn. -/
def sign (padding : Padding) (d : Digest) (key : PrivateKey) (draw : Nat) (message : Bytes) :
    Option Bytes :=
  if Rsa.isUsable key.modulus then
    let size := byteLength key.modulus
    let block := match padding with
      | .pkcs1 => pkcs1Block d size message
      | .pss => pssBlock d (bitLength key.modulus - 1) (Bytes.ofNat d.size draw) message
    some (Bytes.ofNat size (Modular.pow key.modulus (Bytes.toNat block) key.secret))
  else none

/-- Whether a signature of a message is valid. -/
def verify (padding : Padding) (d : Digest) (key : PublicKey) (message signature : Bytes) : Bool :=
  let size := byteLength key.modulus
  let power := Modular.pow key.modulus (Bytes.toNat signature) key.exponent
  key.isUsable && signature.length == size && Bytes.toNat signature < key.modulus &&
    match padding with
    | .pkcs1 => Bytes.ofNat size power == pkcs1Block d size message
    | .pss =>
      let bits := bitLength key.modulus - 1
      bitLength power ≤ bits && isPssBlock d bits message (Bytes.ofNat ((bits + 7) / 8) power)

end BearerGate.Rsa
