import Mathlib.Control.Monad.Basic
import Mathlib.Tactic.NormNum.Prime
import BearerGate.Key.Loading
import BearerGate.Proofs.Outcome
import BearerGate.Proofs.Signature.Rsa

/-!
# Matching Keys

A key for signing and a key for verifying match if every signature of the one is valid under the
other. Nothing that is proved of issued tokens asks for more of the keys than that, and for the
bound on the length of a signature, which all keys keep. That keys match is shown here for
PKCS#1 v1.5, and so for a pair of keys that is written out.

## Main results

* `SigningKey.length_le_of_sign`: no signature is longer than 1024 bytes.
* `SigningKey.matches_rsa`: the two halves of an RSA key match.
* `samplePair_matches`: the keys that are loaded from two sample texts match.
-/

namespace BearerGate

namespace SigningKey

/-- A key for signing **matches** a key for verifying. -/
def Matches (signing : SigningKey) (verification : VerificationKey) : Prop :=
  ∀ {draw : Nat} {message signature : Bytes}, signing.sign draw message = .ok signature →
    verification.verify message signature = true

/-! ### Signatures -/

/-- An RSA signature is as long as the modulus. -/
theorem length_le_of_rsaSign {padding : Rsa.Padding} {d : Digest} {key : Rsa.PrivateKey}
    {draw : Nat} {message signature : Bytes}
    (h : Rsa.sign padding d key draw message = some signature) : signature.length ≤ 1024 := by
  rw [Rsa.sign] at h
  split at h
  · next husable =>
    cases h
    rw [Bytes.length_ofNat]
    exact (Rsa.byteLength_of_isUsable husable).2.1
  · cases h

/-- A signature over a curve is two scalars, whichever nonce has given it. -/
theorem length_le_of_ecdsaSign {curve : Ecdsa.CurveName} {secret draw : Nat}
    {message signature : Bytes}
    (h : Ecdsa.sign curve.curve secret draw message = some signature) :
    signature.length ≤ 1024 := by
  rw [Ecdsa.sign] at h
  obtain ⟨i, -, h⟩ := List.exists_of_findSome?_eq_some h
  simp only [Ecdsa.signWith, Option.bind_eq_bind, Option.bind_eq_some_iff] at h
  obtain ⟨x, -, h⟩ := h
  split at h
  · cases h
  · cases h
    rw [List.length_append, Bytes.length_ofNat, Bytes.length_ofNat]
    cases curve <;> decide

/-- **No signature is longer** than 1024 bytes. -/
theorem length_le_of_sign {key : SigningKey} {draw : Nat} {message signature : Bytes}
    (h : key.sign draw message = .ok signature) : signature.length ≤ 1024 := by
  unfold sign at h
  split at h
  · split at h
    · next hsign =>
      cases h
      exact length_le_of_rsaSign hsign
    · cases h
  · cases h
  · split at h
    · cases h
    · split at h
      · next hsign =>
        cases h
        exact length_le_of_ecdsaSign hsign
      · cases h
  · cases h
  · cases h
    simp [Ed25519.sign, Ed25519.Point.encode, Ed25519.toLittleEndian, Bytes.length_ofNat]
  · cases h

/-! ### RSA -/

/-- The two halves of an RSA key **match**. -/
theorem matches_rsa {d : Digest} {key : Rsa.PrivateKey} (hkey : key.IsInverse)
    (hpublic : key.publicKey.isUsable = true) :
    (SigningKey.rsa .pkcs1 d (some key)).Matches (.rsa .pkcs1 d (some key.publicKey)) := by
  intro draw message signature h
  simp only [sign] at h
  split at h
  · next hsign =>
    cases h
    exact Rsa.verify_sign_pkcs1 hkey hpublic hsign
  · cases h

end SigningKey

/-! ### A pair of keys -/

/-- A prime of 1024 bits with an easy proof. -/
def sampleP : Nat := 3931 * 2 ^ 1012 + 1

/-- Another prime of 1024 bits with an easy proof. -/
def sampleQ : Nat := 7547 * 2 ^ 1011 + 1

/-- A number is **prime** if it is one more than a prime times a power of two, and the powers of
three tell it from a product. -/
theorem Modular.prime_of_factors {n k e : Nat} (hfactors : n - 1 = k * 2 ^ e) (hk : k.Prime)
    (hn : 1 < n) (hone : pow n 3 (n - 1) = 1) (htwo : pow n 3 ((n - 1) / 2) ≠ 1)
    (hother : pow n 3 ((n - 1) / k) ≠ 1) : n.Prime := by
  refine prime_of_pow hn hone fun r hr hdvd => ?_
  rw [hfactors] at hdvd
  rcases (Nat.Prime.dvd_mul hr).mp hdvd with h | h
  · rwa [(Nat.prime_dvd_prime_iff_eq hr hk).mp h]
  · rwa [(Nat.prime_dvd_prime_iff_eq hr Nat.prime_two).mp (hr.dvd_of_dvd_pow h)]

theorem prime_sampleP : sampleP.Prime := by
  have hk : Nat.Prime 3931 := by norm_num
  exact Modular.prime_of_factors (e := 1012) (by decide +kernel) hk (by decide +kernel)
    (by decide +kernel) (by decide +kernel) (by decide +kernel)

theorem prime_sampleQ : sampleQ.Prime := by
  have hk : Nat.Prime 7547 := by norm_num
  exact Modular.prime_of_factors (e := 1011) (by decide +kernel) hk (by decide +kernel)
    (by decide +kernel) (by decide +kernel) (by decide +kernel)

/-- A key of 2048 bits with the two primes. -/
def sampleKey : Rsa.PrivateKey where
  modulus := sampleP * sampleQ
  exponent := 65537
  secret := (53131 * ((sampleP - 1) * (sampleQ - 1)) + 1) / 65537
  p := sampleP
  q := sampleQ
  secretP := (2283 * (sampleP - 1) + 1) / 65537
  secretQ := (4254 * (sampleQ - 1) + 1) / 65537
  inverseQ := Modular.inverse sampleP sampleQ

/-- The numbers of the sample key fit each other. -/
theorem sampleKey_isConsistent : sampleKey.isConsistent = true := by
  decide +kernel

/-- The exponents of the sample key are inverse to each other. -/
theorem sampleKey_isInverse : sampleKey.IsInverse :=
  Rsa.PrivateKey.isInverse_of_isConsistent sampleKey_isConsistent prime_sampleP prime_sampleQ

/-- A number in DER, in so many bytes. -/
def derInteger (size n : Nat) : Bytes :=
  let length : Bytes :=
    if size < 128 then [UInt8.ofNat size]
    else if size < 256 then [0x81, UInt8.ofNat size]
    else [0x82, UInt8.ofNat (size / 256), UInt8.ofNat size]
  0x02 :: length ++ Bytes.ofNat size n

/-- The sample key in DER for signing. -/
def samplePrivateBytes : Bytes :=
  [0x30, 0x82, 0x04, 0xa4] ++ derInteger 1 0 ++ derInteger 257 sampleKey.modulus ++
    derInteger 3 sampleKey.exponent ++ derInteger 257 sampleKey.secret ++
    derInteger 129 sampleKey.p ++ derInteger 129 sampleKey.q ++ derInteger 128 sampleKey.secretP ++
    derInteger 128 sampleKey.secretQ ++ derInteger 129 sampleKey.inverseQ

/-- The sample key in DER for verifying. -/
def samplePublicBytes : Bytes :=
  [0x30, 0x82, 0x01, 0x0a] ++ derInteger 257 sampleKey.modulus ++ derInteger 3 sampleKey.exponent

/-- The characters of the sample key for signing. -/
def samplePrivateChars : List Char :=
  Pem.armor "RSA PRIVATE KEY".toList (Base64.encode Base64.standard samplePrivateBytes)

/-- The characters of the sample key for verifying. -/
def samplePublicChars : List Char :=
  Pem.armor "RSA PUBLIC KEY".toList (Base64.encode Base64.standard samplePublicBytes)

/-- The sample key as a text for signing. -/
def samplePrivateText : String := String.ofList samplePrivateChars

/-- The sample key as a text for verifying. -/
def samplePublicText : String := String.ofList samplePublicChars

/-- The key for signing that the sample text holds. -/
def sampleSigningKey : SigningKey := .rsa .pkcs1 .sha256 (some sampleKey)

/-- The key for verifying that the sample text holds. -/
def sampleVerificationKey : VerificationKey :=
  .rsa .pkcs1 .sha256 (some sampleKey.publicKey)

/-- Key bytes are loaded from PEM that holds them. -/
theorem Key.load_of_bytesFor {algorithm : Algorithm} {scheme : Scheme} {use : Key.Use}
    {cs pem : List Char} {bytes : Bytes} (hscheme : algorithm.scheme? = some scheme)
    (hpem : Key.pemText? cs use.label = some pem)
    (hbytes : Key.bytesFor scheme.family use pem = .ok bytes) :
    Key.load algorithm use (String.ofList cs) = .ok (scheme, bytes) := by
  rw [Key.load]
  rw [hscheme, String.toList_ofList]
  simp only
  rw [hpem]
  simp only
  rw [hbytes]

/-- The sample key is loaded for signing. -/
theorem load_samplePrivateText :
    SigningKey.load .rs256 samplePrivateText = .ok sampleSigningKey := by
  have hpem : Key.pemText? samplePrivateChars Key.Use.sign.label =
      some (Text.trim samplePrivateChars) := by decide +kernel
  have hbytes : Key.bytesFor .rsa .sign (Text.trim samplePrivateChars) =
      .ok samplePrivateBytes := by decide +kernel
  have hread : Key.rsaPrivate? samplePrivateBytes = some sampleKey := by decide +kernel
  refine map_eq_ok_iff.mpr ⟨(.rsa .pkcs1 .sha256, samplePrivateBytes),
    Key.load_of_bytesFor (by rfl) hpem hbytes, ?_⟩
  simp only [hread, sampleSigningKey]

/-- The sample key is loaded for verifying. -/
theorem load_samplePublicText :
    VerificationKey.load .rs256 samplePublicText = .ok sampleVerificationKey := by
  have hpem : Key.pemText? samplePublicChars Key.Use.verify.label =
      some (Text.trim samplePublicChars) := by decide +kernel
  have hbytes : Key.bytesFor .rsa .verify (Text.trim samplePublicChars) =
      .ok samplePublicBytes := by decide +kernel
  have hread : Key.rsaPublic? samplePublicBytes = some sampleKey.publicKey := by decide +kernel
  refine map_eq_ok_iff.mpr ⟨(.rsa .pkcs1 .sha256, samplePublicBytes),
    Key.load_of_bytesFor (by rfl) hpem hbytes, ?_⟩
  simp only [hread, sampleVerificationKey]

/-- The keys of the sample texts **match**. -/
theorem samplePair_matches : sampleSigningKey.Matches sampleVerificationKey :=
  SigningKey.matches_rsa sampleKey_isInverse (by decide +kernel)

end BearerGate
