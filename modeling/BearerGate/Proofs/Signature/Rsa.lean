import Mathlib.Data.Nat.Squarefree
import Mathlib.FieldTheory.Finite.Basic
import Mathlib.NumberTheory.LucasPrimality
import BearerGate.Proofs.Signature.Bytes
import BearerGate.Signature.Rsa

/-!
# RSA Signatures Verify

A signature is a power of a block, and verifying takes it to a power again; what is left to show
is that the two powers undo each other modulo the modulus, which they do whenever the exponents
are inverse modulo one less than each of its prime factors and none of these occurs twice. The
block itself survives because it is a number below the modulus: it starts with a zero byte.

## Main results

* `Modular.pow_eq`: the power by squaring and multiplying is the power.
* `Rsa.pow_modEq_self`: inverse exponents undo each other.
* `Rsa.PrivateKey.isInverse_of_isConsistent`: so do the exponents of a key whose numbers fit each
  other, if its factors are primes.
* `Rsa.verify_sign_pkcs1`: what the private half of a pair signs by PKCS#1 v1.5, the public half
  verifies.
* `Rsa.eq_of_verify_pkcs1`: it verifies nothing else for the same message.
-/

namespace BearerGate

/-! ### Powers -/

namespace Modular

/-- Squaring and multiplying gives the power, for as many bits as the exponent has. -/
theorem powStep_eq {m : Nat} : ∀ {bits base exponent acc : Nat}, acc < m → exponent < 2 ^ bits →
    powStep m bits base exponent acc = acc * base ^ exponent % m := by
  intro bits
  induction bits with
  | zero =>
      intro base exponent acc hacc hexponent
      obtain rfl : exponent = 0 := by simpa using hexponent
      rw [powStep, Nat.pow_zero, Nat.mul_one, Nat.mod_eq_of_lt hacc]
  | succ bits ih =>
      intro base exponent acc hacc hexponent
      have hm : 0 < m := by omega
      have hhalf : exponent / 2 < 2 ^ bits := by
        rw [Nat.pow_succ] at hexponent
        omega
      have hsquare (k : Nat) : k * (base * base % m) ^ (exponent / 2) % m =
          k * base ^ (2 * (exponent / 2)) % m := by
        rw [Nat.mul_mod, ← Nat.pow_mod, ← Nat.mul_mod, ← Nat.pow_two, ← Nat.pow_mul]
      rw [powStep]
      split
      · next hodd =>
        rw [ih (Nat.mod_lt _ hm) hhalf, hsquare, Nat.mod_mul_mod, Nat.mul_assoc, ← Nat.pow_succ']
        congr 3
        omega
      · next heven =>
        rw [ih hacc hhalf, hsquare]
        congr 3
        omega

/-- The **power** modulo a number is the power. -/
theorem pow_eq {m : Nat} (hm : 0 < m) (base exponent : Nat) :
    pow m base exponent = base ^ exponent % m := by
  rw [pow, powStep_eq (Nat.mod_lt _ hm) Nat.lt_log2_self, Nat.mod_mul_mod, Nat.one_mul,
    ← Nat.pow_mod]

/-- A number is **prime** if some power to one less than it is one, and no smaller power that a
prime factor leaves is. -/
theorem prime_of_pow {n a : Nat} (hn : 1 < n) (hone : pow n a (n - 1) = 1)
    (hother : ∀ q : Nat, q.Prime → q ∣ n - 1 → pow n a ((n - 1) / q) ≠ 1) : n.Prime := by
  have hcast (k : Nat) : ((a : ZMod n) ^ k = 1) ↔ pow n a k = 1 := by
    have hiff := ZMod.natCast_eq_natCast_iff' (a ^ k) 1 n
    rw [Nat.mod_eq_of_lt hn, ← pow_eq (by omega)] at hiff
    push_cast at hiff
    exact hiff
  refine lucas_primality n (a : ZMod n) ((hcast _).mpr hone) fun q hq hdvd hpow => ?_
  exact hother q hq hdvd ((hcast _).mp hpow)

end Modular

namespace Rsa

/-- The exponents of a key are **inverse** to each other: no prime factor of the modulus occurs
twice, and the product of the exponents is one more than a multiple of what is one less than it. -/
structure PrivateKey.IsInverse (key : PrivateKey) : Prop where
  squarefree : Squarefree key.modulus
  positive : 0 < key.exponent * key.secret
  dvd : ∀ p : Nat, p.Prime → p ∣ key.modulus → p - 1 ∣ key.exponent * key.secret - 1

/-- What it takes for a number to be the inverse of another. -/
theorem isInverseModulo_iff {m a b : Nat} :
    isInverseModulo m a b = true ↔ b < m ∧ a * b % m = 1 := by
  rw [isInverseModulo, Bool.and_eq_true, decide_eq_true_eq, decide_eq_true_eq]

/-- The exponents of a key whose **numbers fit each other** are inverse to each other if its factors
are primes. They are two primes, because the one has an inverse modulo the other. -/
theorem PrivateKey.isInverse_of_isConsistent {key : PrivateKey} (h : key.isConsistent = true)
    (hp : key.p.Prime) (hq : key.q.Prime) : key.IsInverse := by
  simp only [isConsistent, Bool.and_eq_true, decide_eq_true_eq, isInverseModulo_iff] at h
  obtain ⟨⟨⟨⟨⟨⟨⟨-, hmodulus⟩, -⟩, hdvdp⟩, hdvdq⟩, -⟩, -⟩, -, hinverse⟩ := h
  have hne : key.p ≠ key.q := by
    intro heq
    rw [← heq, Nat.mul_mod_right] at hinverse
    cases hinverse
  have hone : ∀ m, key.exponent * key.secret % m = 1 → m ∣ key.exponent * key.secret - 1 := by
    intro m hm
    rw [← hm]
    exact Nat.dvd_sub_mod _
  refine ⟨?_, ?_, fun r hr hdvd => ?_⟩
  · rw [← hmodulus, Nat.squarefree_mul ((Nat.coprime_primes hp hq).mpr hne)]
    exact ⟨hp.prime.squarefree, hq.prime.squarefree⟩
  · refine Nat.pos_of_ne_zero fun hzero => ?_
    rw [hzero, Nat.zero_mod] at hdvdp
    cases hdvdp
  · rw [← hmodulus] at hdvd
    rcases (Nat.Prime.dvd_mul hr).mp hdvd with h | h
    · rw [(Nat.prime_dvd_prime_iff_eq hr hp).mp h]
      exact hone _ hdvdp
    · rw [(Nat.prime_dvd_prime_iff_eq hr hq).mp h]
      exact hone _ hdvdq

/-- Modulo a prime a number stays the same under a power that is one more than a multiple of what
is one less than the prime. -/
theorem pow_modEq_self_of_prime {p k : Nat} (hp : p.Prime) (hk : 0 < k) (h : p - 1 ∣ k - 1)
    (x : Nat) : x ^ k ≡ x [MOD p] := by
  obtain ⟨j, hj⟩ := h
  have hk' : k = (p - 1) * j + 1 := by omega
  by_cases hdvd : p ∣ x
  · have hx : x ≡ 0 [MOD p] := (Nat.modEq_zero_iff_dvd).mpr hdvd
    have hpow : x ^ k ≡ 0 [MOD p] :=
      (Nat.modEq_zero_iff_dvd).mpr (Dvd.dvd.pow hdvd (by omega))
    exact hpow.trans hx.symm
  · have hcoprime : x.Coprime p := ((Nat.Prime.coprime_iff_not_dvd hp).mpr hdvd).symm
    have hone : x ^ (p - 1) ≡ 1 [MOD p] := by
      rw [← Nat.totient_prime hp]
      exact Nat.ModEq.pow_totient hcoprime
    calc x ^ k = (x ^ (p - 1)) ^ j * x := by rw [hk', Nat.pow_succ, Nat.pow_mul]
      _ ≡ 1 ^ j * x [MOD p] := (hone.pow j).mul_right x
      _ = x := by rw [Nat.one_pow, Nat.one_mul]

/-- **Inverse exponents undo each other**: taking a number to both leaves it as it is, modulo the
modulus. -/
theorem pow_modEq_self {key : PrivateKey} (hkey : key.IsInverse) (x : Nat) :
    x ^ (key.exponent * key.secret) ≡ x [MOD key.modulus] := by
  -- The difference is divided by every prime factor, and so by their product.
  have hfactor : ∀ p ∈ key.modulus.primeFactors,
      (p : Int) ∣ (x : Int) - (x : Int) ^ (key.exponent * key.secret) := by
    intro p hp
    have hprime := Nat.prime_of_mem_primeFactors hp
    have hpow := pow_modEq_self_of_prime hprime hkey.positive
      (hkey.dvd p hprime (Nat.dvd_of_mem_primeFactors hp)) x
    have hdvd := (Nat.modEq_iff_dvd).mp hpow
    push_cast at hdvd
    exact hdvd
  refine (Nat.modEq_iff_dvd).mpr ?_
  push_cast
  have hprod : ((∏ p ∈ key.modulus.primeFactors, p : Nat) : Int) ∣
      (x : Int) - (x : Int) ^ (key.exponent * key.secret) := by
    rw [Int.natCast_dvd]
    refine Finset.prod_primes_dvd _ (fun p hp => (Nat.prime_of_mem_primeFactors hp).prime) ?_
    intro p hp
    exact Int.natCast_dvd.mp (hfactor p hp)
  rwa [Nat.prod_primeFactors_of_squarefree hkey.squarefree] at hprod

/-! ### Sizes -/

/-- A number has as many bits as say so. -/
theorem lt_two_pow_bitLength (n : Nat) : n < 2 ^ bitLength n := by
  rw [bitLength]
  split
  · next h => rw [h]; decide
  · exact Nat.lt_log2_self

/-- The highest bit of a number is set. -/
theorem two_pow_le_of_bitLength {n : Nat} (h : 0 < n) : 2 ^ (bitLength n - 1) ≤ n := by
  rw [bitLength]
  rw [if_neg (by omega), Nat.add_sub_cancel]
  exact Nat.log2_self_le (by omega)

/-- A modulus fits the bytes that it is said to take. -/
theorem lt_pow_byteLength (n : Nat) : n < 256 ^ byteLength n := by
  have hlt := lt_two_pow_bitLength n
  have hle : bitLength n ≤ 8 * byteLength n := by
    rw [byteLength]
    omega
  calc n < 2 ^ bitLength n := hlt
    _ ≤ 2 ^ (8 * byteLength n) := Nat.pow_le_pow_right (by decide) hle
    _ = 256 ^ byteLength n := by rw [Nat.pow_mul]

/-- A modulus of a size that is used takes 256 to 1024 bytes, all of them. -/
theorem byteLength_of_isUsable {n : Nat} (h : isUsable n = true) :
    256 ≤ byteLength n ∧ byteLength n ≤ 1024 ∧ 256 ^ (byteLength n - 1) ≤ n := by
  simp only [isUsable, Bool.and_eq_true, decide_eq_true_eq] at h
  obtain ⟨hlow, hhigh⟩ := h
  have hpos : 0 < n := by
    rcases Nat.eq_zero_or_pos n with rfl | hn
    · simp [bitLength] at hlow
    · exact hn
  have hle : 8 * (byteLength n - 1) ≤ bitLength n - 1 := by
    rw [byteLength]
    omega
  refine ⟨by unfold byteLength; omega, by unfold byteLength; omega, ?_⟩
  calc 256 ^ (byteLength n - 1) = 2 ^ (8 * (byteLength n - 1)) := by rw [Nat.pow_mul]
    _ ≤ 2 ^ (bitLength n - 1) := Nat.pow_le_pow_right (by decide) hle
    _ ≤ n := two_pow_le_of_bitLength hpos

/-! ### Blocks -/

/-- The digest and its algorithm identifier take far less than a block. -/
theorem length_digestInfo (d : Digest) (message : Bytes) :
    (digestInfo d ++ d.hash message).length ≤ 83 := by
  rw [List.length_append, Digest.length_hash]
  cases d <;> decide

/-- A block has the size that is asked for. -/
theorem length_pkcs1Block {d : Digest} {size : Nat} (h : 256 ≤ size) (message : Bytes) :
    (pkcs1Block d size message).length = size := by
  have hlength := length_digestInfo d message
  simp only [pkcs1Block, List.cons_append, List.length_cons, List.length_append,
    List.length_replicate] at hlength ⊢
  omega

/-- A block is a number that one byte less would hold, because it starts with a zero. -/
theorem toNat_pkcs1Block_lt {d : Digest} {size : Nat} (h : 256 ≤ size) (message : Bytes) :
    Bytes.toNat (pkcs1Block d size message) < 256 ^ (size - 1) := by
  have hlength := length_pkcs1Block (d := d) h message
  obtain ⟨rest, hrest⟩ : ∃ rest, pkcs1Block d size message = 0x00 :: rest := ⟨_, rfl⟩
  rw [hrest] at hlength ⊢
  have hlt := Bytes.toNat_lt rest
  rw [List.length_cons] at hlength
  have hrestLength : rest.length = size - 1 := by omega
  rw [hrestLength] at hlt
  simpa [Bytes.toNat_cons] using hlt

/-! ### Signatures -/

/-- A signature of PKCS#1 v1.5 is the secret power of the block, whatever has been drawn. -/
theorem sign_pkcs1_eq_some_iff {d : Digest} {key : PrivateKey} {draw : Nat}
    {message signature : Bytes} :
    sign .pkcs1 d key draw message = some signature ↔ isUsable key.modulus = true ∧
      signature = Bytes.ofNat (byteLength key.modulus) (Modular.pow key.modulus
        (Bytes.toNat (pkcs1Block d (byteLength key.modulus) message)) key.secret) := by
  rw [sign]
  split
  · next h => simp [h, eq_comm]
  · next h => simp [h]

/-- **What the private half of a pair signs, the public half verifies.** -/
theorem verify_sign_pkcs1 {d : Digest} {key : PrivateKey} (hkey : key.IsInverse)
    (hpublic : key.publicKey.isUsable = true) {draw : Nat} {message signature : Bytes}
    (hsign : sign .pkcs1 d key draw message = some signature) :
    verify .pkcs1 d key.publicKey message signature = true := by
  obtain ⟨husable, rfl⟩ := sign_pkcs1_eq_some_iff.mp hsign
  obtain ⟨hsize, -, hle⟩ := byteLength_of_isUsable husable
  have hblock : Bytes.toNat (pkcs1Block d (byteLength key.modulus) message) < key.modulus :=
    Nat.lt_of_lt_of_le (toNat_pkcs1Block_lt hsize message) hle
  have hpos : 0 < key.modulus := by omega
  have hread : Bytes.toNat (Bytes.ofNat (byteLength key.modulus) (Modular.pow key.modulus
        (Bytes.toNat (pkcs1Block d (byteLength key.modulus) message)) key.secret)) =
      Bytes.toNat (pkcs1Block d (byteLength key.modulus) message) ^ key.secret % key.modulus := by
    rw [Bytes.toNat_ofNat, Modular.pow_eq hpos]
    exact Nat.mod_eq_of_lt
      (Nat.lt_trans (Nat.mod_lt _ hpos) (lt_pow_byteLength key.modulus))
  have hpower : Modular.pow key.modulus
        (Bytes.toNat (pkcs1Block d (byteLength key.modulus) message) ^ key.secret % key.modulus)
        key.exponent = Bytes.toNat (pkcs1Block d (byteLength key.modulus) message) := by
    have hself := pow_modEq_self hkey (Bytes.toNat (pkcs1Block d (byteLength key.modulus) message))
    rw [Modular.pow_eq hpos, ← Nat.pow_mod, ← Nat.pow_mul, Nat.mul_comm, hself,
      Nat.mod_eq_of_lt hblock]
  rw [verify]
  rw [hpublic]
  simp only [PrivateKey.publicKey, hread, hpower, Bytes.length_ofNat,
    Bytes.ofNat_toNat (length_pkcs1Block hsize message), Nat.mod_lt _ hpos, beq_self_eq_true,
    decide_true, Bool.and_self]

/-- What it takes for a signature of PKCS#1 v1.5 to be valid: it has the length of the modulus, is
a number below it, and its public power is the block of the message. -/
theorem verify_pkcs1_eq_true_iff {d : Digest} {key : PublicKey} {message signature : Bytes} :
    verify .pkcs1 d key message signature = true ↔ key.isUsable = true ∧
      signature.length = byteLength key.modulus ∧ Bytes.toNat signature < key.modulus ∧
      Bytes.ofNat (byteLength key.modulus)
        (Modular.pow key.modulus (Bytes.toNat signature) key.exponent) =
          pkcs1Block d (byteLength key.modulus) message := by
  simp only [verify, Bool.and_eq_true, beq_iff_eq, decide_eq_true_eq, and_assoc]

/-- **A message has one valid signature** of PKCS#1 v1.5 at most: its public power is given, and
such a power is undone by the secret one. -/
theorem eq_of_verify_pkcs1 {d : Digest} {key : PrivateKey} (hkey : key.IsInverse)
    {message s t : Bytes}
    (hs : verify .pkcs1 d key.publicKey message s = true)
    (ht : verify .pkcs1 d key.publicKey message t = true) : s = t := by
  obtain ⟨-, hslength, hslt, hsblock⟩ := verify_pkcs1_eq_true_iff.mp hs
  obtain ⟨-, htlength, htlt, htblock⟩ := verify_pkcs1_eq_true_iff.mp ht
  dsimp only [PrivateKey.publicKey] at hslength hslt hsblock htlength htlt htblock
  have hpos : 0 < key.modulus := by omega
  have hfits : ∀ n, n % key.modulus < 256 ^ byteLength key.modulus :=
    fun n => Nat.lt_trans (Nat.mod_lt n hpos) (lt_pow_byteLength key.modulus)
  have hpowers : Bytes.toNat s ^ key.exponent ≡ Bytes.toNat t ^ key.exponent [MOD key.modulus] := by
    have hblocks := congrArg Bytes.toNat (hsblock.trans htblock.symm)
    rwa [Bytes.toNat_ofNat, Bytes.toNat_ofNat, Modular.pow_eq hpos, Modular.pow_eq hpos,
      Nat.mod_eq_of_lt (hfits _), Nat.mod_eq_of_lt (hfits _)] at hblocks
  have hnumbers : Bytes.toNat s ≡ Bytes.toNat t [MOD key.modulus] := by
    have hundone := hpowers.pow key.secret
    rw [← Nat.pow_mul, ← Nat.pow_mul] at hundone
    exact (pow_modEq_self hkey _).symm.trans (hundone.trans (pow_modEq_self hkey _))
  exact Bytes.toNat_injective (hslength.trans htlength.symm) (hnumbers.eq_of_lt_of_lt hslt htlt)

end Rsa

end BearerGate
