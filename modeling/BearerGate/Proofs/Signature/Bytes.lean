import Mathlib.Algebra.Group.Nat.Defs
import BearerGate.Digest.Sha2

/-!
# Numbers as Bytes and Lengths of Digests

A number that fits is read back from its bytes, and bytes are read back from their number if it
is known how many there were. A digest is as long as it says.

## Main results

* `Bytes.toNat_ofNat`, `Bytes.ofNat_toNat`: numbers and their bytes.
* `Digest.length_hash`: the length of a digest.
-/

namespace BearerGate

namespace Bytes

/-! ### Numbers -/

/-- A byte in front counts for as much as there are bytes after it. -/
theorem toNat_cons (b : UInt8) (bytes : Bytes) :
    toNat (b :: bytes) = b.toNat * 256 ^ bytes.length + toNat bytes := by
  have hfold : ∀ (bytes : Bytes) (n : Nat),
      bytes.foldl (fun n b => 256 * n + b.toNat) n = n * 256 ^ bytes.length + toNat bytes := by
    intro bytes
    induction bytes with
    | nil => intro n; simp [toNat]
    | cons c bytes ih =>
        intro n
        rw [toNat, List.foldl_cons, List.foldl_cons, ih, ih, List.length_cons, Nat.pow_succ,
          Nat.mul_zero, Nat.zero_add, Nat.add_mul, Nat.add_assoc]
        congr 1
        rw [Nat.mul_comm 256 n, Nat.mul_assoc, Nat.mul_comm 256]
  rw [toNat, List.foldl_cons, hfold, Nat.mul_zero, Nat.zero_add]

/-- Bytes are a number below the power of 256 that their length is the exponent of. -/
theorem toNat_lt (bytes : Bytes) : toNat bytes < 256 ^ bytes.length := by
  induction bytes with
  | nil => decide
  | cons b bytes ih =>
      have hb := b.toNat_lt
      rw [toNat_cons, List.length_cons, Nat.pow_succ]
      have hstep : (b.toNat + 1) * 256 ^ bytes.length ≤ 256 * 256 ^ bytes.length :=
        Nat.mul_le_mul_right _ (by omega)
      rw [Nat.add_mul, Nat.one_mul] at hstep
      omega

/-- The bytes of a number, split at the first. -/
theorem ofNat_succ (size n : Nat) :
    ofNat (size + 1) n = UInt8.ofNat (n >>> (8 * size)) :: ofNat size n := by
  simp [ofNat, List.range_succ]

/-- As many bytes as asked for. -/
theorem length_ofNat (size n : Nat) : (ofNat size n).length = size := by
  simp [ofNat]

/-- The bytes of a number hold its remainder. -/
theorem toNat_ofNat (size n : Nat) : toNat (ofNat size n) = n % 256 ^ size := by
  induction size with
  | zero => simp [ofNat, toNat, Nat.mod_one]
  | succ size ih =>
      have hbyte : (UInt8.ofNat (n >>> (8 * size))).toNat = n / 256 ^ size % 256 := by
        rw [UInt8.toNat_ofNat', Nat.shiftRight_eq_div_pow, Nat.pow_mul]
      rw [ofNat_succ, toNat_cons, length_ofNat, ih, hbyte, Nat.mod_pow_succ, Nat.add_comm,
        Nat.mul_comm (256 ^ size)]

/-- Bytes of the same length that are the same number are the same bytes. -/
theorem toNat_injective {xs ys : Bytes} (hlength : xs.length = ys.length)
    (h : toNat xs = toNat ys) : xs = ys := by
  induction xs generalizing ys with
  | nil => exact (List.length_eq_zero_iff.mp hlength.symm).symm
  | cons x xs ih =>
      cases ys with
      | nil => cases hlength
      | cons y ys =>
          rw [List.length_cons, List.length_cons, Nat.add_right_cancel_iff] at hlength
          have hx := toNat_lt xs
          have hy := toNat_lt ys
          rw [toNat_cons, toNat_cons, ← hlength] at h
          rw [← hlength] at hy
          have hpos : 0 < 256 ^ xs.length := Nat.pow_pos (by decide)
          have hdiv := congrArg (· / 256 ^ xs.length) h
          have hmod := congrArg (· % 256 ^ xs.length) h
          simp only [Nat.mul_comm _ (256 ^ xs.length), Nat.mul_add_div hpos,
            Nat.div_eq_of_lt hx, Nat.div_eq_of_lt hy, Nat.add_zero] at hdiv
          simp only [Nat.mul_comm _ (256 ^ xs.length), Nat.mul_add_mod, Nat.mod_eq_of_lt hx,
            Nat.mod_eq_of_lt hy] at hmod
          rw [UInt8.toNat_inj.mp hdiv, ih hlength hmod]

/-- Bytes are those of their number. -/
theorem ofNat_toNat {bytes : Bytes} {size : Nat} (h : bytes.length = size) :
    ofNat size (toNat bytes) = bytes := by
  subst h
  refine toNat_injective (length_ofNat _ _) ?_
  rw [toNat_ofNat, Nat.mod_eq_of_lt (toNat_lt bytes)]

end Bytes

/-! ### Digests -/

/-- The state of a digest is eight words. -/
theorem Sha2.Variant.length_run {w : Nat} (v : Sha2.Variant w) (message : Bytes) :
    (v.run message).length = 8 * (w / 8) := by
  simp only [Sha2.Variant.run, Sha2.State.words, List.flatMap_cons, List.flatMap_nil,
    List.length_append, Bytes.length_ofNat, List.length_nil]
  omega

/-- A digest is **as long as it says**. -/
theorem Digest.length_hash (d : Digest) (message : Bytes) : (d.hash message).length = d.size := by
  cases d with
  | sha256 => exact Sha2.Variant.length_run _ _
  | sha384 =>
      rw [Digest.hash, List.length_take, Sha2.Variant.length_run]
      rfl
  | sha512 => exact Sha2.Variant.length_run _ _

end BearerGate
