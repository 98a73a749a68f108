import BearerGate.Number.Word

/-!
# Seconds

A clock counts seconds since the epoch. `Second` is what it shows: a number that fits a word of 64
bits with sign, so that it can be read as a word with sign, which times in tokens are, and as one
without, which expiries are checked in.
-/

namespace BearerGate

/-- What a clock shows. -/
structure Second where
  toNat : Nat
  toNat_le : toNat ≤ Word.last
  deriving DecidableEq

namespace Second

instance : Coe Second Nat := ⟨toNat⟩

/-- The second with a number; a number that no clock shows starts from the epoch again. -/
def ofNat (n : Nat) : Second :=
  ⟨n % (Word.last + 1), Nat.le_of_lt_succ (Nat.mod_lt n (Nat.succ_pos Word.last))⟩

instance (n : Nat) : OfNat Second n := ⟨ofNat n⟩

/-- A second as a word with sign. -/
def signed (t : Second) : Int64 := Int64.ofNat t.toNat

/-- A second as a word without sign. -/
def unsigned (t : Second) : UInt64 := UInt64.ofNat t.toNat

theorem toNat_ofNat {n : Nat} (h : n ≤ Word.last) : (ofNat n).toNat = n :=
  Nat.mod_eq_of_lt (Nat.lt_succ_of_le h)

@[simp]
theorem toInt_signed (t : Second) : t.signed.toInt = t.toNat :=
  Word.toInt_ofNat t.toNat_le

@[simp]
theorem toNat_unsigned (t : Second) : t.unsigned.toNat = t.toNat :=
  Word.toNat_ofNat t.toNat_le

end Second

end BearerGate
