/-!
# Words

Sums of words of 64 bits with sign, as they are reckoned by a program that looks out for the ends of
a word: a checked sum is none where it would run over an end, a saturating one stops there. A number
from outside becomes a word only if it fits.

## Main results

* `Word.checkedAdd_eq_some_iff`: a checked sum is the sum of the numbers.
* `Word.toInt_saturatingAdd`: so is a saturating one, up to the last number of a word.
-/

namespace BearerGate.Word

/-- The last number that a word with sign holds. -/
def last : Nat := Nat.pow 2 63 - 1

/-- A number as a word, if it fits. -/
def signed? (n : Nat) : Option Int64 :=
  if n ≤ last then some (Int64.ofNat n) else none

/-- The sum of two words, if it fits. -/
def checkedAdd (a b : Int64) : Option Int64 :=
  if a.toBitVec.saddOverflow b.toBitVec then none else some (a + b)

/-- The sum of two words, or the end of the words that it would run over. -/
def saturatingAdd (a b : Int64) : Int64 :=
  if a.toBitVec.saddOverflow b.toBitVec then (if b < 0 then Int64.minValue else Int64.maxValue)
  else a + b

/-! ### What the sums are -/

theorem last_eq : last = 9223372036854775807 := rfl

/-- The last word with sign is the last number. -/
theorem toInt_maxValue : Int64.maxValue.toInt = last := by
  decide

/-- A number that fits is held as it is. -/
theorem toInt_ofNat {n : Nat} (h : n ≤ last) : (Int64.ofNat n).toInt = n := by
  rw [last_eq] at h
  exact Int64.toInt_ofNat_of_lt (by omega)

/-- So does a word without sign. -/
theorem toNat_ofNat {n : Nat} (h : n ≤ last) : (UInt64.ofNat n).toNat = n := by
  rw [last_eq] at h
  exact UInt64.toNat_ofNat_of_lt' (Nat.lt_of_le_of_lt h (by decide))

/-- A word holds no number beyond the last. -/
theorem toInt_le_last (a : Int64) : a.toInt ≤ last := by
  rw [← toInt_maxValue]
  exact Int64.toInt_le a

/-- Below zero a word goes one number further. -/
theorem neg_last_le_toInt (a : Int64) : -(last : Int) - 1 ≤ a.toInt := by
  have hmin : Int64.minValue.toInt = -(last : Int) - 1 := by decide
  rw [← hmin]
  exact Int64.minValue_le_toInt a

/-- A number becomes a word exactly when it fits, and then that holds it. -/
theorem signed?_eq_some_iff {n : Nat} {a : Int64} :
    signed? n = some a ↔ n ≤ last ∧ a.toInt = n := by
  rw [signed?]
  split
  · next h =>
    rw [Option.some.injEq, ← Int64.toInt_inj, toInt_ofNat h]
    constructor
    · intro heq
      exact ⟨h, heq.symm⟩
    · rintro ⟨-, heq⟩
      exact heq.symm
  · next h => simp [h]

/-- Two words run over an end exactly when the sum of the numbers is beyond it. -/
theorem saddOverflow_iff {a b : Int64} : a.toBitVec.saddOverflow b.toBitVec = true ↔
    last < a.toInt + b.toInt ∨ a.toInt + b.toInt < -(last : Int) - 1 := by
  rw [BitVec.saddOverflow, last_eq]
  simp only [Bool.or_eq_true, decide_eq_true_eq, Int64.toInt_toBitVec]
  omega

/-- A sum that runs over no end is the sum of the numbers. -/
theorem toInt_add {a b : Int64} (h : ¬a.toBitVec.saddOverflow b.toBitVec = true) :
    (a + b).toInt = a.toInt + b.toInt := by
  rw [saddOverflow_iff, last_eq] at h
  rw [Int64.toInt_add, Int.bmod_eq_of_le (by omega) (by omega)]

/-- A number that is not negative is the same in a word without sign. -/
theorem toNat_toUInt64 {a : Int64} (h : 0 ≤ a.toInt) : (a.toUInt64.toNat : Int) = a.toInt := by
  have hlt := a.toBitVec.isLt
  rw [← Int64.toInt_toBitVec, BitVec.toInt_eq_toNat_cond] at h ⊢
  rw [← Int64.toNat_toBitVec]
  split at h
  · next hsmall => rw [if_pos hsmall]
  · omega

/-- A **checked sum** is there exactly when it fits a word, and then it is the sum of numbers. -/
theorem checkedAdd_eq_some_iff {a b c : Int64} :
    checkedAdd a b = some c ↔ c.toInt = a.toInt + b.toInt := by
  rw [checkedAdd]
  split
  · next h =>
    rw [saddOverflow_iff] at h
    have hlow := neg_last_le_toInt c
    have hhigh := toInt_le_last c
    constructor
    · intro heq
      cases heq
    · intro heq
      omega
  · next h => rw [Option.some.injEq, ← Int64.toInt_inj, toInt_add h, eq_comm]

/-- A **saturating sum** with a number that is not negative is the sum of the numbers, or the last
word where that is less. -/
theorem toInt_saturatingAdd {a b : Int64} (h : 0 ≤ b.toInt) :
    (saturatingAdd a b).toInt = min (a.toInt + b.toInt) last := by
  have hlow := neg_last_le_toInt a
  rw [saturatingAdd]
  split
  · next hover =>
    have hpos : ¬b < 0 := by
      rw [Int64.lt_iff_toInt_lt]
      exact Int.not_lt.mpr h
    rw [if_neg hpos, toInt_maxValue]
    rw [saddOverflow_iff] at hover
    omega
  · next hfits =>
    rw [toInt_add hfits]
    rw [saddOverflow_iff] at hfits
    omega

end BearerGate.Word
