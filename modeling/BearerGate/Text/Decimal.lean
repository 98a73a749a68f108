/-!
# Decimal Integers

Integers are written with ASCII digits and without leading zeros. They are read more freely:
one leading `+` (or `-`, for signed integers) and any number of leading zeros are accepted,
anything else is refused, and so is a value outside the width that is asked for.
-/

namespace BearerGate.Text

/-- The value of an ASCII digit. -/
def digitValue? (c : Char) : Option Nat :=
  if '0' ≤ c ∧ c ≤ '9' then some (c.toNat - '0'.toNat) else none

/-- Whether a character is an ASCII digit. -/
def isDigit (c : Char) : Bool :=
  (digitValue? c).isSome

/-- The number a run of digits stands for, most significant digit first. -/
def ofDigits (cs : List Char) : Nat :=
  cs.foldl (fun n c => 10 * n + (c.toNat - '0'.toNat)) 0

/-- Reads a non-empty run of digits. -/
def readDigits (cs : List Char) : Option Nat :=
  if !cs.isEmpty && cs.all isDigit then some (ofDigits cs) else none

/-- Reads an integer with an optional sign. -/
def readInt (cs : List Char) : Option Int :=
  match cs with
  | '-' :: rest => (readDigits rest).map fun n => -(n : Int)
  | '+' :: rest => (readDigits rest).map fun n => (n : Int)
  | _ => (readDigits cs).map fun n => (n : Int)

/-- Reads an unsigned integer below `2 ^ width`; a minus sign is refused. -/
def readUnsigned (width : Nat) (cs : List Char) : Option Nat :=
  let value := match cs with
    | '+' :: rest => readDigits rest
    | _ => readDigits cs
  value.filter fun n => n < Nat.pow 2 width

/-- Whether an integer fits 64 bits with sign. -/
def fitsInt64 (n : Int) : Bool :=
  Int64.minValue.toInt ≤ n && n ≤ Int64.maxValue.toInt

/-- Reads a signed 64-bit integer. -/
def readInt64 (cs : List Char) : Option Int64 :=
  ((readInt cs).filter fitsInt64).map Int64.ofInt

/-- The decimal digits of a natural number. -/
def writeNat (n : Nat) : List Char :=
  Nat.toDigits 10 n

/-- The decimal digits of an integer, after a minus sign where it is negative. -/
def writeInt : Int → List Char
  | .ofNat n => writeNat n
  | .negSucc n => '-' :: writeNat (n + 1)

/-- The decimal text of a signed 64-bit integer. -/
def writeInt64 (n : Int64) : List Char :=
  writeInt n.toInt

/-! ### Reading what was written -/

theorem isDigit_eq (c : Char) : isDigit c = c.isDigit := by
  have h9 : ('9' : Char).val = 57 := rfl
  have h0 : ('0' : Char).val = 48 := rfl
  simp only [isDigit, digitValue?, Char.isDigit, Char.le_def, h0, h9]
  by_cases h1 : 48 ≤ c.val <;> by_cases h2 : c.val ≤ 57 <;> simp [h1, h2]

theorem readDigits_writeNat (n : Nat) : readDigits (writeNat n) = some n := by
  have hdigits : (writeNat n).all isDigit = true := by
    rw [List.all_eq_true]
    intro c hc
    rw [isDigit_eq]
    exact Nat.isDigit_of_mem_toDigits (by decide) (by decide) hc
  have hne : (writeNat n).isEmpty = false := by
    simp [writeNat, Nat.toDigits_ne_nil]
  have hvalue : ofDigits (writeNat n) = n := Nat.ofDigitChars_toDigits (by decide) (by decide)
  simp [readDigits, hdigits, hne, hvalue]

theorem head_writeNat_isDigit {n : Nat} {c : Char} {cs : List Char} (h : writeNat n = c :: cs) :
    c.isDigit = true :=
  Nat.isDigit_of_mem_toDigits (b := 10) (n := n) (by decide) (by decide)
    (show c ∈ writeNat n by simp [h])

theorem readInt_writeInt (n : Int) : readInt (writeInt n) = some n := by
  cases n with
  | negSucc n => simp [writeInt, readInt, readDigits_writeNat, Int.negSucc_eq]
  | ofNat n =>
    have hread := readDigits_writeNat n
    cases hw : writeNat n with
    | nil => simp [hw, readDigits] at hread
    | cons c cs =>
      have hc := head_writeNat_isDigit hw
      simp only [writeInt, hw]
      rw [hw] at hread
      unfold readInt
      split
      · next heq => simp only [List.cons.injEq] at heq; simp [heq.1] at hc
      · next heq => simp only [List.cons.injEq] at heq; simp [heq.1] at hc
      · simp [hread]

theorem fitsInt64_toInt (n : Int64) : fitsInt64 n.toInt = true := by
  simp only [fitsInt64, Bool.and_eq_true, decide_eq_true_eq]
  exact ⟨Int64.minValue_le_toInt n, Int64.toInt_le n⟩

theorem readInt64_writeInt64 (n : Int64) : readInt64 (writeInt64 n) = some n := by
  rw [readInt64, writeInt64, readInt_writeInt, Option.filter_some, if_pos (fitsInt64_toInt n),
    Option.map_some, Int64.ofInt_toInt]

theorem writeInt64_injective {m n : Int64} (h : writeInt64 m = writeInt64 n) : m = n := by
  have hm := readInt64_writeInt64 m
  rw [h, readInt64_writeInt64] at hm
  exact (Option.some.inj hm).symm

theorem readUnsigned_writeNat {width n : Nat} (h : n < Nat.pow 2 width) :
    readUnsigned width (writeNat n) = some n := by
  have hread := readDigits_writeNat n
  cases hw : writeNat n with
  | nil => simp [hw, readDigits] at hread
  | cons c cs =>
    have hc := head_writeNat_isDigit hw
    rw [hw] at hread
    unfold readUnsigned
    split
    · next heq => simp only [List.cons.injEq] at heq; simp [heq.1] at hc
    · rw [hread, Option.filter_some, if_pos (decide_eq_true h)]

end BearerGate.Text
