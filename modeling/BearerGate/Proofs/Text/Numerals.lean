import Mathlib.Data.List.Induction
import BearerGate.Text.Decimal

/-!
# Numerals

Which texts denote which integers, said without reading them: one or more digits, the last of which
counts once and the others ten times what they count without it, with a sign before them or none.
Many texts denote the same integer, for leading zeros and a plus do not count. Of these one is
written, and all are read.

## Main results

* `readInt64_eq_some_iff`: what is read is what the text denotes, within the width.
* `Denotes.unique`: a text denotes one integer at most.
* `writeInt64_eq_toString`: what is written is the usual decimal form.
-/

namespace BearerGate.Text

variable {cs : List Char} {c : Char} {d n : Nat}

/-! ### Digits -/

/-- The decimal digits, each at the place of its value. -/
def decimalDigits : List Char := ['0', '1', '2', '3', '4', '5', '6', '7', '8', '9']

/-- A text of digits **stands for** a natural number. -/
inductive IsNumeral : List Char → Nat → Prop
  | digit {c : Char} {d : Nat} (h : decimalDigits[d]? = some c) : IsNumeral [c] d
  | snoc {cs : List Char} {n : Nat} {c : Char} {d : Nat} (front : IsNumeral cs n)
      (h : decimalDigits[d]? = some c) : IsNumeral (cs ++ [c]) (10 * n + d)

/-- A text **denotes** an integer: by its digits, with a sign in front of them or none. -/
inductive Denotes : List Char → Int → Prop
  | unsigned {cs : List Char} {n : Nat} (h : IsNumeral cs n) : Denotes cs n
  | plus {cs : List Char} {n : Nat} (h : IsNumeral cs n) : Denotes ('+' :: cs) n
  | minus {cs : List Char} {n : Nat} (h : IsNumeral cs n) : Denotes ('-' :: cs) (-n)

/-- The digits are the characters that are read as digits, at the places of their values. -/
theorem getElem?_decimalDigits :
    decimalDigits[d]? = some c ↔ isDigit c = true ∧ c.toNat - '0'.toNat = d := by
  have hplaces : ∀ e < 10, decimalDigits[e]? = some (Nat.digitChar e) ∧
      isDigit (Nat.digitChar e) = true ∧ (Nat.digitChar e).toNat - '0'.toNat = e := by decide
  constructor
  · intro h
    obtain ⟨hlt, -⟩ := List.getElem?_eq_some_iff.mp h
    obtain ⟨hplace, hdigit, hvalue⟩ := hplaces d hlt
    rw [h, Option.some.injEq] at hplace
    rw [hplace]
    exact ⟨hdigit, hvalue⟩
  · rintro ⟨hdigit, rfl⟩
    rw [isDigit_eq, Char.isDigit_iff_toNat] at hdigit
    have hzero : '0'.toNat = 48 := rfl
    have hnine : '9'.toNat = 57 := rfl
    have hlt : c.toNat - '0'.toNat < 10 := by omega
    have hchar : Nat.digitChar (c.toNat - '0'.toNat) = c := by
      apply Char.toNat_inj.mp
      rw [Nat.toNat_digitChar_of_lt_ten hlt]
      omega
    rw [(hplaces _ hlt).1, hchar]

/-- The value of digits, from the last one on. -/
theorem ofDigits_concat (cs : List Char) (c : Char) :
    ofDigits (cs ++ [c]) = 10 * ofDigits cs + (c.toNat - '0'.toNat) := by
  rw [ofDigits, List.foldl_append]
  rfl

/-- Digits are read if there are any, and nothing else. -/
theorem readDigits_eq_some_iff_forall :
    readDigits cs = some n ↔ cs ≠ [] ∧ (∀ c ∈ cs, isDigit c = true) ∧ ofDigits cs = n := by
  rw [readDigits]
  split
  · next h =>
    simp only [Bool.and_eq_true, Bool.not_eq_true', List.isEmpty_eq_false_iff,
      List.all_eq_true] at h
    rw [Option.some.injEq]
    exact ⟨fun hvalue => ⟨h.1, h.2, hvalue⟩, fun hvalue => hvalue.2.2⟩
  · next h =>
    simp only [Bool.and_eq_true, Bool.not_eq_true', List.isEmpty_eq_false_iff,
      List.all_eq_true] at h
    exact iff_of_false (by simp) fun hvalue => h ⟨hvalue.1, hvalue.2.1⟩

/-- **Digits are read as what they stand for.** -/
theorem readDigits_eq_some_iff : readDigits cs = some n ↔ IsNumeral cs n := by
  rw [readDigits_eq_some_iff_forall]
  constructor
  · induction cs using List.reverseRecOn generalizing n with
    | nil => exact fun h => absurd rfl h.1
    | append_singleton cs c ih =>
        rintro ⟨-, hall, rfl⟩
        have hlast : decimalDigits[c.toNat - '0'.toNat]? = some c :=
          getElem?_decimalDigits.mpr ⟨hall c (by simp), rfl⟩
        rw [ofDigits_concat]
        by_cases hcs : cs = []
        · subst hcs
          simpa [ofDigits] using IsNumeral.digit hlast
        · exact (ih ⟨hcs, fun e he => hall e (List.mem_append_left _ he), rfl⟩).snoc hlast
  · intro h
    induction h with
    | digit h =>
        obtain ⟨hdigit, hvalue⟩ := getElem?_decimalDigits.mp h
        refine ⟨by simp, by simpa using hdigit, ?_⟩
        simpa [ofDigits] using hvalue
    | snoc _ h ih =>
        obtain ⟨hdigit, hvalue⟩ := getElem?_decimalDigits.mp h
        obtain ⟨-, hall, hfront⟩ := ih
        refine ⟨by simp, fun e he => ?_, by rw [ofDigits_concat, hfront, hvalue]⟩
        rcases List.mem_append.mp he with he | he
        · exact hall e he
        · rwa [List.mem_singleton.mp he]

/-! ### Integers -/

/-- **Integers are read as what they denote.** -/
theorem readInt_eq_some_iff {i : Int} : readInt cs = some i ↔ Denotes cs i := by
  constructor
  · intro h
    unfold readInt at h
    split at h <;> simp only [Option.map_eq_some_iff, Option.bind_eq_bind,
      Option.bind_eq_some_iff, Option.pure_def, Option.some.injEq, readDigits_eq_some_iff] at h
    · obtain ⟨_, ⟨n, hn, rfl⟩, rfl⟩ := h
      exact .minus hn
    · obtain ⟨_, ⟨n, hn, rfl⟩, rfl⟩ := h
      exact .plus hn
    · obtain ⟨_, ⟨n, hn, rfl⟩, rfl⟩ := h
      exact .unsigned hn
  · intro h
    cases h with
    | minus h => simp [readInt, readDigits_eq_some_iff.mpr h]
    | plus h => simp [readInt, readDigits_eq_some_iff.mpr h]
    | unsigned h =>
        rw [← readDigits_eq_some_iff] at h
        obtain ⟨-, hall, -⟩ := readDigits_eq_some_iff_forall.mp h
        -- A sign is no digit, so there is none in front.
        unfold readInt
        split
        · exact absurd (hall '-' List.mem_cons_self) (by decide)
        · exact absurd (hall '+' List.mem_cons_self) (by decide)
        · simp [h]

/-- A text denotes **one integer** at most. -/
theorem Denotes.unique {i j : Int} (hi : Denotes cs i) (hj : Denotes cs j) : i = j := by
  rw [← readInt_eq_some_iff] at hi hj
  rw [hi] at hj
  exact Option.some.inj hj

/-- **Integers of 64 bits are read as what they denote**, as long as that fits. -/
theorem readInt64_eq_some_iff {i : Int64} : readInt64 cs = some i ↔ Denotes cs i.toInt := by
  rw [← readInt_eq_some_iff, readInt64]
  constructor
  · intro h
    obtain ⟨j, hj, rfl⟩ := Option.map_eq_some_iff.mp h
    obtain ⟨hread, hfits⟩ := Option.filter_eq_some_iff.mp hj
    simp only [fitsInt64, Bool.and_eq_true, decide_eq_true_eq] at hfits
    rw [hread, Int64.toInt_ofInt_of_le hfits.1 (Int.lt_of_le_of_lt hfits.2 (by decide))]
  · intro h
    rw [h, Option.filter_some, if_pos (fitsInt64_toInt i), Option.map_some, Int64.ofInt_toInt]

/-- What is written is the **usual decimal form**. -/
theorem writeInt64_eq_toString (i : Int64) : writeInt64 i = (toString i.toInt).toList := by
  rw [writeInt64]
  cases i.toInt with
  | ofNat n => exact Nat.toList_repr.symm
  | negSucc n =>
      change '-' :: writeNat (n + 1) = ("-" ++ (n + 1).repr).toList
      rw [String.toList_append, Nat.toList_repr]
      rfl

end BearerGate.Text
