import Mathlib.Algebra.Group.Nat.Defs
import Mathlib.Data.List.Forall2
import BearerGate.Base64.Lemmas

/-!
# Base64 by the Bit

What it means that a text is base64 for some bytes can be said without groups of three bytes and
four characters: the digits of the text and the bytes have the same bits, six of each digit and
eight of each byte, but for two zero bits that make up for each padding character. This holds of
what is written for the bytes, and of no other text; so the texts that are read are exactly those
which are padded as they should be and leave no bit over.

## Main results

* `bits_mul_add`: the bits of a number in two parts.
* `spells_encode`: what is written for bytes is base64 for them.
* `Spells.unique`: there is one text for bytes.
* `decode?_eq_some_iff`: a text is read as bytes exactly when it is base64 for them.
-/

namespace BearerGate.Base64

/-! ### Bits -/

/-- The lowest `width` bits of a number, the highest of them first. -/
def bits : Nat → Nat → List Bool
  | 0, _ => []
  | width + 1, n => n.testBit width :: bits width n

@[simp] theorem length_bits (width n : Nat) : (bits width n).length = width := by
  induction width with
  | zero => rfl
  | succ width ih => rw [bits, List.length_cons, ih]

/-- All bits of zero are zero. -/
theorem bits_zero (width : Nat) : bits width 0 = List.replicate width false := by
  induction width with
  | zero => rfl
  | succ width ih => rw [bits, ih, Nat.zero_testBit, List.replicate_succ]

/-- The bits of two numbers are the same if each of them is. -/
theorem bits_congr {width m n : Nat} (h : ∀ i < width, m.testBit i = n.testBit i) :
    bits width m = bits width n := by
  induction width with
  | zero => rfl
  | succ width ih =>
      rw [bits, bits, h width (Nat.lt_succ_self width),
        ih fun i hi => h i (Nat.lt_succ_of_lt hi)]

/-- The bits of a number, **in two parts**: its lowest ones, and those of the rest. -/
theorem bits_mul_add (high low m : Nat) {n : Nat} (h : n < 2 ^ low) :
    bits (high + low) (m * 2 ^ low + n) = bits high m ++ bits low n := by
  induction high with
  | zero =>
      rw [Nat.zero_add, bits, List.nil_append]
      refine bits_congr fun i hi => ?_
      rw [Nat.mul_comm, Nat.testBit_two_pow_mul_add _ h, if_pos hi]
  | succ high ih =>
      rw [Nat.succ_add, bits, bits, ih, List.cons_append, Nat.mul_comm,
        Nat.testBit_two_pow_mul_add _ h, if_neg (by omega), Nat.add_sub_cancel]

/-- The bits of a number are those of its parts. -/
theorem bits_div_mod (high low n : Nat) :
    bits high (n / 2 ^ low) ++ bits low (n % 2 ^ low) = bits (high + low) n := by
  rw [← bits_mul_add _ _ _ (Nat.mod_lt _ (Nat.two_pow_pos low)), Nat.div_add_mod']

/-- A number that has no more bits is **told by them**. -/
theorem bits_inj {width m n : Nat} (hm : m < 2 ^ width) (hn : n < 2 ^ width)
    (h : bits width m = bits width n) : m = n := by
  have hbits : ∀ w, bits w m = bits w n → ∀ i < w, m.testBit i = n.testBit i := by
    intro w hw i hi
    induction w with
    | zero => exact absurd hi (Nat.not_lt_zero i)
    | succ w ih =>
        rw [bits, bits, List.cons.injEq] at hw
        rcases Nat.lt_succ_iff_lt_or_eq.mp hi with hi | rfl
        · exact ih hw.2 hi
        · exact hw.1
  refine Nat.eq_of_testBit_eq fun i => ?_
  by_cases hi : i < width
  · exact hbits width h i hi
  · have hpow : 2 ^ width ≤ 2 ^ i := Nat.pow_le_pow_right Nat.two_pos (Nat.le_of_not_lt hi)
    rw [Nat.testBit_lt_two_pow (Nat.lt_of_lt_of_le hm hpow),
      Nat.testBit_lt_two_pow (Nat.lt_of_lt_of_le hn hpow)]

/-- There are as many bits to a list of numbers as to each of them. -/
theorem length_flatMap_bits (width : Nat) (ns : List Nat) :
    (ns.flatMap (bits width)).length = width * ns.length := by
  induction ns with
  | nil => rfl
  | cons n ns ih =>
      rw [List.flatMap_cons, List.length_append, length_bits, ih, List.length_cons, Nat.mul_succ,
        Nat.add_comm]

/-- Numbers that have no more bits are told by these, **one after the other**. -/
theorem flatMap_bits_inj {width : Nat} (hwidth : 0 < width) {ms ns : List Nat}
    (hms : ∀ m ∈ ms, m < 2 ^ width) (hns : ∀ n ∈ ns, n < 2 ^ width)
    (h : ms.flatMap (bits width) = ns.flatMap (bits width)) : ms = ns := by
  have hlength := congrArg List.length h
  rw [length_flatMap_bits, length_flatMap_bits] at hlength
  replace hlength := Nat.eq_of_mul_eq_mul_left hwidth hlength
  induction ms generalizing ns with
  | nil => exact (List.length_eq_zero_iff.mp hlength.symm).symm
  | cons m ms ih =>
      cases ns with
      | nil => cases hlength
      | cons n ns =>
          rw [List.flatMap_cons, List.flatMap_cons] at h
          obtain ⟨hhead, htail⟩ := List.append_inj h (by rw [length_bits, length_bits])
          rw [bits_inj (hms m List.mem_cons_self) (hns n List.mem_cons_self) hhead,
            ih (fun m hm => hms m (List.mem_cons_of_mem _ hm))
              (fun n hn => hns n (List.mem_cons_of_mem _ hn)) htail (Nat.succ.inj hlength)]

/-! ### The standard -/

/-- The characters of the alphabet, each at the place that is its value. -/
def alphabet : List Char :=
  "ABCDEFGHIJKLMNOPQRSTUVWXYZabcdefghijklmnopqrstuvwxyz0123456789+/".toList

/-- A text is **base64 for bytes**: it is made of characters of the alphabet and of two padding
characters at most, and the bits of the places in the alphabet are those of the bytes and two zero
bits for each padding character. -/
def Spells (text : List Char) (bytes : Bytes) : Prop :=
  ∃ (front : List Char) (places : List Nat) (padding : Nat),
    text = front ++ List.replicate padding '=' ∧ padding ≤ 2 ∧
    List.Forall₂ (fun c place => alphabet[place]? = some c) front places ∧
    places.flatMap (bits 6) =
      (bytes.map UInt8.toNat).flatMap (bits 8) ++ List.replicate (2 * padding) false

/-- A character **of base64**: one of the alphabet, or one that pads. -/
def IsBase64Char (c : Char) : Prop :=
  c ∈ alphabet ∨ c = '='

instance : DecidablePred IsBase64Char :=
  fun c => inferInstanceAs (Decidable (c ∈ alphabet ∨ c = '='))

/-- The digits that are written are those of the alphabet. -/
theorem getElem?_alphabet : ∀ n < 64, alphabet[n]? = some (standard.digit n) := by
  decide

/-- There are 64 characters in the alphabet. -/
theorem length_alphabet : alphabet.length = 64 := by
  decide

/-- Characters have places in the alphabet exactly when they are the digits of these. -/
theorem forall₂_alphabet_iff {front : List Char} {places : List Nat} :
    List.Forall₂ (fun c place => alphabet[place]? = some c) front places ↔
      (∀ n ∈ places, n < 64) ∧ front = places.map standard.digit := by
  constructor
  · intro h
    induction h with
    | nil => exact ⟨fun n hn => absurd hn List.not_mem_nil, rfl⟩
    | cons hplace _ ih =>
        have hlt := (List.getElem?_eq_some_iff.mp hplace).1
        rw [length_alphabet] at hlt
        rw [getElem?_alphabet _ hlt, Option.some.injEq] at hplace
        refine ⟨fun n hn => ?_, by rw [List.map_cons, hplace, ih.2]⟩
        rcases List.mem_cons.mp hn with rfl | hn
        · exact hlt
        · exact ih.1 n hn
  · rintro ⟨hlt, rfl⟩
    rw [List.forall₂_map_left_iff, List.forall₂_same]
    exact fun n hn => getElem?_alphabet n (hlt n hn)

/-- A text is base64 for bytes when it is the text of numbers with the bits of the bytes. -/
theorem spells_iff {text : List Char} {bytes : Bytes} :
    Spells text bytes ↔ ∃ (places : List Nat) (padding : Nat),
      (∀ n ∈ places, n < 64) ∧ padding ≤ 2 ∧
      text = places.map standard.digit ++ List.replicate padding '=' ∧
      places.flatMap (bits 6) =
        (bytes.map UInt8.toNat).flatMap (bits 8) ++ List.replicate (2 * padding) false := by
  constructor
  · rintro ⟨front, places, padding, rfl, hpadding, hfront, hbits⟩
    obtain ⟨hlt, rfl⟩ := forall₂_alphabet_iff.mp hfront
    exact ⟨places, padding, hlt, hpadding, rfl, hbits⟩
  · rintro ⟨places, padding, hlt, hpadding, rfl, hbits⟩
    exact ⟨_, places, padding, rfl, hpadding, forall₂_alphabet_iff.mpr ⟨hlt, rfl⟩, hbits⟩

/-- There are **no other characters** in base64 for bytes. -/
theorem Spells.isBase64Char {text : List Char} {bytes : Bytes} (h : Spells text bytes) {c : Char}
    (hc : c ∈ text) : IsBase64Char c := by
  obtain ⟨places, padding, hlt, -, rfl, -⟩ := spells_iff.mp h
  rcases List.mem_append.mp hc with hc | hc
  · obtain ⟨n, hn, rfl⟩ := List.mem_map.mp hc
    exact Or.inl (List.mem_of_getElem? (getElem?_alphabet n (hlt n hn)))
  · exact Or.inr (List.eq_of_mem_replicate hc)

/-! ### One text for bytes -/

/-- Two digits have the bits of their number. -/
theorem bits_two (n : Nat) : bits 6 (n / 64) ++ bits 6 (n % 64) = bits 12 n :=
  bits_div_mod 6 6 n

/-- Three digits have the bits of their number. -/
theorem bits_three (n : Nat) :
    bits 6 (n / 4096) ++ (bits 6 (n / 64 % 64) ++ bits 6 (n % 64)) = bits 18 n := by
  have htwo := bits_two (n / 64)
  rw [Nat.div_div_eq_div_mul] at htwo
  rw [← List.append_assoc, htwo]
  exact bits_div_mod 12 6 n

/-- Four digits have the bits of their number. -/
theorem bits_four (n : Nat) :
    bits 6 (n / 262144) ++ (bits 6 (n / 4096 % 64) ++ (bits 6 (n / 64 % 64) ++ bits 6 (n % 64))) =
      bits 24 n := by
  have hthree := bits_three (n / 64)
  rw [Nat.div_div_eq_div_mul, Nat.div_div_eq_div_mul] at hthree
  calc bits 6 (n / 262144) ++
        (bits 6 (n / 4096 % 64) ++ (bits 6 (n / 64 % 64) ++ bits 6 (n % 64)))
      = (bits 6 (n / 262144) ++ (bits 6 (n / 4096 % 64) ++ bits 6 (n / 64 % 64))) ++
          bits 6 (n % 64) := by simp only [List.append_assoc]
    _ = bits 18 (n / 64) ++ bits 6 (n % 64) := congrArg (· ++ bits 6 (n % 64)) hthree
    _ = bits 24 n := bits_div_mod 18 6 n

/-- Two bytes have the bits of their number. -/
theorem bits_bytes (a b : UInt8) :
    bits 8 a.toNat ++ bits 8 b.toNat = bits 16 (a.toNat * 256 + b.toNat) :=
  (bits_mul_add 8 8 a.toNat b.toNat_lt).symm

/-- What is written for bytes **is base64 for them**. -/
theorem spells_encode (bytes : Bytes) : Spells (encode standard bytes) bytes := by
  rw [spells_iff]
  fun_induction encode standard bytes with
  | case1 => exact ⟨[], 0, by simp, by omega, rfl, rfl⟩
  | case2 a n =>
      have ha := a.toNat_lt
      have hbits : bits 8 a.toNat ++ bits 4 0 = bits 12 n :=
        (bits_mul_add 8 4 a.toNat (by decide)).symm
      refine ⟨[n / 64, n % 64], 2, ?_, Nat.le_refl 2, rfl, ?_⟩
      · simp only [List.forall_mem_cons]
        exact ⟨by omega, by omega, by simp⟩
      · rw [← bits_two, bits_zero] at hbits
        simpa using hbits.symm
  | case3 a b n =>
      have ha := a.toNat_lt
      have hb := b.toNat_lt
      have hbits : bits 16 (a.toNat * 256 + b.toNat) ++ bits 2 0 = bits 18 n :=
        (bits_mul_add 16 2 _ (by decide)).symm
      refine ⟨[n / 4096, n / 64 % 64, n % 64], 1, ?_, by omega, rfl, ?_⟩
      · simp only [List.forall_mem_cons]
        exact ⟨by omega, by omega, by omega, by simp⟩
      · rw [← bits_three, bits_zero, ← bits_bytes] at hbits
        simpa using hbits.symm
  | case4 a b c rest n ih =>
      have ha := a.toNat_lt
      have hb := b.toNat_lt
      have hc := c.toNat_lt
      obtain ⟨places, padding, hlt, hpadding, htext, hrest⟩ := ih
      have hbits : bits 16 (a.toNat * 256 + b.toNat) ++ bits 8 c.toNat = bits 24 n :=
        (bits_mul_add 16 8 _ hc).symm
      refine ⟨n / 262144 :: n / 4096 % 64 :: n / 64 % 64 :: n % 64 :: places, padding, ?_,
        hpadding, by rw [htext]; rfl, ?_⟩
      · simp only [List.forall_mem_cons]
        exact ⟨by omega, by omega, by omega, by omega, hlt⟩
      · rw [← bits_four, ← bits_bytes] at hbits
        simp only [List.flatMap_cons, List.map_cons, hrest]
        simp only [← List.append_assoc] at hbits ⊢
        rw [hbits]

/-- There is **one text** that is base64 for bytes. The padding is told by the number of bits, and
the digits by the bits. -/
theorem Spells.unique {text text' : List Char} {bytes : Bytes} (h : Spells text bytes)
    (h' : Spells text' bytes) : text = text' := by
  obtain ⟨places, padding, hlt, hpadding, rfl, hbits⟩ := spells_iff.mp h
  obtain ⟨places', padding', hlt', hpadding', rfl, hbits'⟩ := spells_iff.mp h'
  have hlength := congrArg List.length hbits
  have hlength' := congrArg List.length hbits'
  simp only [List.length_append, length_flatMap_bits, List.length_map, List.length_replicate]
    at hlength hlength'
  obtain rfl : padding = padding' := by omega
  rw [flatMap_bits_inj (by decide) hlt hlt' (hbits.trans hbits'.symm)]

/-- A text **is read as bytes** exactly when it is base64 for them. -/
theorem decode?_eq_some_iff {text : List Char} {bytes : Bytes} :
    decode? standard text = some bytes ↔ Spells text bytes := by
  constructor
  · intro h
    rw [← encode_of_decode? h]
    exact spells_encode bytes
  · intro h
    rw [h.unique (spells_encode bytes)]
    exact decode?_encode standard_isReadable bytes

end BearerGate.Base64
