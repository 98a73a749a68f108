import BearerGate.Text.Utf8

/-!
# UTF-8 Reads What It Writes

A character is written as one lead byte and up to three continuation bytes. The range that a lead
byte leaves to the byte after it excludes overlong forms and surrogates, and the bytes of a
character always lie in it; so reading goes through them without being refused and ends with the
same character.

## Main results

* `decode?_encode` — the bytes of a text are read as that text;
* `encode_injective` — different texts have different bytes.
-/

namespace BearerGate.Utf8

/-! ### Single bytes -/

/-- A continuation byte that may follow leads on. -/
theorem step_waiting {done : List Char} {p : Pending} {b : Nat} {more : Nat} (hb : b < 256)
    (hm : p.more = more + 1) (hl : p.low ≤ b) (hh : b ≤ p.high) :
    Reading.step (.reading done (some p)) (UInt8.ofNat b) =
      .reading done (some ⟨more, p.code * 64 + (b - 0x80), 0x80, 0xBF⟩) := by
  simp [Reading.step, Pending.feed, UInt8.toNat_ofNat_of_lt' hb, hl, hh, hm]

/-- The last continuation byte completes a character. -/
theorem step_complete {done : List Char} {p : Pending} {b : Nat} (hb : b < 256)
    (hm : p.more = 0) (hl : p.low ≤ b) (hh : b ≤ p.high) :
    Reading.step (.reading done (some p)) (UInt8.ofNat b) =
      .reading (Char.ofNat (p.code * 64 + (b - 0x80)) :: done) none := by
  simp [Reading.step, Pending.feed, UInt8.toNat_ofNat_of_lt' hb, hl, hh, hm]

/-- A lead byte opens a sequence. -/
theorem step_opening {done : List Char} {b : Nat} {p : Pending} (hb : b < 256) (h80 : 0x80 ≤ b)
    (hp : opening? b = some p) :
    Reading.step (.reading done none) (UInt8.ofNat b) = .reading done (some p) := by
  simp [Reading.step, UInt8.toNat_ofNat_of_lt' hb, hp, Nat.not_lt.2 h80]

/-! ### Sequences of two, three and four bytes -/

theorem foldl_step_two {done : List Char} {b n : Nat} (hb : b < 256) (h80 : 0x80 ≤ b)
    (hp : opening? b = some ⟨0, n / 64, 0x80, 0xBF⟩) :
    [UInt8.ofNat b, UInt8.ofNat (n % 64 + 128)].foldl Reading.step (.reading done none) =
      .reading (Char.ofNat n :: done) none := by
  simp only [List.foldl_cons, List.foldl_nil]
  have hcode : n / 64 * 64 + (n % 64 + 128 - 0x80) = n := by omega
  rw [step_opening hb h80 hp, step_complete (by omega) rfl (by simp) (by simp; omega)]
  simp only
  rw [hcode]

theorem foldl_step_three {done : List Char} {b n : Nat} (low high : Nat) (hb : b < 256)
    (h80 : 0x80 ≤ b) (hp : opening? b = some ⟨1, n / 4096, low, high⟩)
    (hl : low ≤ n / 64 % 64 + 128) (hh : n / 64 % 64 + 128 ≤ high) :
    [UInt8.ofNat b, UInt8.ofNat (n / 64 % 64 + 128), UInt8.ofNat (n % 64 + 128)].foldl
      Reading.step (.reading done none) = .reading (Char.ofNat n :: done) none := by
  simp only [List.foldl_cons, List.foldl_nil]
  have hcode : (n / 4096 * 64 + (n / 64 % 64 + 128 - 0x80)) * 64 + (n % 64 + 128 - 0x80) = n := by
    omega
  rw [step_opening hb h80 hp, step_waiting (by omega) rfl hl hh,
    step_complete (by omega) rfl (by simp) (by simp; omega)]
  simp only
  rw [hcode]

theorem foldl_step_four {done : List Char} {b n : Nat} (low high : Nat) (hb : b < 256)
    (h80 : 0x80 ≤ b) (hp : opening? b = some ⟨2, n / 262144, low, high⟩)
    (hl : low ≤ n / 4096 % 64 + 128) (hh : n / 4096 % 64 + 128 ≤ high) :
    [UInt8.ofNat b, UInt8.ofNat (n / 4096 % 64 + 128), UInt8.ofNat (n / 64 % 64 + 128),
      UInt8.ofNat (n % 64 + 128)].foldl Reading.step (.reading done none) =
      .reading (Char.ofNat n :: done) none := by
  simp only [List.foldl_cons, List.foldl_nil]
  have hcode : ((n / 262144 * 64 + (n / 4096 % 64 + 128 - 0x80)) * 64 +
      (n / 64 % 64 + 128 - 0x80)) * 64 + (n % 64 + 128 - 0x80) = n := by
    omega
  rw [step_opening hb h80 hp, step_waiting (by omega) rfl hl hh,
    step_waiting (by omega) rfl (by simp) (by simp; omega),
    step_complete (by omega) rfl (by simp) (by simp; omega)]
  simp only
  rw [hcode]

/-! ### Characters and texts -/

/-- The bytes of a character are read as that character. -/
theorem foldl_step_encodeChar (c : Char) (done : List Char) :
    (String.utf8EncodeChar c).foldl Reading.step (.reading done none) =
      .reading (c :: done) none := by
  have hv : c.toNat < 0xD800 ∨ 0xDFFF < c.toNat ∧ c.toNat < 0x110000 := c.valid
  have hc : c.val.toNat = c.toNat := rfl
  have hof : Char.ofNat c.toNat = c := Char.ofNat_toNat c
  simp only [String.utf8EncodeChar, hc]
  generalize c.toNat = n at *
  subst hof
  split
  · have hascii : n < 128 := by omega
    have h : (UInt8.ofNat n).toNat = n := UInt8.toNat_ofNat_of_lt' (Nat.lt_trans hascii (by decide))
    simp [Reading.step, h, hascii]
  · split
    · refine foldl_step_two (by omega) (by omega) ?_
      rw [opening?, if_pos (by omega)]
      simp only [Option.some.injEq, Pending.mk.injEq, true_and, and_true]
      omega
    · split
      · rcases (by omega : n / 4096 = 0 ∨ n / 4096 = 13 ∨ n / 4096 ≠ 0 ∧ n / 4096 ≠ 13) with
          h | h | h
        · exact foldl_step_three 0xA0 0xBF (by omega) (by omega)
            (by simp [opening?, h]) (by omega) (by omega)
        · exact foldl_step_three 0x80 0x9F (by omega) (by omega)
            (by simp [opening?, h]) (by omega) (by omega)
        · refine foldl_step_three 0x80 0xBF (by omega) (by omega) ?_
            (by omega) (by omega)
          rw [opening?, if_neg (by omega), if_neg (by omega), if_neg (by omega),
            if_pos (by omega)]
          simp only [Option.some.injEq, Pending.mk.injEq, true_and, and_true]
          omega
      · rcases (by omega : n / 262144 = 0 ∨ n / 262144 = 4 ∨ 1 ≤ n / 262144 ∧ n / 262144 ≤ 3) with
          h | h | h
        · exact foldl_step_four 0x90 0xBF (by omega) (by omega)
            (by simp [opening?, h]) (by omega) (by omega)
        · exact foldl_step_four 0x80 0x8F (by omega) (by omega)
            (by simp [opening?, h]) (by omega) (by omega)
        · refine foldl_step_four 0x80 0xBF (by omega) (by omega) ?_
            (by omega) (by omega)
          rw [opening?, if_neg (by omega), if_neg (by omega), if_neg (by omega),
            if_neg (by omega), if_neg (by omega), if_neg (by omega), if_pos (by omega)]
          simp only [Option.some.injEq, Pending.mk.injEq, true_and, and_true]
          omega

theorem foldl_step_encode (cs done : List Char) :
    (encode cs).foldl Reading.step (.reading done none) = .reading (cs.reverse ++ done) none := by
  induction cs generalizing done with
  | nil => rfl
  | cons c cs ih =>
    rw [encode, List.flatMap_cons, List.foldl_append, foldl_step_encodeChar, ← encode, ih]
    simp

/-- Reading gives back what was written. -/
theorem decode?_encode (cs : List Char) : decode? (encode cs) = some cs := by
  simp [decode?, foldl_step_encode]

theorem encode_injective {cs ds : List Char} (h : encode cs = encode ds) : cs = ds := by
  have hc := decode?_encode cs
  rw [h, decode?_encode] at hc
  exact (Option.some.inj hc).symm

end BearerGate.Utf8
