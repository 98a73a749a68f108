import BearerGate.Text.Utf8.Lemmas

/-!
# Characters of ASCII and Their Bytes

A character of ASCII is one byte, which is its code, and no other character has a byte that could
be taken for one. So a reader that goes by single bytes, looking for quotes or controls, sees
those of the text and nothing else.

## Main results

* `Utf8.encodeChar_of_lt`, `Utf8.le_of_mem_encodeChar`: the bytes of a character.
* `Utf8.size_append`, `Utf8.size_of_ascii`: the number of bytes of a text.
-/

namespace BearerGate.Utf8

/-! ### Codes -/

/-- A code of ASCII is that of its character. -/
theorem toNat_charOfNat {n : Nat} (h : n < 0x80) : (Char.ofNat n).toNat = n := by
  have hvalid : n.isValidChar := Or.inl (by omega)
  rw [Char.ofNat, dif_pos hvalid]
  rfl

/-- The byte of a character of ASCII holds its code. -/
theorem toNat_byteOf {c : Char} (h : c.toNat < 0x80) : (UInt8.ofNat c.toNat).toNat = c.toNat :=
  UInt8.toNat_ofNat_of_lt' (Nat.lt_trans h (by decide))

/-- The byte of a character of ASCII is read as the character. -/
theorem charOfNat_byteOf {c : Char} (h : c.toNat < 0x80) :
    Char.ofNat (UInt8.ofNat c.toNat).toNat = c := by
  rw [toNat_byteOf h, Char.ofNat_toNat]

/-! ### Bytes -/

/-- A character of ASCII is one byte, which is its code. -/
theorem encodeChar_of_lt {c : Char} (h : c.toNat < 0x80) :
    String.utf8EncodeChar c = [UInt8.ofNat c.toNat] := by
  have hval : c.val.toNat = c.toNat := rfl
  simp only [String.utf8EncodeChar, hval]
  rw [if_pos (by omega)]

/-- The bytes of any other character are none of ASCII. -/
theorem le_of_mem_encodeChar {c : Char} (h : 0x80 ≤ c.toNat) {b : UInt8}
    (hb : b ∈ String.utf8EncodeChar c) : 0x80 ≤ b.toNat := by
  have hval : c.val.toNat = c.toNat := rfl
  have hvalid : c.toNat < 0xD800 ∨ 0xDFFF < c.toNat ∧ c.toNat < 0x110000 := c.valid
  simp only [String.utf8EncodeChar, hval] at hb
  rw [if_neg (by omega)] at hb
  have hbyte : ∀ n : Nat, b = UInt8.ofNat n → b.toNat = n % 256 := by
    rintro n rfl
    exact UInt8.toNat_ofNat'
  split at hb
  · simp only [List.mem_cons, List.not_mem_nil, or_false] at hb
    rcases hb with hb | hb <;> rw [hbyte _ hb] <;> omega
  · split at hb
    · simp only [List.mem_cons, List.not_mem_nil, or_false] at hb
      rcases hb with hb | hb | hb <;> rw [hbyte _ hb] <;> omega
    · simp only [List.mem_cons, List.not_mem_nil, or_false] at hb
      rcases hb with hb | hb | hb | hb <;> rw [hbyte _ hb] <;> omega

/-- The bytes of a text, character by character. -/
theorem encode_cons (c : Char) (cs : List Char) :
    encode (c :: cs) = String.utf8EncodeChar c ++ encode cs := List.flatMap_cons

/-- The bytes of a text are those of its parts. -/
theorem encode_append (cs ds : List Char) : encode (cs ++ ds) = encode cs ++ encode ds :=
  List.flatMap_append

/-- The bytes of a text that starts with a character of ASCII. -/
theorem encode_cons_of_lt {c : Char} (h : c.toNat < 0x80) (cs : List Char) :
    encode (c :: cs) = UInt8.ofNat c.toNat :: encode cs := by
  rw [encode_cons, encodeChar_of_lt h]
  rfl

/-! ### Sizes -/

/-- The size of a text is that of its parts. -/
theorem size_append (cs ds : List Char) : size (cs ++ ds) = size cs + size ds := by
  rw [size, encode_append, List.length_append]
  rfl

/-- The size of a text, character by character. -/
theorem size_cons (c : Char) (cs : List Char) :
    size (c :: cs) = (String.utf8EncodeChar c).length + size cs := by
  rw [size, encode_cons, List.length_append]
  rfl

/-- A character of ASCII adds one byte. -/
theorem size_cons_of_lt {c : Char} (h : c.toNat < 0x80) (cs : List Char) :
    size (c :: cs) = size cs + 1 := by
  rw [size_cons, encodeChar_of_lt h, List.length_singleton, Nat.add_comm]

/-- A text of ASCII has as many bytes as characters. -/
theorem size_of_ascii {cs : List Char} (h : ∀ c ∈ cs, c.toNat < 0x80) : size cs = cs.length := by
  induction cs with
  | nil => rfl
  | cons c cs ih =>
      have hc := h c List.mem_cons_self
      rw [size_cons_of_lt hc, ih fun d hd => h d (List.mem_cons_of_mem c hd), List.length_cons]

/-- Part of a text has no more bytes than all of it. -/
theorem size_le_of_sublist {cs ds : List Char} (h : cs.Sublist ds) : size cs ≤ size ds := by
  induction h with
  | slnil => exact Nat.le_refl _
  | cons c _ ih =>
      rw [size_cons]
      omega
  | cons_cons c _ ih =>
      rw [size_cons, size_cons]
      omega

end BearerGate.Utf8
