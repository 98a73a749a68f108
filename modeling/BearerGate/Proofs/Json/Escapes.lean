import BearerGate.Json.Token
import BearerGate.Proofs.Text.Ascii

/-!
# Escapes

A text between quotes is written so that it can be read back, whatever it holds: quotes,
backslashes and controls are escaped, and all other characters stand for themselves. The lexer
goes through the bytes of the written form without meeting a quote or a control, and what it has
gathered unescapes to the text. At worst a character takes six times its bytes.

## Main results

* `escapeChar_cases`: the three ways in which a character is written.
* `unescape_escape`: the written form of a text stands for the text.
* `foldl_step_quote`: the lexer takes a quoted text as one token.
* `size_escape_le`, `le_size_quote`: how much room the written form takes.
-/

namespace BearerGate.Json

/-! ### Characters -/

/-- A **short** escape: a backslash and a letter of ASCII that tells the character. -/
def IsShort (c letter : Char) : Prop :=
  shortEscape? letter = some c ∧ letter ≠ 'u' ∧ letter.toNat < 0x80

/-- The **three ways** in which a character is written: by a short escape, by its code, or as it
is. -/
theorem escapeChar_cases (c : Char) :
    (∃ letter, IsShort c letter ∧ escapeChar c = ['\\', letter]) ∨
    (c.toNat < 0x20 ∧ escapeChar c =
      ['\\', 'u', '0', '0', hexDigit (c.toNat / 16), hexDigit (c.toNat % 16)]) ∨
    (0x20 ≤ c.toNat ∧ c ≠ '"' ∧ c ≠ '\\' ∧ escapeChar c = [c]) := by
  unfold escapeChar
  split
  · exact Or.inl ⟨'"', ⟨rfl, by decide, by decide⟩, rfl⟩
  · exact Or.inl ⟨'\\', ⟨rfl, by decide, by decide⟩, rfl⟩
  · exact Or.inl ⟨'b', ⟨rfl, by decide, by decide⟩, rfl⟩
  · exact Or.inl ⟨'f', ⟨rfl, by decide, by decide⟩, rfl⟩
  · exact Or.inl ⟨'n', ⟨rfl, by decide, by decide⟩, rfl⟩
  · exact Or.inl ⟨'r', ⟨rfl, by decide, by decide⟩, rfl⟩
  · exact Or.inl ⟨'t', ⟨rfl, by decide, by decide⟩, rfl⟩
  · next hquote hbackslash _ _ _ _ _ =>
    split
    · next hcontrol => exact Or.inr (Or.inl ⟨hcontrol, rfl⟩)
    · next hplain => exact Or.inr (Or.inr ⟨by omega, hquote, hbackslash, rfl⟩)

/-- A hexadecimal digit is read as its value, and is a character of ASCII. -/
theorem hexValue?_hexDigit :
    ∀ n < 16, hexValue? (hexDigit n) = some n ∧ (hexDigit n).toNat < 0x80 := by decide

/-! ### Unescaping -/

/-- The written form of a character is read as the character. -/
theorem foldl_step_escapeChar (c : Char) (done : List Char) :
    (escapeChar c).foldl Unescaping.step (.plain done none) = .plain (c :: done) none := by
  rcases escapeChar_cases c with ⟨letter, ⟨hshort, hu, -⟩, heq⟩ | ⟨hcontrol, heq⟩ |
    ⟨-, -, hbackslash, heq⟩
  · simp [heq, Unescaping.step, hu, hshort]
  · have hhigh := (hexValue?_hexDigit (c.toNat / 16) (by omega)).1
    have hlow := (hexValue?_hexDigit (c.toNat % 16) (by omega)).1
    generalize hexDigit (c.toNat / 16) = high at *
    generalize hexDigit (c.toNat % 16) = low at *
    have hopen : Unescaping.step (Unescaping.step (Unescaping.step (Unescaping.step
        (.plain done none) '\\') 'u') '0') '0' = .coded done none 2 0 := rfl
    have hnext : Unescaping.step (.coded done none 2 0) high =
        .coded done none 3 (0 * 16 + c.toNat / 16) := by
      simp only [Unescaping.step, hhigh]
      rfl
    have hcode : (0 * 16 + c.toNat / 16) * 16 + c.toNat % 16 = c.toNat := by omega
    have hlast : Unescaping.step (.coded done none 3 (0 * 16 + c.toNat / 16)) low =
        Unescaping.coding done none c.toNat := by
      simp only [Unescaping.step, hlow]
      rw [if_pos trivial, hcode]
    have hhalf : isLeadingHalf c.toNat = false ∧ isTrailingHalf c.toNat = false := by
      simp only [isLeadingHalf, isTrailingHalf, Bool.and_eq_false_iff, decide_eq_false_iff_not]
      omega
    rw [heq]
    simp only [List.foldl_cons, List.foldl_nil]
    rw [hopen, hnext, hlast, Unescaping.coding, hhalf.1, hhalf.2, Char.ofNat_toNat]
    rfl
  · simp [heq, Unescaping.step, hbackslash]

/-- The written form of a text is read as the text. -/
theorem foldl_unescaping_escape (cs done : List Char) :
    (escape cs).foldl Unescaping.step (.plain done none) = .plain (cs.reverse ++ done) none := by
  induction cs generalizing done with
  | nil => rfl
  | cons c cs ih =>
      rw [escape, List.flatMap_cons, List.foldl_append, foldl_step_escapeChar, ← escape, ih]
      simp

/-- The written form of a text **stands for** the text. -/
theorem unescape_escape (cs : List Char) : unescape (escape cs) = some cs := by
  rw [unescape, foldl_unescaping_escape]
  simp

/-- The bytes between the quotes stand for the text. -/
theorem ofBytes?_encode_escape (cs : List Char) : ofBytes? (Utf8.encode (escape cs)) = some cs := by
  rw [ofBytes?, Utf8.decode?_encode, Option.bind_some, unescape_escape]

/-! ### Lexing -/

/-- A byte that is no quote, no backslash and no control is part of a text. -/
theorem step_text {content : Bytes} {found : List Token} {b : UInt8} (hcontrol : 0x20 ≤ b.toNat)
    (hquote : Char.ofNat b.toNat ≠ '"') (hbackslash : Char.ofNat b.toNat ≠ '\\') :
    Lexer.step ⟨.text content, found⟩ b = ⟨.text (b :: content), found⟩ := by
  have hlt : ¬b < 0x20 := by
    rw [UInt8.lt_iff_toNat_lt]
    exact Nat.not_lt.mpr hcontrol
  simp only [Lexer.step]
  rw [if_neg hquote, if_neg hbackslash, if_neg hlt]

/-- Bytes that are none of ASCII are part of a text. -/
theorem foldl_step_text_of_le {bytes : Bytes} (h : ∀ b ∈ bytes, 0x80 ≤ b.toNat) (content : Bytes)
    (found : List Token) :
    bytes.foldl Lexer.step ⟨.text content, found⟩ = ⟨.text (bytes.reverse ++ content), found⟩ := by
  induction bytes generalizing content with
  | nil => rfl
  | cons b bytes ih =>
      have hb := h b List.mem_cons_self
      have hne : ∀ c : Char, c.toNat < 0x80 → Char.ofNat b.toNat ≠ c := by
        rintro c hc heq
        have hvalid : b.toNat.isValidChar := Or.inl (Nat.lt_trans b.toNat_lt (by decide))
        have htoNat : (Char.ofNat b.toNat).toNat = b.toNat := by
          rw [Char.ofNat, dif_pos hvalid]
          rfl
        rw [heq] at htoNat
        omega
      rw [List.foldl_cons, step_text (by omega) (hne _ (by decide)) (hne _ (by decide)),
        ih fun d hd => h d (List.mem_cons_of_mem b hd)]
      simp

/-- The bytes of the written form of a character are part of the text that it stands in. -/
theorem foldl_step_encode_escapeChar (c : Char) (content : Bytes) (found : List Token) :
    (Utf8.encode (escapeChar c)).foldl Lexer.step ⟨.text content, found⟩ =
      ⟨.text ((Utf8.encode (escapeChar c)).reverse ++ content), found⟩ := by
  rcases escapeChar_cases c with ⟨letter, ⟨hshort, hu, hascii⟩, heq⟩ | ⟨hcontrol, heq⟩ |
    ⟨hplain, hquote, hbackslash, heq⟩
  · rw [heq, Utf8.encode_cons_of_lt (by decide), Utf8.encode_cons_of_lt hascii]
    have hletter := Utf8.charOfNat_byteOf hascii
    have hstep (content : Bytes) : Lexer.step ⟨.escaped content, found⟩ (UInt8.ofNat letter.toNat) =
        ⟨.text (UInt8.ofNat letter.toNat :: content), found⟩ := by
      simp only [Lexer.step, hletter]
      rw [if_neg hu, hshort]
      rfl
    rw [List.foldl_cons, List.foldl_cons]
    have hopen : Lexer.step ⟨.text content, found⟩ (UInt8.ofNat '\\'.toNat) =
        ⟨.escaped (UInt8.ofNat '\\'.toNat :: content), found⟩ := rfl
    rw [hopen, hstep]
    rfl
  · obtain ⟨hhigh, hhighAscii⟩ := hexValue?_hexDigit (c.toNat / 16) (by omega)
    obtain ⟨hlow, hlowAscii⟩ := hexValue?_hexDigit (c.toNat % 16) (by omega)
    generalize hexDigit (c.toNat / 16) = high at *
    generalize hexDigit (c.toNat % 16) = low at *
    have hstep (content : Bytes) : Lexer.step ⟨.coded content 2, found⟩ (UInt8.ofNat high.toNat) =
        ⟨.coded (UInt8.ofNat high.toNat :: content) 3, found⟩ := by
      simp only [Lexer.step, Utf8.charOfNat_byteOf hhighAscii, hhigh]
      rfl
    have hlast (content : Bytes) : Lexer.step ⟨.coded content 3, found⟩ (UInt8.ofNat low.toNat) =
        ⟨.text (UInt8.ofNat low.toNat :: content), found⟩ := by
      simp only [Lexer.step, Utf8.charOfNat_byteOf hlowAscii, hlow]
      rfl
    rw [heq, Utf8.encode_cons_of_lt (by decide), Utf8.encode_cons_of_lt (by decide),
      Utf8.encode_cons_of_lt (by decide), Utf8.encode_cons_of_lt (by decide),
      Utf8.encode_cons_of_lt hhighAscii, Utf8.encode_cons_of_lt hlowAscii]
    simp only [List.foldl_cons]
    have hopen : ∀ content : Bytes,
        Lexer.step (Lexer.step (Lexer.step (Lexer.step ⟨.text content, found⟩
          (UInt8.ofNat '\\'.toNat)) (UInt8.ofNat 'u'.toNat)) (UInt8.ofNat '0'.toNat))
          (UInt8.ofNat '0'.toNat) =
        ⟨.coded (UInt8.ofNat '0'.toNat :: UInt8.ofNat '0'.toNat :: UInt8.ofNat 'u'.toNat ::
          UInt8.ofNat '\\'.toNat :: content) 2, found⟩ := fun _ => rfl
    rw [hopen, hstep, hlast]
    rfl
  · rw [heq, Utf8.encode_cons]
    by_cases hascii : c.toNat < 0x80
    · have hbyte := Utf8.charOfNat_byteOf hascii
      rw [Utf8.encodeChar_of_lt hascii]
      refine step_text ?_ ?_ ?_
      · rw [Utf8.toNat_byteOf hascii]
        exact hplain
      · rw [hbyte]
        exact hquote
      · rw [hbyte]
        exact hbackslash
    · have hnil : Utf8.encode [] = [] := rfl
      rw [hnil, List.append_nil]
      exact foldl_step_text_of_le (fun b hb => Utf8.le_of_mem_encodeChar (by omega) hb) content found

/-- The bytes of the written form of a text are part of what stands between the quotes. -/
theorem foldl_step_encode_escape (cs : List Char) (content : Bytes) (found : List Token) :
    (Utf8.encode (escape cs)).foldl Lexer.step ⟨.text content, found⟩ =
      ⟨.text ((Utf8.encode (escape cs)).reverse ++ content), found⟩ := by
  induction cs generalizing content with
  | nil => rfl
  | cons c cs ih =>
      rw [escape, List.flatMap_cons, ← escape, Utf8.encode_append, List.foldl_append,
        foldl_step_encode_escapeChar, ih, List.reverse_append, List.append_assoc]

/-- A quoted text is **one token**, which holds the text. -/
theorem foldl_step_quote (cs : List Char) (found : List Token) :
    (Utf8.encode (quote cs)).foldl Lexer.step ⟨.between, found⟩ =
      ⟨.between, .text (some cs) :: found⟩ := by
  have hopen : Lexer.step ⟨.between, found⟩ (UInt8.ofNat '"'.toNat) = ⟨.text [], found⟩ := rfl
  have hclose (content : Bytes) : Lexer.step ⟨.text content, found⟩ (UInt8.ofNat '"'.toNat) =
      ⟨.between, .text (ofBytes? content.reverse) :: found⟩ := rfl
  rw [quote, List.cons_append, Utf8.encode_cons_of_lt (by decide), Utf8.encode_append,
    List.foldl_cons, List.foldl_append, hopen, foldl_step_encode_escape,
    Utf8.encode_cons_of_lt (by decide), List.foldl_cons, hclose, List.append_nil,
    List.reverse_reverse, ofBytes?_encode_escape]
  rfl

/-! ### Sizes -/

/-- A character takes at most six times its bytes. -/
theorem size_escapeChar_le (c : Char) :
    Utf8.size (escapeChar c) ≤ 6 * (String.utf8EncodeChar c).length := by
  have hpos : 0 < (String.utf8EncodeChar c).length :=
    List.length_pos_iff.mpr String.utf8EncodeChar_ne_nil
  rcases escapeChar_cases c with ⟨letter, ⟨-, -, hascii⟩, heq⟩ | ⟨hcontrol, heq⟩ | ⟨-, -, -, heq⟩
  · rw [heq, Utf8.size_of_ascii]
    · simp only [List.length_cons, List.length_nil]
      omega
    · simp [hascii]
  · have hhigh := (hexValue?_hexDigit (c.toNat / 16) (by omega)).2
    have hlow := (hexValue?_hexDigit (c.toNat % 16) (by omega)).2
    rw [heq, Utf8.size_of_ascii]
    · simp only [List.length_cons, List.length_nil]
      omega
    · simp [hhigh, hlow]
  · rw [heq, Utf8.size_cons]
    have hnil : Utf8.size [] = 0 := rfl
    omega

/-- A text takes at most **six times** its bytes. -/
theorem size_escape_le (cs : List Char) : Utf8.size (escape cs) ≤ 6 * Utf8.size cs := by
  induction cs with
  | nil => exact Nat.le_refl _
  | cons c cs ih =>
      have hc := size_escapeChar_le c
      rw [escape, List.flatMap_cons, ← escape, Utf8.size_append, Utf8.size_cons]
      omega

/-- A quoted text takes two bytes more. -/
theorem size_quote_le (cs : List Char) : Utf8.size (quote cs) ≤ 6 * Utf8.size cs + 2 := by
  have hescape := size_escape_le cs
  have hnil : Utf8.size [] = 0 := rfl
  rw [quote, List.cons_append, Utf8.size_cons_of_lt (by decide), Utf8.size_append,
    Utf8.size_cons_of_lt (by decide)]
  omega

/-- What has a short escape is a character of ASCII. -/
theorem toNat_lt_of_isShort {c letter : Char} (h : IsShort c letter) : c.toNat < 0x80 := by
  obtain ⟨hshort, -, -⟩ := h
  unfold shortEscape? at hshort
  split at hshort <;> cases hshort <;> decide

/-- A character takes no fewer than its bytes. -/
theorem le_size_escapeChar (c : Char) :
    (String.utf8EncodeChar c).length ≤ Utf8.size (escapeChar c) := by
  rcases escapeChar_cases c with ⟨letter, hshort, heq⟩ | ⟨hcontrol, heq⟩ | ⟨-, -, -, heq⟩
  · rw [heq, Utf8.encodeChar_of_lt (toNat_lt_of_isShort hshort), Utf8.size_cons_of_lt (by decide)]
    exact Nat.le_add_left _ _
  · rw [heq, Utf8.encodeChar_of_lt (by omega), Utf8.size_cons_of_lt (by decide)]
    exact Nat.le_add_left _ _
  · rw [heq, Utf8.size_cons]
    exact Nat.le_add_right _ _

/-- A quoted text takes no fewer than its bytes. -/
theorem le_size_quote (cs : List Char) : Utf8.size cs ≤ Utf8.size (quote cs) := by
  have hescape : Utf8.size cs ≤ Utf8.size (escape cs) := by
    induction cs with
    | nil => exact Nat.le_refl _
    | cons c cs ih =>
        have hc := le_size_escapeChar c
        rw [escape, List.flatMap_cons, ← escape, Utf8.size_append, Utf8.size_cons]
        omega
  rw [quote, List.cons_append, Utf8.size_cons_of_lt (by decide), Utf8.size_append]
  omega

end BearerGate.Json
