import BearerGate.Http.Intake
import BearerGate.Proofs.Text.Ascii
import BearerGate.Text.Blank

/-!
# Values of Headers

Of the values that a header has in a request the first counts, and it counts as text only if its
bytes are those of plain ASCII. This module describes both without looking anything up: the first
value of a header is where a list of fields can be cut so that nothing before the cut has that
name.

## Main results

* `Headers.first?_eq_some_iff`, `Headers.first?_eq_none_iff`: the first value of a header.
* `text?_eq_some_iff`: the values that are readable text, and what they read as.
* `isBlankText_charsOf_iff`: the readable values that are blank.
* `charsOf_encode`: text of plain ASCII comes over the wire unchanged.
-/

namespace BearerGate.Http

/-! ### The first value -/

/-- A value is the **first** of a header: no field before it has that name. -/
def Headers.IsFirst (headers : Headers) (name : String) (value : Bytes) : Prop :=
  ∃ before after, headers = before ++ (name, value) :: after ∧ ∀ field ∈ before, field.1 ≠ name

/-- Looking up a header finds its first value. -/
theorem Headers.first?_eq_some_iff {headers : Headers} {name : String} {value : Bytes} :
    Headers.first? headers name = some value ↔ headers.IsFirst name value := by
  constructor
  · intro h
    obtain ⟨⟨found, value⟩, hfield, rfl⟩ := Option.map_eq_some_iff.mp h
    obtain ⟨hname, before, after, rfl, hbefore⟩ := List.find?_eq_some_iff_append.mp hfield
    obtain rfl : found = name := by simpa using hname
    exact ⟨before, after, rfl, fun field hmem => by simpa using hbefore field hmem⟩
  · rintro ⟨before, after, rfl, hbefore⟩
    refine Option.map_eq_some_iff.mpr ⟨(name, value), ?_, rfl⟩
    refine List.find?_eq_some_iff_append.mpr ⟨by simp, before, after, rfl, ?_⟩
    intro field hmem
    simpa using hbefore field hmem

/-- Looking up a header finds nothing exactly when no field has its name. -/
theorem Headers.first?_eq_none_iff {headers : Headers} {name : String} :
    Headers.first? headers name = none ↔ ∀ field ∈ headers, field.1 ≠ name := by
  rw [Headers.first?, Option.map_eq_none_iff, List.find?_eq_none]
  simp only [decide_eq_true_eq, ne_eq]

/-! ### Readable values -/

/-- A byte of **plain** text: a visible character of ASCII, the space, or the tab. -/
def IsPlainByte (b : UInt8) : Prop :=
  0x20 ≤ b.toNat ∧ b.toNat ≤ 0x7E ∨ b.toNat = 0x09

/-- A value of **plain** text. -/
def IsPlain (bytes : Bytes) : Prop :=
  ∀ b ∈ bytes, IsPlainByte b

/-- The bytes that readable values are made of are those of plain text. -/
theorem isTextByte_iff {b : UInt8} : isTextByte b = true ↔ IsPlainByte b := by
  simp only [isTextByte, IsPlainByte, Bool.or_eq_true, Bool.and_eq_true, decide_eq_true_eq]
  omega

/-- A value is readable exactly when it is plain, and reads as its bytes, one by one. -/
theorem text?_eq_some_iff {bytes : Bytes} {cs : List Char} :
    text? bytes = some cs ↔ IsPlain bytes ∧ cs = charsOf bytes := by
  have hplain : bytes.all isTextByte = true ↔ IsPlain bytes := by
    simp only [List.all_eq_true, isTextByte_iff, IsPlain]
  constructor
  · intro h
    rw [text?] at h
    split at h
    · next hall =>
      cases h
      exact ⟨hplain.mp hall, rfl⟩
    · cases h
  · rintro ⟨h, rfl⟩
    rw [text?, if_pos (hplain.mpr h)]
    rfl

/-- Of the plain bytes only the space and the tab are blank. -/
theorem isBlank_charOf_iff {b : UInt8} (h : IsPlainByte b) :
    Text.isBlank (Char.ofNat b.toNat) = true ↔ b.toNat = 0x20 ∨ b.toNat = 0x09 := by
  have hlt : b.toNat < 0x80 := by
    rcases h with ⟨-, h⟩ | h <;> omega
  simp only [Text.isBlank, Utf8.toNat_charOfNat hlt, Bool.or_eq_true, Bool.and_eq_true, decide_eq_true_eq,
    beq_iff_eq]
  rcases h with ⟨hlow, hhigh⟩ | h <;> omega

/-- A readable value is blank exactly when it is made of spaces and tabs. -/
theorem isBlankText_charsOf_iff {bytes : Bytes} (h : IsPlain bytes) :
    Text.isBlankText (charsOf bytes) = true ↔ ∀ b ∈ bytes, b.toNat = 0x20 ∨ b.toNat = 0x09 := by
  simp only [Text.isBlankText, charsOf, List.all_eq_true, List.mem_map, forall_exists_index,
    and_imp, forall_apply_eq_imp_iff₂]
  exact forall₂_congr fun b hb => isBlank_charOf_iff (h b hb)

/-! ### Text as a value -/

/-- A text of ASCII is read from its bytes as it is. -/
theorem charsOf_encode {cs : List Char} (h : ∀ c ∈ cs, c.toNat < 0x80) :
    charsOf (Utf8.encode cs) = cs := by
  induction cs with
  | nil => rfl
  | cons c cs ih =>
      have hc := h c List.mem_cons_self
      have hrest := ih fun d hd => h d (List.mem_cons_of_mem c hd)
      rw [charsOf] at hrest
      rw [charsOf, Utf8.encode_cons_of_lt hc, List.map_cons, hrest, Utf8.charOfNat_byteOf hc]

/-- A text of visible characters of ASCII and spaces is a plain value. -/
theorem isPlain_encode {cs : List Char} (h : ∀ c ∈ cs, 0x20 ≤ c.toNat ∧ c.toNat ≤ 0x7E) :
    IsPlain (Utf8.encode cs) := by
  intro b hb
  obtain ⟨c, hc, hb⟩ := List.mem_flatMap.mp hb
  obtain ⟨hlow, hhigh⟩ := h c hc
  rw [Utf8.encodeChar_of_lt (by omega), List.mem_singleton] at hb
  rw [hb, IsPlainByte, Utf8.toNat_byteOf (by omega)]
  exact Or.inl ⟨hlow, hhigh⟩

end BearerGate.Http
