import BearerGate.Base64

/-!
# Base64 Has One Spelling

Writing and strict reading are inverse to each other: what was written is read as the bytes it
came from, and a text that is read is the one that would have been written. So no two texts
stand for the same bytes, whatever padding or unused bits they end in.

## Main results

* `decode?_encode` — reading gives back what was written;
* `encode_of_decode?` — a text that can be read is the written form of its bytes;
* `decode?_injective` — texts that are read as the same bytes are the same text.
-/

namespace BearerGate.Base64

/-- A variant can be read back: each six-bit value has a character of its own, and none of these
is the one that pads. -/
structure Variant.IsReadable (v : Variant) : Prop where
  value?_digit : ∀ n < 64, v.value? (v.digit n) = some n
  digit_ne_pad : ∀ n < 64, v.digit n ≠ '='

theorem standard_isReadable : standard.IsReadable := ⟨by decide, by decide⟩

theorem url_isReadable : url.IsReadable := ⟨by decide, by decide⟩

/-! ### Reading what was written -/

theorem lastOne?_digits {v : Variant} (hv : v.IsReadable) (a : UInt8) :
    v.lastOne? (v.digit (a.toNat * 16 / 64)) (v.digit (a.toNat * 16 % 64)) = some [a] := by
  have ha := a.toNat_lt
  have h : a.toNat * 16 / 64 * 64 + a.toNat * 16 % 64 = a.toNat * 16 := by omega
  have hmod : a.toNat * 16 % 16 = 0 := by omega
  have hdiv : a.toNat * 16 / 16 = a.toNat := by omega
  simp [Variant.lastOne?, hv.value?_digit _ (show a.toNat * 16 / 64 < 64 by omega),
    hv.value?_digit _ (show a.toNat * 16 % 64 < 64 by omega), h, hmod, hdiv]

theorem lastTwo?_digits {v : Variant} (hv : v.IsReadable) (a b : UInt8) (n : Nat)
    (hn : n = (a.toNat * 256 + b.toNat) * 4) :
    v.lastTwo? (v.digit (n / 4096)) (v.digit (n / 64 % 64)) (v.digit (n % 64)) =
      some [a, b] := by
  have ha := a.toNat_lt
  have hb := b.toNat_lt
  have h : (n / 4096 * 64 + n / 64 % 64) * 64 + n % 64 = n := by omega
  have hmod : n % 4 = 0 := by omega
  have h1 : n / 1024 = a.toNat := by omega
  have h2 : n / 4 % 256 = b.toNat := by omega
  simp [Variant.lastTwo?, hv.value?_digit _ (show n / 4096 < 64 by omega),
    hv.value?_digit _ (show n / 64 % 64 < 64 by omega),
    hv.value?_digit _ (show n % 64 < 64 by omega), h, hmod, h1, h2]

theorem group?_digits {v : Variant} (hv : v.IsReadable) (a b c : UInt8) (n : Nat)
    (hn : n = (a.toNat * 256 + b.toNat) * 256 + c.toNat) :
    v.group? (v.digit (n / 262144)) (v.digit (n / 4096 % 64)) (v.digit (n / 64 % 64))
      (v.digit (n % 64)) = some [a, b, c] := by
  have ha := a.toNat_lt
  have hb := b.toNat_lt
  have hc := c.toNat_lt
  have h : ((n / 262144 * 64 + n / 4096 % 64) * 64 + n / 64 % 64) * 64 + n % 64 = n := by omega
  have h1 : n / 65536 = a.toNat := by omega
  have h2 : n / 256 % 256 = b.toNat := by omega
  have h3 : n % 256 = c.toNat := by omega
  simp [Variant.group?, hv.value?_digit _ (show n / 262144 < 64 by omega),
    hv.value?_digit _ (show n / 4096 % 64 < 64 by omega),
    hv.value?_digit _ (show n / 64 % 64 < 64 by omega),
    hv.value?_digit _ (show n % 64 < 64 by omega), h, h1, h2, h3]

/-- Reading gives back what was written. -/
theorem decode?_encode {v : Variant} (hv : v.IsReadable) (bytes : Bytes) :
    decode? v (encode v bytes) = some bytes := by
  fun_induction encode v bytes with
  | case1 => rfl
  | case2 a n =>
    have h := lastOne?_digits hv a
    cases hp : v.padded <;> simp [decode?, Variant.padding, hp, n, h]
  | case3 a b n =>
    have ha := a.toNat_lt
    have h := lastTwo?_digits hv a b n rfl
    have hpad := hv.digit_ne_pad (n % 64) (by omega)
    cases hp : v.padded <;> simp [decode?, Variant.padding, hp, hpad, h]
  | case4 a b c rest n ih =>
    have h := group?_digits hv a b c n rfl
    have hpad := hv.digit_ne_pad (n % 64) (by omega)
    simp [decode?, hpad, h, ih]

/-! ### The characters written -/

/-- The characters that a variant writes, the padding apart. -/
theorem mem_encode {v : Variant} {c : Char} {bytes : Bytes} (h : c ∈ encode v bytes) :
    c = '=' ∨ ∃ n < 64, c = v.digit n := by
  have pad {n : Nat} : c ∈ v.padding n → c = '=' := by
    intro hc
    unfold Variant.padding at hc
    split at hc
    · exact List.eq_of_mem_replicate hc
    · cases hc
  fun_induction encode v bytes with
  | case1 => cases h
  | case2 a n =>
    have ha := a.toNat_lt
    simp only [List.mem_append, List.mem_cons, List.not_mem_nil, or_false] at h
    rcases h with (h | h) | h
    · exact .inr ⟨_, by omega, h⟩
    · exact .inr ⟨_, by omega, h⟩
    · exact .inl (pad h)
  | case3 a b n =>
    have ha := a.toNat_lt
    have hb := b.toNat_lt
    simp only [List.mem_append, List.mem_cons, List.not_mem_nil, or_false] at h
    rcases h with (h | h | h) | h
    · exact .inr ⟨_, by omega, h⟩
    · exact .inr ⟨_, by omega, h⟩
    · exact .inr ⟨_, by omega, h⟩
    · exact .inl (pad h)
  | case4 a b c rest n ih =>
    have ha := a.toNat_lt
    have hb := b.toNat_lt
    have hc := c.toNat_lt
    simp only [List.mem_cons] at h
    rcases h with h | h | h | h | h
    · exact .inr ⟨_, by omega, h⟩
    · exact .inr ⟨_, by omega, h⟩
    · exact .inr ⟨_, by omega, h⟩
    · exact .inr ⟨_, by omega, h⟩
    · exact ih h

/-! ### Writing what was read -/

theorem digit_of_value? {v : Variant} {c : Char} {n : Nat} (h : v.value? c = some n) :
    v.digit n = c ∧ n < 64 := by
  have hle {a b : Char} : a ≤ b ↔ a.toNat ≤ b.toNat := Char.le_def.trans UInt32.le_iff_toNat_le
  have hA : 'A'.toNat = 65 := rfl
  have hZ : 'Z'.toNat = 90 := rfl
  have ha : 'a'.toNat = 97 := rfl
  have hz : 'z'.toNat = 122 := rfl
  have h0 : '0'.toNat = 48 := rfl
  have h9 : '9'.toNat = 57 := rfl
  have hof {k : Nat} (hk : k = c.toNat) : Char.ofNat k = c := by rw [hk, Char.ofNat_toNat]
  simp only [Variant.value?, hle, hA, hZ, ha, hz, h0, h9] at h
  split at h
  · obtain rfl := Option.some.inj h
    refine ⟨?_, by omega⟩
    rw [Variant.digit, if_pos (by omega)]
    exact hof (by omega)
  · split at h
    · obtain rfl := Option.some.inj h
      refine ⟨?_, by omega⟩
      rw [Variant.digit, if_neg (by omega), if_pos (by omega)]
      exact hof (by omega)
    · split at h
      · obtain rfl := Option.some.inj h
        refine ⟨?_, by omega⟩
        rw [Variant.digit, if_neg (by omega), if_neg (by omega), if_pos (by omega)]
        exact hof (by omega)
      · split at h
        · next hc =>
          obtain rfl := Option.some.inj h
          exact ⟨hc.symm, by decide⟩
        · split at h
          · next hc =>
            obtain rfl := Option.some.inj h
            exact ⟨hc.symm, by decide⟩
          · cases h

theorem encode_of_lastOne? {v : Variant} {a b : Char} {bytes : Bytes}
    (h : v.lastOne? a b = some bytes) : encode v bytes = [a, b] ++ v.padding 2 := by
  simp only [Variant.lastOne?, Option.bind_eq_bind, Option.bind_eq_some_iff] at h
  obtain ⟨x, hx, y, hy, h⟩ := h
  obtain ⟨rfl, hx⟩ := digit_of_value? hx
  obtain ⟨rfl, hy⟩ := digit_of_value? hy
  split at h
  · next hmod =>
    obtain rfl := Option.some.inj h
    have hbyte : (UInt8.ofNat ((x * 64 + y) / 16)).toNat = (x * 64 + y) / 16 :=
      UInt8.toNat_ofNat_of_lt' (show _ < 256 by omega)
    simp only [encode, hbyte]
    rw [show (x * 64 + y) / 16 * 16 / 64 = x by omega,
      show (x * 64 + y) / 16 * 16 % 64 = y by omega]
  · cases h

theorem encode_of_lastTwo? {v : Variant} {a b c : Char} {bytes : Bytes}
    (h : v.lastTwo? a b c = some bytes) : encode v bytes = [a, b, c] ++ v.padding 1 := by
  simp only [Variant.lastTwo?, Option.bind_eq_bind, Option.bind_eq_some_iff] at h
  obtain ⟨x, hx, y, hy, z, hz, h⟩ := h
  obtain ⟨rfl, hx⟩ := digit_of_value? hx
  obtain ⟨rfl, hy⟩ := digit_of_value? hy
  obtain ⟨rfl, hz⟩ := digit_of_value? hz
  split at h
  · next hmod =>
    obtain rfl := Option.some.inj h
    have h1 : (UInt8.ofNat (((x * 64 + y) * 64 + z) / 1024)).toNat =
        ((x * 64 + y) * 64 + z) / 1024 := UInt8.toNat_ofNat_of_lt' (show _ < 256 by omega)
    have h2 : (UInt8.ofNat (((x * 64 + y) * 64 + z) / 4 % 256)).toNat =
        ((x * 64 + y) * 64 + z) / 4 % 256 := UInt8.toNat_ofNat_of_lt' (show _ < 256 by omega)
    have hn : (((x * 64 + y) * 64 + z) / 1024 * 256 + ((x * 64 + y) * 64 + z) / 4 % 256) * 4 =
        (x * 64 + y) * 64 + z := by omega
    simp only [encode, h1, h2, hn]
    rw [show ((x * 64 + y) * 64 + z) / 4096 = x by omega,
      show ((x * 64 + y) * 64 + z) / 64 % 64 = y by omega,
      show ((x * 64 + y) * 64 + z) % 64 = z by omega]
  · cases h

theorem encode_of_group? {v : Variant} {a b c d : Char} {bytes rest : Bytes}
    (h : v.group? a b c d = some bytes) :
    encode v (bytes ++ rest) = a :: b :: c :: d :: encode v rest := by
  simp only [Variant.group?, Option.bind_eq_bind, Option.bind_eq_some_iff] at h
  obtain ⟨x, hx, y, hy, z, hz, w, hw, h⟩ := h
  obtain ⟨rfl, hx⟩ := digit_of_value? hx
  obtain ⟨rfl, hy⟩ := digit_of_value? hy
  obtain ⟨rfl, hz⟩ := digit_of_value? hz
  obtain ⟨rfl, hw⟩ := digit_of_value? hw
  obtain rfl := Option.some.inj h
  have hn : ((x * 64 + y) * 64 + z) * 64 + w < 16777216 := by omega
  have h1 : (UInt8.ofNat ((((x * 64 + y) * 64 + z) * 64 + w) / 65536)).toNat =
      (((x * 64 + y) * 64 + z) * 64 + w) / 65536 := UInt8.toNat_ofNat_of_lt' (show _ < 256 by omega)
  have h2 : (UInt8.ofNat ((((x * 64 + y) * 64 + z) * 64 + w) / 256 % 256)).toNat =
      (((x * 64 + y) * 64 + z) * 64 + w) / 256 % 256 :=
    UInt8.toNat_ofNat_of_lt' (show _ < 256 by omega)
  have h3 : (UInt8.ofNat ((((x * 64 + y) * 64 + z) * 64 + w) % 256)).toNat =
      (((x * 64 + y) * 64 + z) * 64 + w) % 256 := UInt8.toNat_ofNat_of_lt' (show _ < 256 by omega)
  simp only [List.cons_append, List.nil_append, encode, h1, h2, h3]
  generalize hm : ((x * 64 + y) * 64 + z) * 64 + w = m at *
  have hback : (m / 65536 * 256 + m / 256 % 256) * 256 + m % 256 = m := by omega
  rw [hback, show m / 262144 = x by omega, show m / 4096 % 64 = y by omega,
    show m / 64 % 64 = z by omega, show m % 64 = w by omega]

/-- A text that is read is what would have been written: there is one spelling only. -/
theorem encode_of_decode? {v : Variant} {cs : List Char} {bytes : Bytes}
    (h : decode? v cs = some bytes) : encode v bytes = cs := by
  fun_induction decode? v cs generalizing bytes with
  | case1 => cases h; rfl
  | case2 => cases h
  | case3 a b hp => cases h
  | case4 a b hp => rw [encode_of_lastOne? h]; simp [Variant.padding, hp]
  | case5 => cases h
  | case6 a b c hp => rw [encode_of_lastTwo? h]; simp [Variant.padding, hp]
  | case7 a b c d rest hpad hc =>
    simp only [Bool.and_eq_true, List.isEmpty_iff, beq_iff_eq] at hpad hc
    obtain ⟨⟨hp, rfl⟩, rfl⟩ := hpad
    rw [encode_of_lastOne? h, hc]
    simp [Variant.padding, hp, List.replicate]
  | case8 a b c d rest hpad hc =>
    simp only [Bool.and_eq_true, List.isEmpty_iff, beq_iff_eq] at hpad
    obtain ⟨⟨hp, rfl⟩, rfl⟩ := hpad
    rw [encode_of_lastTwo? h]
    simp [Variant.padding, hp, List.replicate]
  | case9 a b c d rest hpad ih =>
    simp only [Option.bind_eq_bind, Option.bind_eq_some_iff] at h
    obtain ⟨group, hgroup, more, hmore, h⟩ := h
    obtain rfl := Option.some.inj h
    rw [encode_of_group? hgroup, ih hmore]

/-- Two texts that are read as the same bytes are the same text. -/
theorem decode?_injective {v : Variant} {cs ds : List Char} {bytes : Bytes}
    (hc : decode? v cs = some bytes) (hd : decode? v ds = some bytes) : cs = ds :=
  (encode_of_decode? hc).symm.trans (encode_of_decode? hd)

end BearerGate.Base64
