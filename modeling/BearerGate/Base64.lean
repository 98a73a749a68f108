import BearerGate.Text.Utf8

/-!
# Base64

Bytes as text over an alphabet of 64 characters, in the two variants that tokens and keys use:
`standard` (with `+`, `/` and padding to a multiple of four characters) and `url` (with `-`,
`_` and no padding). Reading is strict: it accepts what writing produces and nothing else, so
padding has to be as the variant says, no blank is skipped, and the unused bits of the last
character have to be zero.
-/

namespace BearerGate.Base64

/-- The last two characters of the alphabet, and whether the text is padded. -/
structure Variant where
  char62 : Char
  char63 : Char
  padded : Bool

/-- The variant of key files. -/
def standard : Variant := ⟨'+', '/', true⟩

/-- The variant of tokens. -/
def url : Variant := ⟨'-', '_', false⟩

/-- The character of a six-bit value. -/
def Variant.digit (v : Variant) (n : Nat) : Char :=
  if n < 26 then Char.ofNat ('A'.toNat + n)
  else if n < 52 then Char.ofNat ('a'.toNat + (n - 26))
  else if n < 62 then Char.ofNat ('0'.toNat + (n - 52))
  else if n = 62 then v.char62
  else v.char63

/-- The six-bit value of a character of the alphabet. -/
def Variant.value? (v : Variant) (c : Char) : Option Nat :=
  if 'A' ≤ c ∧ c ≤ 'Z' then some (c.toNat - 'A'.toNat)
  else if 'a' ≤ c ∧ c ≤ 'z' then some (c.toNat - 'a'.toNat + 26)
  else if '0' ≤ c ∧ c ≤ '9' then some (c.toNat - '0'.toNat + 52)
  else if c = v.char62 then some 62
  else if c = v.char63 then some 63
  else none

/-- The padding at the end of a text whose last group lacks `n` characters. -/
def Variant.padding (v : Variant) (n : Nat) : List Char :=
  if v.padded then List.replicate n '=' else []

/-- The text of a byte sequence. -/
def encode (v : Variant) : Bytes → List Char
  | [] => []
  | [a] =>
    let n := a.toNat * 16
    [v.digit (n / 64), v.digit (n % 64)] ++ v.padding 2
  | [a, b] =>
    let n := (a.toNat * 256 + b.toNat) * 4
    [v.digit (n / 4096), v.digit (n / 64 % 64), v.digit (n % 64)] ++ v.padding 1
  | a :: b :: c :: rest =>
    let n := (a.toNat * 256 + b.toNat) * 256 + c.toNat
    v.digit (n / 262144) :: v.digit (n / 4096 % 64) :: v.digit (n / 64 % 64) ::
      v.digit (n % 64) :: encode v rest

/-- The byte of a last group of two characters. -/
def Variant.lastOne? (v : Variant) (a b : Char) : Option Bytes := do
  let n := (← v.value? a) * 64 + (← v.value? b)
  if n % 16 = 0 then some [UInt8.ofNat (n / 16)] else none

/-- The bytes of a last group of three characters. -/
def Variant.lastTwo? (v : Variant) (a b c : Char) : Option Bytes := do
  let n := ((← v.value? a) * 64 + (← v.value? b)) * 64 + (← v.value? c)
  if n % 4 = 0 then some [UInt8.ofNat (n / 1024), UInt8.ofNat (n / 4 % 256)] else none

/-- The bytes of a full group of four characters. -/
def Variant.group? (v : Variant) (a b c d : Char) : Option Bytes := do
  let n := (((← v.value? a) * 64 + (← v.value? b)) * 64 + (← v.value? c)) * 64 + (← v.value? d)
  some [UInt8.ofNat (n / 65536), UInt8.ofNat (n / 256 % 256), UInt8.ofNat (n % 256)]

/-- The byte sequence a text stands for, if it stands for one. -/
def decode? (v : Variant) : List Char → Option Bytes
  | [] => some []
  | [_] => none
  | [a, b] => if v.padded then none else v.lastOne? a b
  | [a, b, c] => if v.padded then none else v.lastTwo? a b c
  | a :: b :: c :: d :: rest =>
    if v.padded && rest.isEmpty && d == '=' then
      if c == '=' then v.lastOne? a b else v.lastTwo? a b c
    else do
      let bytes ← v.group? a b c d
      let more ← decode? v rest
      some (bytes ++ more)

end BearerGate.Base64
