/-!
# UTF-8

Characters as bytes and bytes as characters. Reading goes through the bytes one at a time
with the pending sequence as its state, so that a long input needs no deep recursion. It is
strict: an overlong form, a surrogate, a value past `U+10FFFF`, a stray continuation byte and
an unfinished sequence are all refused. `showBytes` is the forgiving reading for display,
which puts one replacement character for each maximal broken part.
-/

namespace BearerGate

/-- A sequence of bytes. -/
abbrev Bytes := List UInt8

namespace Utf8

/-- The bytes of a text. -/
def encode (cs : List Char) : Bytes :=
  cs.flatMap String.utf8EncodeChar

/-- The number of bytes of a text. -/
def size (cs : List Char) : Nat :=
  (encode cs).length

/-- A multi-byte sequence that is not complete yet: how many continuation bytes it needs
besides the next one, the bits read so far, and the range the next byte must lie in. -/
structure Pending where
  more : Nat
  code : Nat
  low : Nat
  high : Nat

/-- What a lead byte opens; `none` where the byte opens no multi-byte sequence. The range of
the second byte excludes overlong forms, surrogates and values past the last character. -/
def opening? (b : Nat) : Option Pending :=
  if 0xC2 ≤ b ∧ b ≤ 0xDF then some ⟨0, b - 0xC0, 0x80, 0xBF⟩
  else if b = 0xE0 then some ⟨1, 0, 0xA0, 0xBF⟩
  else if b = 0xED then some ⟨1, 0xD, 0x80, 0x9F⟩
  else if 0xE1 ≤ b ∧ b ≤ 0xEF then some ⟨1, b - 0xE0, 0x80, 0xBF⟩
  else if b = 0xF0 then some ⟨2, 0, 0x90, 0xBF⟩
  else if b = 0xF4 then some ⟨2, 4, 0x80, 0x8F⟩
  else if 0xF1 ≤ b ∧ b ≤ 0xF3 then some ⟨2, b - 0xF0, 0x80, 0xBF⟩
  else none

/-- The result of handing one byte to a pending sequence. -/
inductive Fed where
  | complete (c : Char)
  | waiting (p : Pending)
  | broken

/-- Hands the next byte to a pending sequence. -/
def Pending.feed (p : Pending) (b : Nat) : Fed :=
  if p.low ≤ b ∧ b ≤ p.high then
    let code := p.code * 64 + (b - 0x80)
    match p.more with
    | 0 => .complete (Char.ofNat code)
    | more + 1 => .waiting ⟨more, code, 0x80, 0xBF⟩
  else .broken

/-- The state of strict reading: refused, or the characters read so far, last one first,
with the sequence that is pending. -/
inductive Reading where
  | refused
  | reading (done : List Char) (pending : Option Pending)

/-- Strict reading of one byte. -/
def Reading.step : Reading → UInt8 → Reading
  | .refused, _ => .refused
  | .reading done none, b =>
    let n := b.toNat
    if n < 0x80 then .reading (Char.ofNat n :: done) none
    else match opening? n with
      | some p => .reading done (some p)
      | none => .refused
  | .reading done (some p), b =>
    match p.feed b.toNat with
    | .complete c => .reading (c :: done) none
    | .waiting q => .reading done (some q)
    | .broken => .refused

/-- The text a byte sequence is the UTF-8 form of, if it is one. -/
def decode? (bytes : Bytes) : Option (List Char) :=
  match bytes.foldl Reading.step (.reading [] none) with
  | .reading done none => some done.reverse
  | _ => none

/-- Forgiving reading of one byte. -/
def showStep (state : List Char × Option Pending) (b : UInt8) : List Char × Option Pending :=
  let afresh (done : List Char) : List Char × Option Pending :=
    let n := b.toNat
    if n < 0x80 then (Char.ofNat n :: done, none)
    else match opening? n with
      | some p => (done, some p)
      | none => ('\uFFFD' :: done, none)
  match state with
  | (done, none) => afresh done
  | (done, some p) =>
    match p.feed b.toNat with
    | .complete c => (c :: done, none)
    | .waiting q => (done, some q)
    | .broken => afresh ('\uFFFD' :: done)

/-- The text of a byte sequence for display; broken parts become replacement characters. -/
def showBytes (bytes : Bytes) : List Char :=
  match bytes.foldl showStep ([], none) with
  | (done, none) => done.reverse
  | (done, some _) => ('\uFFFD' :: done).reverse

end Utf8

end BearerGate
