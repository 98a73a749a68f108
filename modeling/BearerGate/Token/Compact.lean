import BearerGate.Base64.Lemmas
import BearerGate.Text.Pieces

/-!
# Compact Tokens

A signed token is three base64url texts with dots between them: header, payload and signature.
The signature is made over the text of the first two. A text is cut at its last two dots, so
dots further left belong to the header and make it unreadable.
-/

namespace BearerGate

/-- The three parts of a token, still encoded. -/
structure Compact where
  header : List Char
  payload : List Char
  signature : List Char
  deriving DecidableEq

namespace Compact

/-- The text that the signature is made over. -/
def signedText (c : Compact) : List Char :=
  c.header ++ '.' :: c.payload

/-- The bytes that the signature is made over. -/
def signedBytes (c : Compact) : Bytes :=
  Utf8.encode c.signedText

/-- The text of a token. -/
def text (c : Compact) : List Char :=
  c.signedText ++ '.' :: c.signature

/-- The parts of a text that has at least two dots. -/
def ofText? (cs : List Char) : Option Compact := do
  let (signed, signature) ← Text.cutLast '.' cs
  let (header, payload) ← Text.cutLast '.' signed
  some ⟨header, payload, signature⟩

/-- The encoded form of a part. -/
def encodePart (bytes : Bytes) : List Char :=
  Base64.encode Base64.url bytes

/-- The bytes of an encoded part. -/
def decodePart? (cs : List Char) : Option Bytes :=
  Base64.decode? Base64.url cs

/-! ### Parts and their text -/

theorem decodePart?_encodePart (bytes : Bytes) : decodePart? (encodePart bytes) = some bytes :=
  Base64.decode?_encode Base64.url_isReadable bytes

/-- An encoded part holds no dot, so the dots of a token are the ones between its parts. -/
theorem dot_not_mem_encodePart (bytes : Bytes) : '.' ∉ encodePart bytes := by
  intro h
  rcases Base64.mem_encode h with h | ⟨n, hn, h⟩
  · cases h
  · have : ∀ n < 64, '.' ≠ Base64.url.digit n := by decide
    exact this n hn h

/-- Cutting gives back the parts that were put together. -/
theorem ofText?_text {c : Compact} (hp : '.' ∉ c.payload) (hs : '.' ∉ c.signature) :
    ofText? c.text = some c := by
  have hsigned : Text.cutLast '.' c.text = some (c.signedText, c.signature) :=
    Text.cutLast_append hs _
  have hparts : Text.cutLast '.' c.signedText = some (c.header, c.payload) :=
    Text.cutLast_append hp _
  simp [ofText?, hsigned, hparts]

/-- The parts that a text is cut into make up the text, and only the header may hold dots. -/
theorem text_of_ofText? {cs : List Char} {c : Compact} (h : ofText? cs = some c) :
    c.text = cs ∧ '.' ∉ c.payload ∧ '.' ∉ c.signature := by
  simp only [ofText?, Option.bind_eq_bind, Option.bind_eq_some_iff, Prod.exists] at h
  obtain ⟨signed, signature, hsigned, header, payload, hparts, h⟩ := h
  obtain rfl := Option.some.inj h
  obtain ⟨rfl, hs⟩ := Text.eq_append_of_cutLast hsigned
  obtain ⟨rfl, hp⟩ := Text.eq_append_of_cutLast hparts
  exact ⟨rfl, hp, hs⟩

end Compact

end BearerGate
