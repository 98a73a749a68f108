import BearerGate.Text.Utf8

/-!
# JSON Strings

What stands between the quotes of a JSON string, as text. Writing escapes the quote, the
backslash and the controls below the space, and nothing else. Reading knows all escapes of
RFC 8259; a pair of `\u` escapes that are surrogate halves makes one character, and a half
that stands alone is refused.

* `escape` — the written form of a text;
* `unescape` — the text of a written form, character by character with a state, so that a long
  string needs no deep recursion;
* `ofBytes?` — the text of the raw bytes between two quotes.
-/

namespace BearerGate.Json

/-- The lower-case hexadecimal digit of a four-bit value. -/
def hexDigit (n : Nat) : Char :=
  Char.ofNat (if n < 10 then '0'.toNat + n else 'a'.toNat + (n - 10))

/-- The value of a hexadecimal digit of either case. -/
def hexValue? (c : Char) : Option Nat :=
  if '0' ≤ c ∧ c ≤ '9' then some (c.toNat - '0'.toNat)
  else if 'a' ≤ c ∧ c ≤ 'f' then some (c.toNat - 'a'.toNat + 10)
  else if 'A' ≤ c ∧ c ≤ 'F' then some (c.toNat - 'A'.toNat + 10)
  else none

/-- The written form of one character. -/
def escapeChar (c : Char) : List Char :=
  match c with
  | '"' => ['\\', '"']
  | '\\' => ['\\', '\\']
  | '\x08' => ['\\', 'b']
  | '\x0c' => ['\\', 'f']
  | '\n' => ['\\', 'n']
  | '\r' => ['\\', 'r']
  | '\t' => ['\\', 't']
  | _ =>
    if c.toNat < 0x20 then ['\\', 'u', '0', '0', hexDigit (c.toNat / 16), hexDigit (c.toNat % 16)]
    else [c]

/-- The written form of a text, without the quotes around it. -/
def escape (cs : List Char) : List Char :=
  cs.flatMap escapeChar

/-- A text as a JSON string. -/
def quote (cs : List Char) : List Char :=
  '"' :: escape cs ++ ['"']

/-- The character that a one-letter escape stands for. -/
def shortEscape? (c : Char) : Option Char :=
  match c with
  | '"' => some '"'
  | '\\' => some '\\'
  | '/' => some '/'
  | 'b' => some '\x08'
  | 'f' => some '\x0c'
  | 'n' => some '\n'
  | 'r' => some '\r'
  | 't' => some '\t'
  | _ => none

/-- The state of reading a written form: the text read so far, last character first, and a
leading surrogate half that waits for the other one. -/
inductive Unescaping where
  | refused
  | plain (done : List Char) (half : Option Nat)
  | escaped (done : List Char) (half : Option Nat)
  | coded (done : List Char) (half : Option Nat) (digits code : Nat)

/-- Whether a code is the first half of a surrogate pair. -/
def isLeadingHalf (code : Nat) : Bool :=
  0xD800 ≤ code && code ≤ 0xDBFF

/-- Whether a code is the second half of a surrogate pair. -/
def isTrailingHalf (code : Nat) : Bool :=
  0xDC00 ≤ code && code ≤ 0xDFFF

/-- The state after a `\u` escape with all its digits. -/
def Unescaping.coding (done : List Char) (half : Option Nat) (code : Nat) : Unescaping :=
  match half with
  | none =>
    if isLeadingHalf code then .plain done (some code)
    else if isTrailingHalf code then .refused
    else .plain (Char.ofNat code :: done) none
  | some first =>
    if isTrailingHalf code then
      .plain (Char.ofNat (0x10000 + (first - 0xD800) * 0x400 + (code - 0xDC00)) :: done) none
    else .refused

/-- Reads one character of a written form. -/
def Unescaping.step : Unescaping → Char → Unescaping
  | .refused, _ => .refused
  | .plain done half, c =>
    if c = '\\' then .escaped done half
    else if half.isSome then .refused
    else .plain (c :: done) none
  | .escaped done half, c =>
    if c = 'u' then .coded done half 0 0
    else match half, shortEscape? c with
      | none, some x => .plain (x :: done) none
      | _, _ => .refused
  | .coded done half digits code, c =>
    match hexValue? c with
    | none => .refused
    | some v =>
      if digits = 3 then .coding done half (code * 16 + v)
      else .coded done half (digits + 1) (code * 16 + v)

/-- The text of a written form, if it is one. -/
def unescape (cs : List Char) : Option (List Char) :=
  match cs.foldl Unescaping.step (.plain [] none) with
  | .plain done none => some done.reverse
  | _ => none

/-- The text of the raw bytes between two quotes. -/
def ofBytes? (bytes : Bytes) : Option (List Char) :=
  (Utf8.decode? bytes).bind unescape

end BearerGate.Json
