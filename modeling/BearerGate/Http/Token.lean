import BearerGate.Text.Utf8

/-!
# HTTP Tokens

Request methods and header names are tokens of RFC 9110: non-empty texts of ASCII letters, digits
and fifteen further characters. A method is taken letter by letter; a header name is lower-cased.
-/

namespace BearerGate.Http

/-- The characters besides letters and digits that a token may hold. -/
def tokenMarks : List Char :=
  ['!', '#', '$', '%', '&', '\x27', '*', '+', '-', '.', '^', '_', '\x60', '|', '~']

/-- Whether a character is an ASCII letter or digit. -/
def isAlphanumeric (c : Char) : Bool :=
  ('a' ≤ c && c ≤ 'z') || ('A' ≤ c && c ≤ 'Z') || ('0' ≤ c && c ≤ '9')

/-- Whether a token may hold a character. -/
def isTokenChar (c : Char) : Bool :=
  isAlphanumeric c || tokenMarks.contains c

/-- Whether a text is a token. -/
def isToken (cs : List Char) : Bool :=
  !cs.isEmpty && cs.all isTokenChar

/-- The lower-case form of an ASCII letter. -/
def lowerChar (c : Char) : Char :=
  if 'A' ≤ c ∧ c ≤ 'Z' then Char.ofNat (c.toNat + 32) else c

/-- The upper-case form of an ASCII letter. -/
def upperChar (c : Char) : Char :=
  if 'a' ≤ c ∧ c ≤ 'z' then Char.ofNat (c.toNat - 32) else c

/-- The longest header name. -/
def maxNameLength : Nat := 65535

/-- The method that a text names. -/
def method? (cs : List Char) : Option String :=
  if isToken cs then some (String.ofList cs) else none

/-- The header name that a text spells, in lower case. -/
def headerName? (cs : List Char) : Option String :=
  if isToken cs && cs.length ≤ maxNameLength then some (String.ofList (cs.map lowerChar)) else none

end BearerGate.Http
