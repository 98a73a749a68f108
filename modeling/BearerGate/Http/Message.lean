import BearerGate.Http.Token
import BearerGate.Json.Value
import BearerGate.Text.Pieces

/-!
# HTTP Messages

Requests and responses as the service sees them. Header names are lower-case; a name may occur
several times, and where one value is wanted the first counts. A header value is any row of bytes
without controls other than the tab; it is readable text if it is also plain ASCII.
-/

namespace BearerGate.Http

/-- Header fields in the order in which they came. -/
abbrev Headers := List (String × Bytes)

/-- The first value of a header. -/
def Headers.first? (headers : Headers) (name : String) : Option Bytes :=
  (headers.find? fun field => field.1 = name).map (·.2)

/-- Whether a header value may hold a byte. -/
def isValueByte (b : UInt8) : Bool :=
  (0x20 ≤ b.toNat && b.toNat ≠ 0x7F) || b.toNat = 0x09

/-- Whether a byte sequence is a header value. -/
def isValue (bytes : Bytes) : Bool :=
  bytes.all isValueByte

/-- Whether a byte of a header value is plain text. -/
def isTextByte (b : UInt8) : Bool :=
  (0x20 ≤ b.toNat && b.toNat < 0x7F) || b.toNat = 0x09

/-- The text of a header value that is readable. -/
def text? (bytes : Bytes) : Option (List Char) :=
  if bytes.all isTextByte then some (bytes.map fun b => Char.ofNat b.toNat) else none

/-- The readable text of the first value of a header. -/
def Headers.text? (headers : Headers) (name : String) : Option (List Char) :=
  (Headers.first? headers name).bind Http.text?

/-- A request; of its target only the path is kept. -/
structure Request where
  method : String
  path : String
  headers : Headers
  body : Bytes

/-- A response. -/
structure Response where
  status : Nat
  headers : Headers
  body : List Char
  deriving DecidableEq

namespace Response

/-- A response with a status only. -/
def ofStatus (status : Nat) : Response := ⟨status, [], []⟩

/-- The response with a header more. -/
def withHeader (r : Response) (name : String) (value : Bytes) : Response :=
  { r with headers := r.headers ++ [(name, value)] }

/-- A response with a JSON body. -/
def json (status : Nat) (body : Json.Value) : Response :=
  ⟨status, [("content-type", Utf8.encode "application/json".toList)], body.render⟩

/-- A response with a body of plain text. -/
def plain (status : Nat) (body : String) : Response :=
  ⟨status, [("content-type", Utf8.encode "text/plain; charset=utf-8".toList)], body.toList⟩

/-- The response without its body. -/
def withoutBody (r : Response) : Response := { r with body := [] }

end Response

end BearerGate.Http
