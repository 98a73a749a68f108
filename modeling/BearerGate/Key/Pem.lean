import BearerGate.Base64
import BearerGate.Text.Pieces

/-!
# PEM Armor

A block of PEM is base64 between a line `-----BEGIN label-----` and a line `-----END label-----`.
Reading takes the first block of a text and ignores what stands after it. Blanks inside the
base64 are ignored; what precedes an empty line inside the block is a list of headers, each with
a colon. Writing puts 64 characters on a line.
-/

namespace BearerGate.Pem

/-- A block: its label and the bytes it holds. -/
structure Block where
  label : List Char
  content : Bytes

/-- The five dashes around labels. -/
def dashes : List Char := "-----".toList

/-- What a text has to begin with to be taken as PEM. -/
def opening : List Char := dashes ++ "BEGIN".toList

/-- The lines of a text; a line break at its end opens no further line. -/
def linesOf (cs : List Char) : List (List Char) :=
  let pieces := Text.splitAt '\n' cs
  if pieces.getLast? == some [] then pieces.dropLast else pieces

/-- The header lines and the base64 of what stands between the two label lines. -/
def headersAndBody (cs : List Char) : List (List Char) × List Char :=
  match Text.cutAt ['\n', '\n'] cs with
  | some (headers, body) => (linesOf headers, body)
  | none =>
    match Text.cutAt ['\r', '\n', '\r', '\n'] cs with
    | some (headers, body) => (linesOf headers, body)
    | none => ([], cs)

/-- The characters that may stand between a label and the base64. -/
def isGap (c : Char) : Bool :=
  c == ' ' || c == '\t' || c == '\n' || c == '\r'

/-- The first block of a text. -/
def parse? (cs : List Char) : Option Block := do
  let (_, rest) ← Text.cutAt (opening ++ [' ']) cs
  let (label, rest) ← Text.cutAt dashes rest
  let (inside, rest) ← Text.cutAt (dashes ++ "END ".toList) (rest.dropWhile isGap)
  let (endLabel, _) ← Text.cutAt dashes rest
  let (headers, body) := headersAndBody inside
  if label.isEmpty || label ≠ endLabel then none
  else
    let content ← Base64.decode? Base64.standard (Text.squeeze body)
    if headers.all (·.contains ':') then some ⟨label, content⟩ else none

/-- The text of a block whose base64 is given. -/
def armor (label base64 : List Char) : List Char :=
  opening ++ ' ' :: label ++ dashes ++ ['\n'] ++
    ((Text.runs 64 base64).flatMap fun line => line ++ ['\n']) ++
    dashes ++ "END ".toList ++ label ++ dashes ++ ['\n']

end BearerGate.Pem
