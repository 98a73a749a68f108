import BearerGate.Key.Pem

/-!
# Key Material

Keys are configured as text: either PEM, or only the base64 between its label lines. Variables
often cannot hold line breaks, so the two characters `\n` stand for one everywhere.

* `pemText?` — the material as PEM. Text that begins as PEM is taken as it is, trimmed; otherwise
  all blanks are removed and what is left has to be base64, which is then armored.
-/

namespace BearerGate.Key

/-- What a key is for. -/
inductive Use where
  | sign
  | verify
  deriving DecidableEq

/-- The label of a key that is given without one. -/
def Use.label : Use → List Char
  | .sign => "PRIVATE KEY".toList
  | .verify => "PUBLIC KEY".toList

/-- A text with each backslash that is followed by `n` replaced, together with it, by a line
break. -/
def restoreLineBreaks : List Char → List Char
  | [] => []
  | '\\' :: 'n' :: rest => '\n' :: restoreLineBreaks rest
  | c :: rest => c :: restoreLineBreaks rest

/-- Key material as PEM; `none` if it is neither PEM nor base64. -/
def pemText? (material label : List Char) : Option (List Char) :=
  let trimmed := Text.trim (restoreLineBreaks material)
  if Pem.opening.isPrefixOf trimmed then some trimmed
  else
    let body := Text.squeeze trimmed
    if body.isEmpty then none
    else (Base64.decode? Base64.standard body).map fun der =>
      Pem.armor label (Base64.encode Base64.standard der)

end BearerGate.Key
