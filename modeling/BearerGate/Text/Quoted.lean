import BearerGate.Text.Printable

/-!
# Quoted Texts

A text between double quotes, for summaries that are read by people. The quote and the
backslash are escaped, five controls have a letter of their own, and every other character
that is not printable is written by its code in hexadecimal.
-/

namespace BearerGate.Text

/-- The spelling of one character inside a quoted text. -/
def quotedChar (c : Char) : List Char :=
  match c with
  | '"' => ['\\', '"']
  | '\\' => ['\\', '\\']
  | '\x00' => ['\\', '0']
  | '\t' => ['\\', 't']
  | '\r' => ['\\', 'r']
  | '\n' => ['\\', 'n']
  | _ => if isPrintable c then [c] else ['\\', 'u', '\x7b'] ++ Nat.toDigits 16 c.toNat ++ ['\x7d']

/-- A text between double quotes. -/
def quoted (cs : List Char) : List Char :=
  '"' :: cs.flatMap quotedChar ++ ['"']

end BearerGate.Text
