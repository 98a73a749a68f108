import BearerGate.Json.Number
import BearerGate.Json.Text

/-!
# JSON Tokens

The lexical level of JSON: bytes as a list of tokens. Lexing goes through the bytes one at a
time. Where the text stops being JSON the list of tokens ends in `fault`, and so a reader that
takes the tokens in order meets the fault exactly when it has to read past it.

A string is lexed by its shape; its text is `none` if the bytes are not UTF-8 or a surrogate
half stands alone, which matters only to a reader that wants the text. A number goes on as long
as a longer number is possible.
-/

namespace BearerGate.Json

/-- A lexical unit. -/
inductive Token where
  | openList
  | closeList
  | openObject
  | closeObject
  | comma
  | colon
  | null
  | bool (value : Bool)
  | text (content : Option (List Char))
  | number (value : Number)
  | fault
  deriving DecidableEq

/-- How far a number has been read. -/
inductive NumberPart where
  | sign
  | zero
  | whole
  | point
  | fraction
  | exponentMark
  | exponentSign
  | exponent

/-- Whether a number may end after a part. -/
def NumberPart.isFinal : NumberPart → Bool
  | .zero | .whole | .fraction | .exponent => true
  | _ => false

/-- The part that a character leads to; `none` if it does not continue the number. -/
def NumberPart.next? (part : NumberPart) (c : Char) : Option NumberPart :=
  let digit := Text.isDigit c
  let mark := c == 'e' || c == 'E'
  match part with
  | .sign => if c == '0' then some .zero else if digit then some .whole else none
  | .zero => if c == '.' then some .point else if mark then some .exponentMark else none
  | .whole =>
    if digit then some .whole else if c == '.' then some .point
    else if mark then some .exponentMark else none
  | .point => if digit then some .fraction else none
  | .fraction => if digit then some .fraction else if mark then some .exponentMark else none
  | .exponentMark =>
    if digit then some .exponent else if c == '+' || c == '-' then some .exponentSign else none
  | .exponentSign => if digit then some .exponent else none
  | .exponent => if digit then some .exponent else none

/-- What the lexer is in the middle of; contents are kept last element first. -/
inductive Mode where
  | between
  | text (content : Bytes)
  | escaped (content : Bytes)
  | coded (content : Bytes) (digits : Nat)
  | number (part : NumberPart) (content : List Char)
  | word (rest : List Char) (token : Token)
  | halted

/-- The tokens found so far, last one first, and what is going on. -/
structure Lexer where
  mode : Mode
  found : List Token

namespace Lexer

/-- The lexer with one token more, ready for the next one. -/
def emit (l : Lexer) (token : Token) : Lexer :=
  ⟨.between, token :: l.found⟩

/-- The lexer after a byte that does not belong there. -/
def halt (l : Lexer) : Lexer :=
  ⟨.halted, .fault :: l.found⟩

/-- The first character of a token, or a blank between tokens. -/
def start (l : Lexer) (c : Char) : Lexer :=
  match c with
  | ' ' | '\n' | '\t' | '\r' => ⟨.between, l.found⟩
  | '[' => l.emit .openList
  | ']' => l.emit .closeList
  | '\x7b' => l.emit .openObject
  | '\x7d' => l.emit .closeObject
  | ',' => l.emit .comma
  | ':' => l.emit .colon
  | '"' => ⟨.text [], l.found⟩
  | 'n' => ⟨.word ['u', 'l', 'l'] .null, l.found⟩
  | 't' => ⟨.word ['r', 'u', 'e'] (.bool true), l.found⟩
  | 'f' => ⟨.word ['a', 'l', 's', 'e'] (.bool false), l.found⟩
  | '-' => ⟨.number .sign ['-'], l.found⟩
  | '0' => ⟨.number .zero ['0'], l.found⟩
  | _ => if Text.isDigit c then ⟨.number .whole [c], l.found⟩ else l.halt

/-- Ends a number. -/
def endNumber (l : Lexer) (part : NumberPart) (content : List Char) : Lexer :=
  if part.isFinal then l.emit (.number (Number.ofText content.reverse)) else l.halt

/-- Lexes one byte. -/
def step (l : Lexer) (b : UInt8) : Lexer :=
  let c := Char.ofNat b.toNat
  match l.mode with
  | .between => l.start c
  | .text content =>
    if c = '"' then l.emit (.text (ofBytes? content.reverse))
    else if c = '\\' then ⟨.escaped (b :: content), l.found⟩
    else if b < 0x20 then l.halt
    else ⟨.text (b :: content), l.found⟩
  | .escaped content =>
    if c = 'u' then ⟨.coded (b :: content) 0, l.found⟩
    else if (shortEscape? c).isSome then ⟨.text (b :: content), l.found⟩
    else l.halt
  | .coded content digits =>
    if (hexValue? c).isNone then l.halt
    else if digits = 3 then ⟨.text (b :: content), l.found⟩
    else ⟨.coded (b :: content) (digits + 1), l.found⟩
  | .number part content =>
    match part.next? c with
    | some next => ⟨.number next (c :: content), l.found⟩
    | none =>
      match part with
      | .zero =>
        if Text.isDigit c then l.halt else (l.endNumber part content).start c
      | _ =>
        let ended := l.endNumber part content
        match ended.mode with
        | .halted => ended
        | _ => ended.start c
  | .word [] token => (l.emit token).start c
  | .word (expected :: rest) token =>
    if c ≠ expected then l.halt
    else match rest with
      | [] => l.emit token
      | _ => ⟨.word rest token, l.found⟩
  | .halted => l

/-- The end of the input. -/
def finish (l : Lexer) : Lexer :=
  match l.mode with
  | .between | .halted => l
  | .number part content => l.endNumber part content
  | _ => l.halt

end Lexer

/-- The tokens of a byte sequence. -/
def tokens (bytes : Bytes) : List Token :=
  (bytes.foldl Lexer.step ⟨.between, []⟩).finish.found.reverse

end BearerGate.Json
