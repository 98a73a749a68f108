import BearerGate.Json.Value

/-!
# Reading JSON into Types

A reader takes a value from the front of a list of tokens. It fails in one of two ways:
`malformed` where the text is not JSON, `misfit` where it is JSON so far but not of the shape
that is asked for. Tokens are taken in order, so the first problem met decides.

* `readText`, `readInt64`, `readTexts`, `orNull` — values of a known shape;
* `readValue` — any value, nested no deeper than a limit;
* `skip` — passes over any value, however deep, without looking at its texts and numbers;
* `readMembers`, `readElements` — the inside of an object or list, part by part.
-/

namespace BearerGate.Json

/-- Why a text was not read. -/
inductive Problem where
  | malformed
  | misfit
  deriving DecidableEq

/-- The result of reading a value: the value and the tokens after it. -/
abbrev Read (α : Type) := Except Problem (α × List Token)

/-- What is wrong where a value of another shape was asked for: a value that is well formed does
not fit; anything else is not JSON at all. -/
def problemAt : List Token → Problem
  | .null :: _ => .misfit
  | .bool _ :: _ => .misfit
  | .text (some _) :: _ => .misfit
  | .number n :: _ => if n.isHuge then .malformed else .misfit
  | .openList :: _ => .misfit
  | .openObject :: _ => .misfit
  | _ => .malformed

/-- Reads a string. -/
def readText : List Token → Read (List Char)
  | .text (some cs) :: rest => .ok (cs, rest)
  | tokens => .error (problemAt tokens)

/-- Reads an integer of 64 bits with sign. -/
def readInt64 (tokens : List Token) : Read Int64 :=
  match tokens with
  | .number n :: rest =>
    match n.int?.filter Text.fitsInt64 with
    | some i => .ok (Int64.ofInt i, rest)
    | none => .error (problemAt tokens)
  | _ => .error (problemAt tokens)

/-- Reads `null` or a value. -/
def orNull {α : Type} (read : List Token → Read α) : List Token → Read (Option α)
  | .null :: rest => .ok (none, rest)
  | tokens => (read tokens).map fun (a, rest) => (some a, rest)

/-- Reads the elements of a list after the first one; `done` holds those read, last one first,
and `fuel` bounds their number. -/
def readMore {α : Type} (read : List Token → Read α) :
    Nat → List α → List Token → Read (List α)
  | fuel + 1, done, .comma :: rest =>
    match read rest with
    | .ok (a, rest) => readMore read fuel (a :: done) rest
    | .error p => .error p
  | _, done, .closeList :: rest => .ok (done.reverse, rest)
  | _, _, _ => .error .malformed

/-- Reads a list whose elements are all read the same way. -/
def readList {α : Type} (read : List Token → Read α) : List Token → Read (List α)
  | .openList :: .closeList :: rest => .ok ([], rest)
  | .openList :: rest =>
    match read rest with
    | .ok (a, rest) => readMore read rest.length [a] rest
    | .error p => .error p
  | tokens => .error (problemAt tokens)

/-- Reads a list of strings. -/
def readTexts : List Token → Read (List (List Char)) :=
  readList readText

/-- Reads the members of an object after a member, each by `member`, which gets its name and the
tokens from the colon on. -/
def moreMembers {σ : Type} (member : σ → List Char → List Token → Read σ) :
    Nat → σ → List Token → Read σ
  | fuel + 1, s, .comma :: .text (some name) :: rest =>
    match member s name rest with
    | .ok (s, rest) => moreMembers member fuel s rest
    | .error p => .error p
  | _, s, .closeObject :: rest => .ok (s, rest)
  | _, _, _ => .error .malformed

/-- Reads the members of an object whose opening bracket has been taken. -/
def readMembers {σ : Type} (member : σ → List Char → List Token → Read σ) (start : σ) :
    List Token → Read σ
  | .closeObject :: rest => .ok (start, rest)
  | .text (some name) :: rest =>
    match member start name rest with
    | .ok (s, rest) => moreMembers member rest.length s rest
    | .error p => .error p
  | _ => .error .malformed

/-- Reads what stands after the colon of a member. -/
def afterColon {α : Type} (read : List Token → Read α) : List Token → Read α
  | .colon :: rest => read rest
  | _ => .error .malformed

/-! ### Values of any shape -/

mutual

/-- Reads any value that is nested at most `depth` deep; `fuel` bounds the number of steps. -/
def readAny : Nat → Nat → List Token → Read Value
  | 0, _, _ => .error .malformed
  | fuel + 1, depth, tokens =>
    match tokens, depth with
    | .null :: rest, _ => .ok (.null, rest)
    | .bool b :: rest, _ => .ok (.bool b, rest)
    | .text (some cs) :: rest, _ => .ok (.text (String.ofList cs), rest)
    | .number n :: rest, _ => if n.isHuge then .error .malformed else .ok (.number n, rest)
    | .openList :: .closeList :: rest, _ + 1 => .ok (.list [], rest)
    | .openList :: rest, depth + 1 => readItems fuel depth [] rest
    | .openObject :: .closeObject :: rest, _ + 1 => .ok (.object [], rest)
    | .openObject :: rest, depth + 1 => readPairs fuel depth [] rest
    | _, _ => .error .malformed

/-- Reads the items of a list, at least one, up to the closing bracket. -/
def readItems : Nat → Nat → List Value → List Token → Read Value
  | 0, _, _, _ => .error .malformed
  | fuel + 1, depth, done, tokens =>
    match readAny fuel depth tokens with
    | .error p => .error p
    | .ok (v, .comma :: rest) => readItems fuel depth (v :: done) rest
    | .ok (v, .closeList :: rest) => .ok (.list (v :: done).reverse, rest)
    | .ok _ => .error .malformed

/-- Reads the members of an object, at least one, up to the closing bracket. -/
def readPairs : Nat → Nat → List (String × Value) → List Token → Read Value
  | 0, _, _, _ => .error .malformed
  | fuel + 1, depth, done, tokens =>
    match tokens with
    | .text (some k) :: .colon :: rest =>
      match readAny fuel depth rest with
      | .error p => .error p
      | .ok (v, .comma :: rest) => readPairs fuel depth ((String.ofList k, v) :: done) rest
      | .ok (v, .closeObject :: rest) =>
        .ok (.object ((String.ofList k, v) :: done).reverse, rest)
      | .ok _ => .error .malformed
    | _ => .error .malformed

end

/-- Reads any value that is nested at most `depth` deep. -/
def readValue (depth : Nat) (tokens : List Token) : Read Value :=
  readAny (2 * tokens.length + 1) depth tokens

/-! ### Passing over a value -/

/-- What a value that is passed over is inside of. -/
inductive Frame where
  | list
  | object

/-- What may come next inside a value that is passed over. -/
inductive Expected where
  | value
  | firstItem
  | firstMember
  | member
  | colon
  | separator

/-- Passes over the rest of a value inside the given frames, innermost first. -/
def skipWithin : Expected → List Frame → List Token → Except Problem (List Token)
  | _, _, [] => .error .malformed
  | .separator, [], rest => .ok rest
  | .value, frames, token :: rest =>
    match token with
    | .null | .bool _ | .text _ | .number _ =>
      if frames.isEmpty then .ok rest else skipWithin .separator frames rest
    | .openList => skipWithin .firstItem (.list :: frames) rest
    | .openObject => skipWithin .firstMember (.object :: frames) rest
    | _ => .error .malformed
  | .firstItem, frames, token :: rest =>
    match token with
    | .closeList =>
      if frames.tail.isEmpty then .ok rest else skipWithin .separator frames.tail rest
    | .null | .bool _ | .text _ | .number _ => skipWithin .separator frames rest
    | .openList => skipWithin .firstItem (.list :: frames) rest
    | .openObject => skipWithin .firstMember (.object :: frames) rest
    | _ => .error .malformed
  | .firstMember, frames, token :: rest =>
    match token with
    | .closeObject =>
      if frames.tail.isEmpty then .ok rest else skipWithin .separator frames.tail rest
    | .text _ => skipWithin .colon frames rest
    | _ => .error .malformed
  | .member, frames, token :: rest =>
    match token with
    | .text _ => skipWithin .colon frames rest
    | _ => .error .malformed
  | .colon, frames, token :: rest =>
    match token with
    | .colon => skipWithin .value frames rest
    | _ => .error .malformed
  | .separator, frame :: frames, token :: rest =>
    match frame, token with
    | .list, .comma => skipWithin .value (frame :: frames) rest
    | .object, .comma => skipWithin .member (frame :: frames) rest
    | .list, .closeList =>
      if frames.isEmpty then .ok rest else skipWithin .separator frames rest
    | .object, .closeObject =>
      if frames.isEmpty then .ok rest else skipWithin .separator frames rest
    | _, _ => .error .malformed

/-- Passes over one value of any shape. -/
def skip (tokens : List Token) : Read Unit :=
  (skipWithin .value [] tokens).map fun rest => ((), rest)

/-- Reads a whole text: one value and nothing after it. -/
def readWhole {α : Type} (read : List Token → Read α) (bytes : Bytes) : Except Problem α :=
  match read (tokens bytes) with
  | .ok (a, []) => .ok a
  | .ok _ => .error .malformed
  | .error p => .error p

end BearerGate.Json
