import BearerGate.Key.Loading
import BearerGate.Token.Claims
import BearerGate.Token.Compact
import BearerGate.Token.Header

/-!
# Verifying Tokens

A verifier accepts the tokens of one algorithm under one key. It works in two phases.

1. The signed form: the text is cut into its parts, the header has to name the algorithm, the
   signature has to be valid over the text before it, and only then is the payload read and its
   time of expiry looked at.
2. The claims, in the order that `Claims.identity` gives.

A resolver decides which granted names mean something here; the others are left out.
-/

namespace BearerGate

/-- What accepts tokens. -/
structure Verifier where
  algorithm : Algorithm
  key : VerificationKey
  leeway : Nat
  resolve : String → Option String

namespace Verifier

/-- The size past which a token is not looked at, in bytes. -/
def maxSize : Nat := 8192

/-- A verifier with a key from material. -/
def load (algorithm : Algorithm) (material : String) (leeway : Nat)
    (resolve : String → Option String) : Except Key.Problem Verifier :=
  (VerificationKey.load algorithm material).map fun key => ⟨algorithm, key, leeway, resolve⟩

/-- The bytes of an encoded part. -/
def part (encoded : List Char) : Except TokenProblem Bytes :=
  match Compact.decodePart? encoded with
  | some bytes => .ok bytes
  | none => .error (.malformed .notBase64)

/-- What a reader makes of the bytes of a part. -/
def readPart {α : Type} (read : Bytes → Except Json.Problem α) (bytes : Bytes) :
    Except TokenProblem α :=
  match read bytes with
  | .ok a => .ok a
  | .error _ => .error (.malformed .notJson)

/-- The earliest expiry that is taken at a time, by the leeway before it. It is a difference of
words without sign: where the leeway goes back beyond the epoch it is counted from their end. -/
def earliestExpiry (v : Verifier) (now : Second) : UInt64 :=
  now.unsigned - UInt64.ofNat v.leeway

/-- Checks that claims expire, and not before the earliest expiry that is taken. -/
def checkExpiry (v : Verifier) (now : Second) (claims : Claims) : Except TokenProblem Claims :=
  match claims.expires.filter fun t => 0 ≤ t.toInt with
  | none => .error (.missingClaim .expires)
  | some t => if t.toUInt64 < v.earliestExpiry now then .error .expired else .ok claims

/-- The claims of a token whose signed form is in order. -/
def verifiedClaims (v : Verifier) (now : Second) (token : Compact) :
    Except TokenProblem Claims := do
  let algorithm ← readPart Header.read (← part token.header)
  if algorithm ≠ v.algorithm then .error (.malformed .otherAlgorithm)
  else
    let signature ← part token.signature
    if v.key.verify token.signedBytes signature then
      let claims ← readPart Claims.read (← part token.payload)
      v.checkExpiry now claims
    else .error .badSignature

/-- The identity that a token stands for at a time. -/
def verify (v : Verifier) (now : Second) (raw : String) : Except TokenProblem Identity :=
  let text := raw.toList
  if Text.isBlankText text then .error .empty
  else if maxSize < Utf8.size text then .error (.malformed .oversized)
  else match Compact.ofText? text with
    | none => .error (.malformed .tooFewParts)
    | some token => do
      let claims ← v.verifiedClaims now token
      claims.identity v.resolve now v.leeway

end Verifier

end BearerGate
