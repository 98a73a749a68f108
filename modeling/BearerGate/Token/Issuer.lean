import BearerGate.Key.Loading
import BearerGate.Token.Claims
import BearerGate.Token.Compact
import BearerGate.Token.Header

/-!
# Issuing Tokens

An issuer signs tokens with one key and one algorithm; each token is valid for the issuer's
lifetime from the second in which it is made. The time at which a token expires has to fit 64
bits with sign, and this is checked before anything is signed. A signature may need a number drawn
at random, which comes from outside.
-/

namespace BearerGate

/-- What signs tokens. -/
structure Issuer where
  algorithm : Algorithm
  key : SigningKey
  lifetime : Nat

/-- Why no token was issued. -/
inductive IssuingProblem where
  | lifetimeOverflow
  | signing (fault : SigningFault)
  deriving DecidableEq

namespace IssuingProblem

/-- The text of a problem; `said` is what is said of a key that does not sign. -/
def message (said : String) : IssuingProblem → String
  | lifetimeOverflow => "token lifetime overflows the expiration timestamp"
  | signing fault => "failed to sign token: " ++ fault.text said

/-- The texts of the problems behind a problem. -/
def causes (said : String) : IssuingProblem → List String
  | lifetimeOverflow => []
  | signing fault => [fault.text said]

end IssuingProblem

namespace Issuer

/-- An issuer with a key from material. -/
def load (algorithm : Algorithm) (material : String) (lifetime : Nat) :
    Except Key.Problem Issuer :=
  (SigningKey.load algorithm material).map fun key => ⟨algorithm, key, lifetime⟩

/-- The time at which a token that is made now expires, if it fits. -/
def expiry? (issuer : Issuer) (now : Second) : Option Int64 :=
  (Word.signed? issuer.lifetime).bind (Word.checkedAdd now.signed)

/-- The token for an identity before its signature is known. -/
def unsigned (issuer : Issuer) (now : Second) (expires : Int64) (who : Identity) : Compact where
  header := Compact.encodePart (Utf8.encode (Header.render issuer.algorithm))
  payload := Compact.encodePart (Utf8.encode (Claims.render who now.signed expires))
  signature := []

/-- The token for an identity, valid from `now` on; `draw` is the number drawn for its signature. -/
def issue (issuer : Issuer) (now : Second) (draw : Nat) (who : Identity) :
    Except IssuingProblem String :=
  match issuer.expiry? now with
  | none => .error .lifetimeOverflow
  | some expires =>
    let token := issuer.unsigned now expires who
    match issuer.key.sign draw token.signedBytes with
    | .error fault => .error (.signing fault)
    | .ok signature =>
      .ok (String.ofList { token with signature := Compact.encodePart signature }.text)

end Issuer

end BearerGate
