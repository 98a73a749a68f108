/-!
# Why a Token Is Refused

The causes for which a token yields no identity, and the texts they are reported with. The text of a
problem never repeats anything that the token holds; what a log adds to it may end with what the
library that reads tokens says of one that it cannot read.
-/

namespace BearerGate

/-- The claims that a token has to carry. -/
inductive ClaimName where
  | tokenId
  | subject
  | grants
  | issuedAt
  | expires
  deriving DecidableEq

/-- The name of a claim inside a token. -/
def ClaimName.text : ClaimName → String
  | .tokenId => "jti"
  | .subject => "sub"
  | .grants => "grants"
  | .issuedAt => "iat"
  | .expires => "exp"

/-- What is wrong with a token that is no proper token at all. -/
inductive Malformation where
  | oversized
  | tooFewParts
  | notBase64
  | notJson
  | otherAlgorithm
  | idNotInteger
  | grantsNotList
  | grantNotText
  | issuedInFuture
  deriving DecidableEq

/-- The reason given for a malformation. -/
def Malformation.reason : Malformation → String
  | .oversized => "token exceeds maximum size"
  | .tooFewParts => "not a valid signed token"
  | .notBase64 => "not a valid signed token"
  | .notJson => "claims are not valid JSON of the expected shape"
  | .otherAlgorithm => "unexpected signature algorithm"
  | .idNotInteger => "token id is not an integer"
  | .grantsNotList => "grants claim is not a list"
  | .grantNotText => "grants claim contains a non-string"
  | .issuedInFuture => "issued-at lies in the future"

/-- What a log adds to the reason, where the problem lies in the signed form of the token; `said` is
what is said of a part that cannot be read. -/
def Malformation.detail? (said : String) : Malformation → Option String
  | .tooFewParts => some "InvalidToken"
  | .notBase64 => some ("Base64 error: " ++ said)
  | .notJson => some ("JSON error: " ++ said)
  | .otherAlgorithm => some "InvalidAlgorithm"
  | _ => none

/-- Why a token yields no identity. -/
inductive TokenProblem where
  | empty
  | malformed (what : Malformation)
  | badSignature
  | expired
  | missingClaim (claim : ClaimName)
  deriving DecidableEq

namespace TokenProblem

/-- The text of a problem. -/
def message : TokenProblem → String
  | empty => "token must not be empty"
  | malformed what => "token decoding failed: malformed token (" ++ what.reason ++ ")"
  | badSignature => "token decoding failed: bad signature"
  | expired => "token decoding failed: token expired"
  | missingClaim claim => "token decoding failed: missing required claim '" ++ claim.text ++ "'"

/-- What a log adds to the text. -/
def detail? (said : String) : TokenProblem → Option String
  | malformed what => what.detail? said
  | badSignature => some "InvalidSignature"
  | expired => some "ExpiredSignature"
  | _ => none

end TokenProblem

end BearerGate
