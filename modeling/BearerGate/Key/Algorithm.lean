import BearerGate.Signature.Ecdsa
import BearerGate.Signature.Ed25519
import BearerGate.Signature.Rsa

/-!
# Signature Algorithms

The twelve algorithm names that a token header may carry, and the signature scheme of each. The
three `HS` names stand for shared-secret digests: they are known by name, so that a header that
carries one can be told from one that carries nonsense, but they have no scheme here.
-/

namespace BearerGate

/-- The name of a signature algorithm. -/
inductive Algorithm where
  | hs256 | hs384 | hs512
  | es256 | es384
  | rs256 | rs384 | rs512
  | ps256 | ps384 | ps512
  | edDSA
  deriving DecidableEq

/-- The kinds of keys that schemes are made for. -/
inductive KeyFamily where
  | rsa
  | ec
  | ed
  deriving DecidableEq

/-- A signature scheme with all its parameters. -/
inductive Scheme where
  | rsa (padding : Rsa.Padding) (digest : Digest)
  | ecdsa (curve : Ecdsa.CurveName)
  | ed25519
  deriving DecidableEq

namespace Algorithm

/-- All algorithms. -/
def all : List Algorithm :=
  [hs256, hs384, hs512, es256, es384, rs256, rs384, rs512, ps256, ps384, ps512, edDSA]

/-- The text of an algorithm name. -/
def name : Algorithm → String
  | hs256 => "HS256"
  | hs384 => "HS384"
  | hs512 => "HS512"
  | es256 => "ES256"
  | es384 => "ES384"
  | rs256 => "RS256"
  | rs384 => "RS384"
  | rs512 => "RS512"
  | ps256 => "PS256"
  | ps384 => "PS384"
  | ps512 => "PS512"
  | edDSA => "EdDSA"

/-- The algorithm with a name; letter case matters. -/
def ofName? (text : String) : Option Algorithm :=
  all.find? fun a => a.name = text

/-- The scheme of an algorithm; shared-secret algorithms have none. -/
def scheme? : Algorithm → Option Scheme
  | hs256 | hs384 | hs512 => none
  | es256 => some (.ecdsa .p256)
  | es384 => some (.ecdsa .p384)
  | rs256 => some (.rsa .pkcs1 .sha256)
  | rs384 => some (.rsa .pkcs1 .sha384)
  | rs512 => some (.rsa .pkcs1 .sha512)
  | ps256 => some (.rsa .pss .sha256)
  | ps384 => some (.rsa .pss .sha384)
  | ps512 => some (.rsa .pss .sha512)
  | edDSA => some .ed25519

end Algorithm

/-- The family of keys that a scheme works with. -/
def Scheme.family : Scheme → KeyFamily
  | .rsa _ _ => .rsa
  | .ecdsa _ => .ec
  | .ed25519 => .ed

/-- Whether an algorithm signs with one key and verifies with another. -/
def Algorithm.isAsymmetric (a : Algorithm) : Bool :=
  a.scheme?.isSome

end BearerGate
