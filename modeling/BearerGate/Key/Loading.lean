import BearerGate.Key.Algorithm
import BearerGate.Key.Der
import BearerGate.Key.Material

/-!
# Loading Keys

A key is loaded for an algorithm and a use. Loading looks at the label of the PEM block and at
the first known object identifier inside it, and no further: whether the numbers make a key that
can sign or verify shows only when it is used. So a public RSA key loads for signing and then
signs nothing, and a private RSA key loads for verification and then verifies nothing; for the
other families the label has to fit the use.

* `SigningKey.load`, `VerificationKey.load` — keys from material;
* `SigningKey.sign` — a signature, or why there is none;
* `VerificationKey.verify` — whether a signature is valid.
-/

namespace BearerGate.Key

/-- What is wrong with the content of a PEM text. -/
inductive Defect where
  | format
  | noKeyBits
  deriving DecidableEq

/-- The text of a defect. -/
def Defect.text : Defect → String
  | .format => "InvalidKeyFormat"
  | .noKeyBits => "InvalidEcdsaKey"

/-- Why a key was not loaded. -/
inductive Problem where
  | unsupportedAlgorithm (algorithm : Algorithm)
  | invalidEncoding
  | invalidKey (algorithm : Algorithm) (defect : Defect)
  deriving DecidableEq

/-- The text of a problem. -/
def Problem.message : Problem → String
  | .unsupportedAlgorithm a =>
    "algorithm " ++ a.name ++ " is not an asymmetric signature algorithm"
  | .invalidEncoding => "key material is neither PEM nor base64 DER"
  | .invalidKey a defect => "invalid key for " ++ a.name ++ ": " ++ defect.text

/-- The texts of the problems behind a problem. -/
def Problem.causes : Problem → List String
  | .invalidKey _ defect => [defect.text]
  | _ => []

/-- A key container, classified by its label and its first known object identifier. -/
structure Container where
  family : KeyFamily
  isPrivate : Bool
  hasHeader : Bool
  content : Bytes
  nodes : List Der.Node

/-- The object identifiers of the key families. -/
def familyIdentifiers : List (List Nat × KeyFamily) :=
  [([1, 2, 840, 10045, 2, 1], .ec), ([1, 2, 840, 113549, 1, 1, 1], .rsa), ([1, 3, 101, 112], .ed)]

/-- The family of the first known object identifier. -/
def familyOf? (nodes : List Der.Node) : Option KeyFamily :=
  (Der.identifierIn? (familyIdentifiers.map (·.1)) nodes).bind fun arcs =>
    (familyIdentifiers.find? fun entry => entry.1 == arcs).map (·.2)

/-- The container in a PEM text. -/
def container? (pem : List Char) : Option Container := do
  let block ← Pem.parse? pem
  let nodes ← Der.parse? block.content
  if block.label = "RSA PRIVATE KEY".toList then
    some ⟨.rsa, true, false, block.content, nodes⟩
  else if block.label = "RSA PUBLIC KEY".toList then
    some ⟨.rsa, false, false, block.content, nodes⟩
  else if block.label = "PRIVATE KEY".toList then
    (familyOf? nodes).map fun family => ⟨family, true, true, block.content, nodes⟩
  else if block.label = "PUBLIC KEY".toList || block.label = "CERTIFICATE".toList then
    (familyOf? nodes).map fun family => ⟨family, false, true, block.content, nodes⟩
  else none

/-- The innermost bytes of a container: the first string in it, or all of it where it has no
header. -/
def Container.keyBits (c : Container) : Except Defect Bytes :=
  if c.hasHeader then
    match Der.contentIn? c.nodes with
    | some bits => .ok bits
    | none => .error .noKeyBits
  else .ok c.content

/-- The key bytes of PEM material for a family and a use. -/
def bytesFor (family : KeyFamily) (use : Use) (pem : List Char) : Except Defect Bytes :=
  match container? pem with
  | none => .error .format
  | some c =>
    if c.family ≠ family then .error .format
    else match family, use with
      | .rsa, _ => c.keyBits
      | _, .sign => if c.isPrivate && c.hasHeader then .ok c.content else .error .format
      | _, .verify => if !c.isPrivate && c.hasHeader then c.keyBits else .error .format

/-- The scheme of an algorithm, and the bytes of the key that is loaded for it. -/
def load (algorithm : Algorithm) (use : Use) (material : String) :
    Except Problem (Scheme × Bytes) :=
  match algorithm.scheme? with
  | none => .error (.unsupportedAlgorithm algorithm)
  | some scheme =>
    match pemText? material.toList use.label with
    | none => .error .invalidEncoding
    | some pem =>
      match bytesFor scheme.family use pem with
      | .error defect => .error (.invalidKey algorithm defect)
      | .ok bytes => .ok (scheme, bytes)

/-! ### The numbers inside -/

/-- The RSA key in a PKCS#1 structure of a private key with two factors, if its numbers fit each
other. -/
def rsaPrivate? (bytes : Bytes) : Option Rsa.PrivateKey := do
  match ← Der.parse? bytes with
  | [.sequence [.integer version, .integer n, .integer e, .integer d, .integer p, .integer q,
      .integer dp, .integer dq, .integer inverse]] =>
    let key : Rsa.PrivateKey :=
      ⟨← Der.natural? n, ← Der.natural? e, ← Der.natural? d, ← Der.natural? p, ← Der.natural? q,
        ← Der.natural? dp, ← Der.natural? dq, ← Der.natural? inverse⟩
    if (← Der.natural? version) = 0 && key.isConsistent then some key else none
  | _ => none

/-- The RSA key in a PKCS#1 structure of a public key. -/
def rsaPublic? (bytes : Bytes) : Option Rsa.PublicKey := do
  match ← Der.parse? bytes with
  | [.sequence [.integer n, .integer e]] => some ⟨← Der.natural? n, ← Der.natural? e⟩
  | _ => none

/-- The curve of an object identifier. -/
def curveOf? (arcs : List Nat) : Option Ecdsa.CurveName :=
  if arcs = [1, 2, 840, 10045, 3, 1, 7] then some .p256
  else if arcs = [1, 3, 132, 0, 34] then some .p384
  else none

/-- The curve and the scalar in a PKCS#8 structure. -/
def ecPrivate? (bytes : Bytes) : Option (Ecdsa.CurveName × Nat) := do
  match ← Der.parse? bytes with
  | [.sequence (.integer _ :: .sequence [.identifier _, .identifier arcs] :: .octets inner :: _)] =>
    let curve ← curveOf? arcs
    match ← Der.parse? inner with
    | [.sequence (.integer _ :: .octets scalar :: _)] =>
      let secret := Bytes.toNat scalar
      if 0 < secret && secret < curve.curve.order then some (curve, secret) else none
    | _ => none
  | _ => none

/-- The seed in a PKCS#8 structure. -/
def edSeed? (bytes : Bytes) : Option Bytes := do
  match ← Der.parse? bytes with
  | [.sequence (.integer _ :: .sequence [.identifier _] :: .octets inner :: _)] =>
    match ← Der.parse? inner with
    | [.octets seed] => if seed.length = 32 then some seed else none
    | _ => none
  | _ => none

end Key

/-! ### Signing keys -/

/-- Why a key gave no signature. -/
inductive SigningFault where
  | failed
  | wrongCurve
  | noSeed
  deriving DecidableEq

/-- The text of a signing fault; `said` is what the library that signs says of it. -/
def SigningFault.text (said : String) : SigningFault → String
  | .failed => "Signing failed: " ++ said
  | .wrongCurve => "InvalidEcdsaKey"
  | .noSeed => "InvalidEddsaKey"

/-- A key that was loaded for signing; the numbers are missing where the material has none that
can sign. -/
inductive SigningKey where
  | rsa (padding : Rsa.Padding) (digest : Digest) (key : Option Rsa.PrivateKey)
  | ecdsa (curve : Ecdsa.CurveName) (key : Option (Ecdsa.CurveName × Nat))
  | ed25519 (seed : Option Bytes)

/-- Loads a key for signing with an algorithm. -/
def SigningKey.load (algorithm : Algorithm) (material : String) :
    Except Key.Problem SigningKey :=
  (Key.load algorithm .sign material).map fun (scheme, bytes) =>
    match scheme with
    | .rsa padding digest => .rsa padding digest (Key.rsaPrivate? bytes)
    | .ecdsa curve => .ecdsa curve (Key.ecPrivate? bytes)
    | .ed25519 => .ed25519 (Key.edSeed? bytes)

/-- The signature of a message; `draw` is a number drawn at random, for schemes that need one. -/
def SigningKey.sign (key : SigningKey) (draw : Nat) (message : Bytes) :
    Except SigningFault Bytes :=
  match key with
  | .rsa padding digest (some k) =>
    match Rsa.sign padding digest k draw message with
    | some signature => .ok signature
    | none => .error .failed
  | .rsa _ _ none => .error .failed
  | .ecdsa curve (some (own, secret)) =>
    if own ≠ curve then .error .wrongCurve
    else match Ecdsa.sign curve.curve secret draw message with
      | some signature => .ok signature
      | none => .error .failed
  | .ecdsa _ none => .error .wrongCurve
  | .ed25519 (some seed) => .ok (Ed25519.sign seed message)
  | .ed25519 none => .error .noSeed

/-! ### Verification keys -/

/-- A key that was loaded for verification. -/
inductive VerificationKey where
  | rsa (padding : Rsa.Padding) (digest : Digest) (key : Option Rsa.PublicKey)
  | ecdsa (curve : Ecdsa.CurveName) (point : Bytes)
  | ed25519 (key : Bytes)

/-- Loads a key for verifying the signatures of an algorithm. -/
def VerificationKey.load (algorithm : Algorithm) (material : String) :
    Except Key.Problem VerificationKey :=
  (Key.load algorithm .verify material).map fun (scheme, bytes) =>
    match scheme with
    | .rsa padding digest => .rsa padding digest (Key.rsaPublic? bytes)
    | .ecdsa curve => .ecdsa curve bytes
    | .ed25519 => .ed25519 bytes

/-- Whether a signature of a message is valid. -/
def VerificationKey.verify (key : VerificationKey) (message signature : Bytes) : Bool :=
  match key with
  | .rsa padding digest (some k) => Rsa.verify padding digest k message signature
  | .rsa _ _ none => false
  | .ecdsa curve point => Ecdsa.verify curve.curve point message signature
  | .ed25519 k => Ed25519.verify k message signature

end BearerGate
