import BearerGate.Json.Reader
import BearerGate.Key.Algorithm

/-!
# Token Headers

The header of a token is a JSON object that names the signature algorithm. Some other members are
known and have a type; any member that is not known has to hold a string. A known member may occur
once only. A header may bring a key as a JSON Web Key, which has to be one but is never used.
-/

namespace BearerGate.Header

/-! ### Keys in headers -/

/-- Whether a value is a text. -/
def isText : Json.Value → Bool
  | .text _ => true
  | _ => false

/-- Whether a value is a text or null. -/
def isOptionalText : Json.Value → Bool
  | .null => true
  | value => isText value

/-- Whether a value is a list of texts or null. -/
def isOptionalTexts : Json.Value → Bool
  | .null => true
  | .list items => items.all isText
  | _ => false

/-- Whether a value is one of some texts. -/
def isOneOf (texts : List String) : Json.Value → Bool
  | .text s => texts.contains s
  | _ => false

/-- Whether members have one value under a name, which passes a check. -/
def hasOne (members : List (String × Json.Value)) (name : String) (check : Json.Value → Bool) :
    Bool :=
  match members.filter fun m => m.1 = name with
  | [m] => check m.2
  | _ => false

/-- Whether members have no value under a name, or one that passes a check. -/
def hasAtMostOne (members : List (String × Json.Value)) (name : String)
    (check : Json.Value → Bool) : Bool :=
  members.all (fun m => m.1 ≠ name) || hasOne members name check

/-- The members of any key that hold a text or null. -/
def keyTextMembers : List String :=
  ["use", "alg", "kid", "x5u", "x5t", "x5t#S256"]

/-- The members of any key that hold a list of texts or null. -/
def keyListMembers : List String :=
  ["key_ops", "x5c"]

/-- The curves that a key may be on. -/
def keyCurves : List String :=
  ["P-256", "P-384", "P-521", "Ed25519"]

/-- The kinds of keys by name: whether a key is on a curve, and the members with its numbers. -/
def keyKinds : List (String × Bool × List String) :=
  [("EC", true, ["x", "y"]), ("RSA", false, ["n", "e"]), ("oct", false, ["k"]),
    ("OKP", true, ["x"])]

/-- Whether members are those of a key of a kind. -/
def isOfKind (members : List (String × Json.Value)) : String × Bool × List String → Bool
  | (kind, onCurve, numbers) =>
    hasOne members "kty" (isOneOf [kind]) &&
      (!onCurve || hasOne members "crv" (isOneOf keyCurves)) &&
      numbers.all fun name => hasOne members name isText

/-- Whether a value is a JSON Web Key. -/
def isWebKey : Json.Value → Bool
  | .object members =>
    (keyTextMembers.all fun name => hasAtMostOne members name isOptionalText) &&
      (keyListMembers.all fun name => hasAtMostOne members name isOptionalTexts) &&
      keyKinds.any (isOfKind members)
  | _ => false

/-- How deep a key may be nested inside the object of the header. -/
def maxDepth : Nat := 126

/-- Reads a key, of which nothing is kept. -/
def readWebKey (tokens : List Json.Token) : Json.Read Unit :=
  match Json.readValue maxDepth tokens with
  | .error p => .error p
  | .ok (value, rest) => if isWebKey value then .ok ((), rest) else .error .misfit

/-! ### Headers -/

/-- The members that hold a string or null. -/
def textMembers : List String :=
  ["typ", "cty", "jku", "kid", "x5u", "x5t", "x5t#S256", "enc", "zip", "url", "nonce"]

/-- The members that hold a list of strings or null. -/
def listMembers : List String :=
  ["crit", "x5c"]

/-- The header of a token that is issued. -/
def render (algorithm : Algorithm) : List Char :=
  (Json.Value.object [("typ", .text "JWT"), ("alg", .text algorithm.name)]).render

/-- What has been read of a header: the algorithm, and the known members met. -/
structure Partial where
  algorithm : Option Algorithm
  seen : List String

/-- Reads the name of an algorithm. -/
def readAlgorithm (tokens : List Json.Token) : Json.Read Algorithm :=
  match Json.readText tokens with
  | .error p => .error p
  | .ok (name, rest) =>
    match Algorithm.ofName? (String.ofList name) with
    | some a => .ok (a, rest)
    | none => .error .misfit

/-- Reads one member. -/
def member (h : Partial) (name : List Char) (tokens : List Json.Token) : Json.Read Partial :=
  let name := String.ofList name
  let noted : Partial := { h with seen := name :: h.seen }
  let passed {α : Type} (read : List Json.Token → Json.Read α) : Json.Read Partial :=
    (Json.afterColon read tokens).map fun (_, rest) => (noted, rest)
  if h.seen.contains name then .error .misfit
  else if name = "alg" then
    (Json.afterColon readAlgorithm tokens).map fun (a, rest) =>
      ({ noted with algorithm := some a }, rest)
  else if textMembers.contains name then passed (Json.orNull Json.readText)
  else if listMembers.contains name then passed (Json.orNull Json.readTexts)
  else if name = "jwk" then passed (Json.orNull readWebKey)
  else (Json.afterColon Json.readText tokens).map fun (_, rest) => (h, rest)

/-- Reads a header. -/
def readTokens : List Json.Token → Json.Read Algorithm
  | .openObject :: rest =>
    match Json.readMembers member ⟨none, []⟩ rest with
    | .ok (⟨some a, _⟩, rest) => .ok (a, rest)
    | .ok _ => .error .misfit
    | .error p => .error p
  | tokens => .error (Json.problemAt tokens)

/-- The algorithm that a header names. -/
def read (bytes : Bytes) : Except Json.Problem Algorithm :=
  Json.readWhole readTokens bytes

end BearerGate.Header
