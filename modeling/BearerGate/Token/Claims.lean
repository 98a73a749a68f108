import BearerGate.Identity
import BearerGate.Json.Reader
import BearerGate.Second
import BearerGate.Text.Blank
import BearerGate.Token.Problem

/-!
# Claims

The payload of a token as it is written and as it is read. A token that is issued carries all
five claims. Of a token that is received each claim may be missing or null, the grants may be any
JSON value, and members that are not known are passed over.

* `Claims.render` — the payload of an identity;
* `Claims.read` — the claims of a payload;
* `Claims.identity` — the checks on the claims, in a fixed order, the first that fails deciding.
-/

namespace BearerGate

/-- The claims of a token that is received. -/
structure Claims where
  tokenId : Option String
  subject : Option String
  grants : Option Json.Value
  issuedAt : Option Int64
  expires : Option Int64

namespace Claims

/-! ### Writing -/

/-- The payload of a token for an identity that is valid between two times. -/
def render (who : Identity) (issuedAt expires : Int64) : List Char :=
  (Json.Value.object
    [("jti", .text (String.ofList (Text.writeInt64 who.id))),
      ("sub", .text who.username),
      ("grants", .list (who.grants.toList.map .text)),
      ("iat", .int issuedAt.toInt),
      ("exp", .int expires.toInt)]).render

/-! ### Reading -/

/-- How deep a claim may be nested inside the object of the claims. -/
def maxDepth : Nat := 126

/-- The members that are known by name; each may occur once. -/
def known : List String :=
  ["jti", "sub", "grants", "iat", "exp", "nbf", "iss", "aud"]

/-- What has been read of a payload: the claims, and the known members met. -/
structure Partial where
  claims : Claims
  seen : List String

/-- Reads a text, or null. -/
def readText (tokens : List Json.Token) : Json.Read (Option String) :=
  (Json.orNull Json.readText tokens).map fun (cs, rest) => (cs.map String.ofList, rest)

/-- Passes over a value that is not a list or object with something in it. -/
def skipFlat (tokens : List Json.Token) : Json.Read Unit :=
  match tokens with
  | .openList :: .closeList :: _ => Json.skip tokens
  | .openObject :: .closeObject :: _ => Json.skip tokens
  | .openList :: _ => .error .malformed
  | .openObject :: _ => .error .malformed
  | _ => Json.skip tokens

/-- Reads one member. A time before which the token is not valid is passed over like a member
that is not known, except that it may not be a list or object with something in it. -/
def member (p : Partial) (name : List Char) (tokens : List Json.Token) : Json.Read Partial :=
  let name := String.ofList name
  let seen := name :: p.seen
  let filled {α : Type} (read : List Json.Token → Json.Read α) (put : α → Claims) :
      Json.Read Partial :=
    (Json.afterColon read tokens).map fun (a, rest) => (⟨put a, seen⟩, rest)
  if known.contains name && p.seen.contains name then .error .misfit
  else if name = "jti" then filled readText fun a => { p.claims with tokenId := a }
  else if name = "sub" then filled readText fun a => { p.claims with subject := a }
  else if name = "grants" then
    filled (Json.orNull (Json.readValue maxDepth)) fun a => { p.claims with grants := a }
  else if name = "iat" then
    filled (Json.orNull Json.readInt64) fun a => { p.claims with issuedAt := a }
  else if name = "exp" then
    filled (Json.orNull Json.readInt64) fun a => { p.claims with expires := a }
  else if name = "nbf" then filled skipFlat fun _ => p.claims
  else filled Json.skip fun _ => p.claims

/-- Takes the comma before the next element of a list. -/
def nextElement {α : Type} (read : List Json.Token → Json.Read α) :
    List Json.Token → Json.Read α
  | .comma :: rest => read rest
  | _ => .error .malformed

/-- Reads claims that are written as the list of their five values. Such claims are never found
to expire, because the time at which they do is looked for by name. -/
def readElements (tokens : List Json.Token) :
    Except Json.Problem (Claims × List Json.Token) := do
  let (tokenId, rest) ← readText tokens
  let (subject, rest) ← nextElement readText rest
  let (grants, rest) ← nextElement (Json.orNull (Json.readValue maxDepth)) rest
  let (issuedAt, rest) ← nextElement (Json.orNull Json.readInt64) rest
  let (_, rest) ← nextElement (Json.orNull Json.readInt64) rest
  match grants, rest with
  | some (.list _), _ => .error .malformed
  | some (.object _), _ => .error .malformed
  | grants, .closeList :: rest => .ok (⟨tokenId, subject, grants, issuedAt, none⟩, rest)
  | _, _ => .error .malformed

/-- Reads claims. -/
def readTokens : List Json.Token → Json.Read Claims
  | .openObject :: rest =>
    (Json.readMembers member ⟨⟨none, none, none, none, none⟩, []⟩ rest).map fun (p, rest) =>
      (p.claims, rest)
  | .openList :: rest => readElements rest
  | tokens => .error (Json.problemAt tokens)

/-- The claims of a payload. -/
def read (bytes : Bytes) : Except Json.Problem Claims :=
  Json.readWhole readTokens bytes

/-! ### Checking -/

/-- The strings of a list of values; `none` if some value is not a string. -/
def textsOf? : List Json.Value → Option (List String)
  | [] => some []
  | .text s :: rest => (textsOf? rest).map (s :: ·)
  | _ => none

/-- The names that a value grants, as a resolver maps them; names it does not map are left out. -/
def grantsOf (resolve : String → Option String) (value : Json.Value) :
    Except TokenProblem NameSet :=
  match value with
  | .list items =>
    match textsOf? items with
    | some texts => .ok (NameSet.ofList (texts.filterMap resolve))
    | none => .error (.malformed .grantNotText)
  | _ => .error (.malformed .grantsNotList)

/-- A claim that has to be there. -/
def require {α : Type} (claim : ClaimName) (value : Option α) : Except TokenProblem α :=
  match value with
  | some a => .ok a
  | none => .error (.missingClaim claim)

/-- The latest time of issue that is taken at a time: the leeway later, or the last there is. -/
def latestIssue (now : Second) (leeway : Nat) : Int64 :=
  Word.saturatingAdd now.signed ((Word.signed? leeway).getD Int64.maxValue)

/-- The identity that verified claims stand for at a time. -/
def identity (claims : Claims) (resolve : String → Option String) (now : Second) (leeway : Nat) :
    Except TokenProblem Identity := do
  let text ← require .tokenId (claims.tokenId.filter fun text => !Text.isBlankText text.toList)
  let id ← match Text.readInt64 (Text.trim text.toList) with
    | some id => Except.ok id
    | none => .error (.malformed .idNotInteger)
  let username ← require .subject claims.subject
  let grants ← grantsOf resolve (← require .grants claims.grants)
  let issuedAt ← require .issuedAt claims.issuedAt
  if latestIssue now leeway < issuedAt then .error (.malformed .issuedInFuture)
  else
    let _ ← require .expires claims.expires
    .ok ⟨id, username, grants⟩

end Claims

end BearerGate
