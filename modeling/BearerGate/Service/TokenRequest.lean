import BearerGate.Json.Reader
import BearerGate.Role
import BearerGate.Text.Blank

/-!
# Token Requests

What the body of a request for a token asks for: the number of the token, the name of the user,
and the roles that it shall grant. The body is a JSON object with these members, or a list of the
three values; the roles may be left out. The name has to hold more than blanks and at most 256
bytes, and a role that is not known is refused, where verification would only leave it out.
-/

namespace BearerGate

/-- What a token is asked for. -/
structure TokenRequest where
  id : Int64
  username : String
  grants : List String
  deriving DecidableEq

namespace TokenRequest

/-! ### Reading -/

/-- What has been read of a body. -/
structure Partial where
  id : Option Int64
  username : Option String
  grants : Option (List String)

/-- The request of a body whose members have all been read. -/
def Partial.complete (p : Partial) : Except Json.Problem TokenRequest :=
  match p.id, p.username with
  | some id, some username => .ok ⟨id, username, p.grants.getD []⟩
  | _, _ => .error .misfit

/-- Reads a text. -/
def readText (tokens : List Json.Token) : Json.Read String :=
  (Json.readText tokens).map fun (cs, rest) => (String.ofList cs, rest)

/-- Reads a list of texts. -/
def readTexts (tokens : List Json.Token) : Json.Read (List String) :=
  (Json.readTexts tokens).map fun (texts, rest) => (texts.map String.ofList, rest)

/-- Reads one member. A member that is known may occur once; one that is not is passed over. -/
def member (p : Partial) (name : List Char) (tokens : List Json.Token) : Json.Read Partial :=
  let name := String.ofList name
  let filled {α : Type} (present : Bool) (read : List Json.Token → Json.Read α)
      (put : α → Partial) : Json.Read Partial :=
    if present then .error .misfit
    else (Json.afterColon read tokens).map fun (a, rest) => (put a, rest)
  if name = "id" then filled p.id.isSome Json.readInt64 fun a => { p with id := some a }
  else if name = "username" then
    filled p.username.isSome readText fun a => { p with username := some a }
  else if name = "grants" then
    filled p.grants.isSome readTexts fun a => { p with grants := some a }
  else filled false Json.skip fun _ => p

/-- Reads the next value of a list, which has to be there. -/
def nextElement {α : Type} (read : List Json.Token → Json.Read α) :
    List Json.Token → Json.Read α
  | .closeList :: _ => .error .misfit
  | .comma :: .closeList :: _ => .error .malformed
  | .comma :: rest => read rest
  | _ => .error .malformed

/-- Reads the three values of a list whose opening bracket has been taken; the last may be left
out. -/
def readElements (tokens : List Json.Token) :
    Except Json.Problem (TokenRequest × List Json.Token) := do
  let (id, rest) ← match tokens with
    | .closeList :: _ => .error .misfit
    | _ => Json.readInt64 tokens
  let (username, rest) ← nextElement readText rest
  match rest with
  | .closeList :: rest => .ok (⟨id, username, []⟩, rest)
  | _ =>
    let (grants, rest) ← nextElement readTexts rest
    match rest with
    | .closeList :: rest => .ok (⟨id, username, grants⟩, rest)
    | _ => .error .malformed

/-- Reads a request. -/
def readTokens : List Json.Token → Json.Read TokenRequest
  | .openObject :: rest =>
    match Json.readMembers member ⟨none, none, none⟩ rest with
    | .error p => .error p
    | .ok (p, rest) => p.complete.map fun request => (request, rest)
  | .openList :: rest => readElements rest
  | tokens => .error (Json.problemAt tokens)

/-- The request in a body. -/
def read (body : Bytes) : Except Json.Problem TokenRequest :=
  Json.readWhole readTokens body

/-! ### Checking -/

/-- The longest name, in bytes. -/
def maxNameSize : Nat := 256

/-- What is wrong with a request, if something is. -/
def complaint? (r : TokenRequest) : Option String :=
  if Text.isBlankText r.username.toList then some "username is required"
  else if maxNameSize < Utf8.size r.username.toList then some "username must be <= 256 bytes"
  else none

/-- What is said of a role that is not known. -/
def unknownGrantMessage (text : String) : String :=
  "unknown grant: " ++ text

/-- The canonical names of the roles asked for, in order; or what is said of the first that is
not known. -/
def grantNames (r : TokenRequest) : Except String (List String) :=
  (Role.resolveAll r.grants).mapError unknownGrantMessage

end TokenRequest

end BearerGate
