import BearerGate.Http.MediaType
import BearerGate.LogEvent
import BearerGate.Service.Refusal
import BearerGate.Service.TokenRequest

/-!
# Handlers

What the service does on each of its three routes, once it is known who the request comes from.

* `health` says that the service is there;
* `profile` tells the caller's name and authorities;
* `issueToken` makes a token for someone, if the caller is an administrator. Whether the body is
  in order is looked at only after that, so nobody else learns anything from it.
-/

namespace BearerGate

/-- The service: the gate, and the issuer if tokens are issued at all. -/
structure Service where
  gate : Gate
  issuer : Option Issuer

namespace Service

/-- A response and the events that were logged on the way to it. -/
structure Answer where
  response : Http.Response
  events : List LogEvent

/-- A refusal as an answer. -/
def refuse (r : Refusal) : Answer := ⟨r.response, []⟩

/-- The answer on the health route. -/
def health : Answer := ⟨.json 200 (.object [("status", .text "ok")]), []⟩

/-- The description of a caller. -/
def describe (caller : Caller) : Json.Value :=
  .object
    [("name", .text caller.name),
      ("authorities", .list (caller.authorities.toList.map .text)),
      ("anonymous", .bool caller.isAnonymous)]

/-- The answer on the profile route. -/
def profile (caller : Caller) : Answer := ⟨.json 200 (describe caller), []⟩

/-! ### What comes from outside -/

/-- What is fresh with a request and not for the service to decide: the number it gets if it brings
none, the number drawn for the signature of a token, and what a library says of a token or a body
that it cannot read. -/
structure Fresh where
  number : Bytes
  draw : Nat
  said : String

/-! ### Bodies -/

/-- A body together with the number of bytes that may be read of it. -/
structure Body where
  bytes : Bytes
  limit : Option Nat

/-- Why a body yields no request for a token. -/
inductive BodyProblem where
  | notJsonType
  | tooLong
  | misfit
  | malformed
  deriving DecidableEq

/-- The text of a problem; `said` is what is said of a body that cannot be read. -/
def BodyProblem.message (said : String) : BodyProblem → String
  | .notJsonType => "Expected request with \x60Content-Type: application/json\x60"
  | .tooLong => "Failed to buffer the request body: length limit exceeded"
  | .misfit => "Failed to deserialize the JSON body into the target type: " ++ said
  | .malformed => "Failed to parse the request body as JSON: " ++ said

/-- Whether the headers say that the body is JSON. -/
def saysJson (headers : Http.Headers) : Bool :=
  (Http.Headers.text? headers "content-type").any Http.MediaType.isJson

/-- The request for a token in a body. -/
def readBody (headers : Http.Headers) (body : Body) : Except BodyProblem TokenRequest :=
  if !saysJson headers then .error .notJsonType
  else if body.limit.any (· < body.bytes.length) then .error .tooLong
  else match TokenRequest.read body.bytes with
    | .ok request => .ok request
    | .error .misfit => .error .misfit
    | .error .malformed => .error .malformed

/-! ### Issuing -/

/-- The response with a token that was issued. -/
def issued (scheme token : String) (lifetime : Nat) : Http.Response :=
  .json 201 (.object
    [("token", .text token), ("token_type", .text scheme), ("expires_in", .int lifetime)])

/-- The identity that a request for a token asks for. -/
def identityOf (request : TokenRequest) (grants : List String) : Identity where
  id := request.id
  username := String.ofList (Text.trim request.username.toList)
  grants := NameSet.ofList grants

/-- The refusal of a body. -/
def refuseBody (text : String) : Answer := refuse (.badRequest "INVALID_REQUEST" text)

/-- The answer to a request for a token from a caller who may have one. -/
def issueFor (scheme : String) (issuer : Issuer) (now : Second) (draw : Nat) (caller : Caller)
    (request : TokenRequest) : Answer :=
  match request.complaint? with
  | some complaint => refuseBody complaint
  | none =>
    match request.grantNames with
    | .error text => refuse (.badRequest "INVALID_GRANT" text)
    | .ok grants =>
      let who := identityOf request grants
      match issuer.issue now draw who with
      | .error problem => ⟨Refusal.internal.response, [.issuanceFailed problem]⟩
      | .ok token => ⟨issued scheme token issuer.lifetime, [.tokenIssued who.id caller.name]⟩

/-- The answer on the token route. -/
def issueToken (service : Service) (now : Second) (fresh : Fresh) (caller : Caller)
    (headers : Http.Headers) (body : Body) : Answer :=
  match service.issuer with
  | none => refuse (.notFound "token issuer")
  | some issuer =>
    if !caller.hasAuthority Role.admin.name then refuse .forbidden
    else match readBody headers body with
      | .error problem => refuseBody (problem.message fresh.said)
      | .ok request => issueFor service.gate.scheme issuer now fresh.draw caller request

end Service

end BearerGate
