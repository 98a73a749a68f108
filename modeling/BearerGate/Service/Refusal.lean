import BearerGate.Gate
import BearerGate.Http.Message

/-!
# Refusals

The ways in which the service refuses a request, and the responses they become: a status and a
JSON body with a code and a text. All requests that the gate turns away for a reason on the side
of the client are refused in the same way, with the scheme as the challenge; where the reason lies
with the revocation store the service is unavailable.
-/

namespace BearerGate

/-- A way in which the service refuses a request. -/
inductive Refusal where
  | badRequest (code text : String)
  | unauthenticated (scheme : String)
  | forbidden
  | notFound (resource : String)
  | unavailable
  | internal
  deriving DecidableEq

namespace Refusal

/-- The text of a refusal, for people who run the service. -/
def display : Refusal → String
  | badRequest code text => code ++ ": " ++ text
  | unauthenticated _ => "unauthenticated"
  | forbidden => "forbidden"
  | notFound resource => "not found: " ++ resource
  | unavailable => "service unavailable"
  | internal => "internal server error"

/-- The status of the response. -/
def status : Refusal → Nat
  | badRequest _ _ => 400
  | unauthenticated _ => 401
  | forbidden => 403
  | notFound _ => 404
  | unavailable => 503
  | internal => 500

/-- The code in the response. -/
def code : Refusal → String
  | badRequest code _ => code
  | unauthenticated _ => "UNAUTHENTICATED"
  | forbidden => "FORBIDDEN"
  | notFound _ => "NOT_FOUND"
  | unavailable => "SERVICE_UNAVAILABLE"
  | internal => "INTERNAL_SERVER_ERROR"

/-- The text in the response. -/
def text : Refusal → String
  | badRequest _ text => text
  | unauthenticated _ => "authentication required"
  | forbidden => "forbidden"
  | notFound resource => resource ++ " not found."
  | unavailable => "service temporarily unavailable"
  | internal => "internal server error"

/-- The challenge in the response: the scheme, if a header can hold it. -/
def challenge? : Refusal → Option Bytes
  | unauthenticated scheme => some (Utf8.encode scheme.toList) |>.filter Http.isValue
  | _ => none

/-- The body of the response. -/
def body (r : Refusal) : Json.Value :=
  .object [("error", .object [("code", .text r.code), ("message", .text r.text)])]

/-- The response of a refusal. -/
def response (r : Refusal) : Http.Response :=
  let response := Http.Response.json r.status r.body
  match r.challenge? with
  | some challenge => response.withHeader "www-authenticate" challenge
  | none => response

/-- The refusal of a request that the gate turned away. -/
def ofFailure (scheme : String) (failure : GateFailure) : Refusal :=
  match failure.outward with
  | .unauthenticated => unauthenticated scheme
  | .unavailable => unavailable

end Refusal

end BearerGate
