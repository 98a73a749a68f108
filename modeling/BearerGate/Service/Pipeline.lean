import BearerGate.Service.Handlers

/-!
# The Request Pipeline

What a request goes through, outermost layer first.

1. It gets a number, unless it brings one; the response repeats it.
2. A `content-length` that is too large is answered at once; a smaller one limits the body.
3. The gate decides who the request comes from, whatever its path.
4. The path and the method choose a handler. A path that is not known gives 404, a known path with
   another method 405.

The response to a known path with another method names the methods that the path has, whatever
layer made it. A response to HEAD has no body.
-/

namespace BearerGate

/-- The places that requests are routed to. -/
inductive Route where
  | health
  | profile
  | tokens
  deriving DecidableEq

namespace Route

/-- All routes. -/
def all : List Route := [health, profile, tokens]

/-- The path of a route. -/
def path : Route → String
  | health => "/health"
  | profile => "/api/v1/me"
  | tokens => "/api/v1/tokens"

/-- The path of a route below the common one of the interface; the health route is not there. -/
def innerPath? : Route → Option String
  | health => none
  | profile => some "/me"
  | tokens => some "/tokens"

/-- The route with a path. -/
def ofPath? (path : String) : Option Route :=
  all.find? fun route => route.path = path

/-- The route with a path below the common one. -/
def ofInnerPath? (path : String) : Option Route :=
  all.find? fun route => route.innerPath? = some path

/-- The methods of a route. -/
def methods : Route → List String
  | health => ["GET", "HEAD"]
  | profile => ["GET", "HEAD"]
  | tokens => ["POST"]

/-- Whether a route has a method. -/
def allows (route : Route) (method : String) : Bool :=
  route.methods.contains method

end Route

namespace Service

/-- The header with the number of a request. -/
def requestIdName : String := "x-request-id"

/-- The largest body that is read, in bytes. -/
def bodyLimit : Nat := 65536

/-- What came of a request: the response, the events logged, and the keys a store was asked for. -/
structure Exchange where
  response : Http.Response
  events : List LogEvent
  lookups : List String

/-- An answer of a handler after the gate asked for some keys. -/
def Answer.after (answer : Answer) (lookups : List String) : Exchange :=
  ⟨answer.response, answer.events, lookups⟩

/-- A bare response as an exchange. -/
def Exchange.ofResponse (response : Http.Response) : Exchange := ⟨response, [], []⟩

/-- The exchange with its response changed. -/
def Exchange.mapResponse (e : Exchange) (f : Http.Response → Http.Response) : Exchange :=
  { e with response := f e.response }

/-- The number of bytes that the headers announce; `none` where they announce none that can be
read. -/
def announcedLength (headers : Http.Headers) : Option Nat :=
  (Http.Headers.text? headers "content-length").bind (Text.readUnsigned 64)

/-- The response to a body that is announced as too large. -/
def tooLarge : Http.Response := .plain 413 "length limit exceeded"

/-- The answer of the handler that the path and the method choose. -/
def route (service : Service) (now : Second) (fresh : Fresh) (caller : Caller)
    (request : Http.Request) (limit : Nat) : Answer :=
  match Route.ofPath? request.path with
  | none => ⟨.ofStatus 404, []⟩
  | some place =>
    if !place.allows request.method then ⟨.ofStatus 405, []⟩
    else match place with
      | .health => health
      | .profile => profile caller
      | .tokens => service.issueToken now fresh caller request.headers ⟨request.body, some limit⟩

/-- What the gate looks at of a request. -/
def headOf (request : Http.Request) : RequestHead :=
  ⟨request.method, request.path, request.headers⟩

/-- The answer to a request after its passage through the gate. -/
def afterGate (service : Service) (now : Second) (fresh : Fresh) (request : Http.Request)
    (limit : Nat) (verdict : Except GateFailure Caller) : Answer :=
  match verdict with
  | .ok caller => service.route now fresh caller request limit
  | .error failure =>
    ⟨(Refusal.ofFailure service.gate.scheme failure).response,
      [.ofFailure request.method request.path failure]⟩

/-- A request at the gate and behind it. -/
def guarded (service : Service) (now : Second) (store : Revocation.Store) (fresh : Fresh)
    (request : Http.Request) (limit : Nat) : Exchange :=
  let passage := service.gate.pass now store (headOf request)
  (service.afterGate now fresh request limit passage.verdict).after passage.lookups

/-- A request within the limit on its body. -/
def limited (service : Service) (now : Second) (store : Revocation.Store) (fresh : Fresh)
    (request : Http.Request) : Exchange :=
  match announcedLength request.headers with
  | none => service.guarded now store fresh request bodyLimit
  | some length =>
    if bodyLimit < length then .ofResponse tooLarge
    else service.guarded now store fresh request length

/-- The response with the methods of a path, where the request has another one. -/
def withAllow (place : Option Route) (method : String) (response : Http.Response) :
    Http.Response :=
  match place with
  | none => response
  | some place =>
    if place.allows method then response
    else
      let methods := Text.joinWith [','] (place.methods.map (·.toList))
      response.withHeader "allow" (Utf8.encode methods)

/-- The response as it is sent: without a body to HEAD. -/
def sent (method : String) (response : Http.Response) : Http.Response :=
  if method = "HEAD" then response.withoutBody else response

/-- The request with a number, which is a fresh one unless it brings one, and that number. -/
def numbered (fresh : Fresh) (request : Http.Request) : Http.Request × Bytes :=
  match Http.Headers.first? request.headers requestIdName with
  | some id => (request, id)
  | none =>
    ({ request with headers := request.headers ++ [(requestIdName, fresh.number)] }, fresh.number)

/-- What comes of a request. -/
def handle (service : Service) (now : Second) (store : Revocation.Store) (fresh : Fresh)
    (request : Http.Request) : Exchange :=
  let (request, id) := numbered fresh request
  (service.limited now store fresh request).mapResponse fun response =>
    let response := withAllow (Route.ofPath? request.path) request.method response
    (sent request.method response).withHeader requestIdName id

/-- The answer of the routes below the common path on their own, with no gate in front: nobody is
known there, so every handler refuses. -/
def handleBare (service : Service) (request : Http.Request) : Http.Response :=
  let place := Route.ofInnerPath? request.path
  let response : Http.Response :=
    match place with
    | none => .ofStatus 404
    | some place =>
      if place.allows request.method then
        (Refusal.unauthenticated service.gate.scheme).response
      else .ofStatus 405
  sent request.method (withAllow place request.method response)

end Service

end BearerGate
