import BearerGate.Caller
import BearerGate.Http.Message
import BearerGate.RoutePattern
import BearerGate.Screening

/-!
# The Gate

The gate decides for each request who it comes from, or that it is turned away. It looks at the
method, the path and one header, whose value is a scheme and a token in words.

```text
                   no words, optional route
  noCredentials ------------------------------> anonymous caller
       | no words, any other route
       +--------------------------------------> missing credentials

  credentialsPresent -- another scheme -------> unsupported scheme
       |--------------- scheme only ----------> missing token
       |--------------- token turned away ----> authentication failure
       +--------------- token admitted -------> caller of the token
```

A value that is not readable text cannot carry the scheme and is turned away at once. A request is
taken from stage to stage until one is reached in which it is decided. The outcome is final: nothing
is tried twice, and nothing is remembered for the next request.
-/

namespace BearerGate

/-- What the gate looks at. -/
structure RequestHead where
  method : String
  path : String
  headers : Http.Headers

/-- Why a request was turned away. -/
inductive GateFailure where
  | missingCredentials
  | unsupportedScheme
  | missingTokenValue
  | authentication (cause : Rejection) (fingerprint : String)
  deriving DecidableEq

/-- What a client may learn of the reason. -/
inductive FailureClass where
  | unauthenticated
  | unavailable
  deriving DecidableEq

namespace GateFailure

/-- The text of a failure. -/
def message : GateFailure → String
  | missingCredentials => "authentication is not optional for this route"
  | unsupportedScheme => "unsupported authentication scheme"
  | missingTokenValue => "missing token value"
  | authentication _ _ => "token authentication failed"

/-- What a client may learn of a failure: only whether it lies with the client. -/
def outward : GateFailure → FailureClass
  | authentication (.unavailable _) _ => .unavailable
  | _ => .unauthenticated

end GateFailure

/-- Where the gate stands with a request. -/
inductive Stage where
  | noCredentials
  | credentialsPresent (value : List Char)
  | decided (verdict : Except GateFailure Caller)

/-- The name of a stage. -/
def Stage.name : Stage → String
  | .noCredentials => "no_credentials"
  | .credentialsPresent _ => "credentials_present"
  | .decided (.ok _) => "authenticated"
  | .decided (.error _) => "failed"

/-- The verdict, if there is one. -/
def Stage.verdict? : Stage → Option (Except GateFailure Caller)
  | .decided verdict => some verdict
  | _ => none

/-- How many turns are left. -/
def Stage.left : Stage → Nat
  | .decided _ => 0
  | _ => 1

/-- What decides who a request comes from. -/
structure Gate where
  headerName : String
  scheme : String
  optionalRoutes : List RoutePattern
  screen : Screen

namespace Gate

/-- What came of a request at the gate: the verdict, the stages it went through, and the keys that
a store was asked for. -/
structure Passage where
  verdict : Except GateFailure Caller
  stages : List Stage
  lookups : List String

/-- A short text by which a token is recognised in logs and from which it cannot be recovered. -/
def fingerprint (raw : String) : String :=
  String.ofList ((Base64.encode Base64.url (Digest.sha256.hash (Utf8.encode raw.toList))).take 16)

/-- The first stage of a request. -/
def start (gate : Gate) (head : RequestHead) : Stage :=
  match Http.Headers.first? head.headers gate.headerName with
  | none => .noCredentials
  | some bytes =>
    match Http.text? bytes with
    | none => .decided (.error .unsupportedScheme)
    | some value => if Text.isBlankText value then .noCredentials else .credentialsPresent value

/-- Whether a request may do without credentials. -/
def isOptional (gate : Gate) (head : RequestHead) : Bool :=
  gate.optionalRoutes.any fun route => route.covers head.method head.path

/-- The verdict on a request without credentials. -/
def withoutCredentials (gate : Gate) (head : RequestHead) : Except GateFailure Caller :=
  if gate.isOptional head then .ok Caller.anonymous else .error .missingCredentials

/-- The verdict on a token that has been screened. -/
def judge (raw : String) : Except Rejection Identity → Except GateFailure Caller
  | .ok who => .ok (Caller.ofIdentity who).authenticate
  | .error cause => .error (.authentication cause (fingerprint raw))

section Run

variable {σ : Type} (gate : Gate) (provide : Provider σ)

/-- The verdict on a request with a credential value, and the world after that. Words after the
token are ignored. -/
def withCredentials (world : σ) (value : List Char) : Except GateFailure Caller × σ :=
  match Text.words value with
  | [] => (.error .unsupportedScheme, world)
  | scheme :: rest =>
    if String.ofList scheme ≠ gate.scheme then (.error .unsupportedScheme, world)
    else match rest with
      | [] => (.error .missingTokenValue, world)
      | token :: _ =>
        let raw := String.ofList token
        let answer := provide world raw
        (judge raw answer.1, answer.2)

/-- The stage after a stage, and the world after that. -/
def turn (head : RequestHead) (world : σ) : Stage → Stage × σ
  | .noCredentials => (.decided (gate.withoutCredentials head), world)
  | .credentialsPresent value =>
    let judged := gate.withCredentials provide world value
    (.decided judged.1, judged.2)
  | .decided verdict => (.decided verdict, world)

theorem left_turn_lt (head : RequestHead) (world : σ) {stage : Stage}
    (h : stage.verdict? = none) :
    (gate.turn provide head world stage).1.left < stage.left := by
  cases stage with
  | decided verdict => cases h
  | noCredentials => exact Nat.zero_lt_one
  | credentialsPresent value => exact Nat.zero_lt_one

/-- What came of taking a request from stage to stage. -/
structure Run (σ : Type) where
  verdict : Except GateFailure Caller
  stages : List Stage
  world : σ

/-- Takes a request on from a stage until it is decided. -/
def follow (head : RequestHead) (world : σ) (stage : Stage) : Run σ :=
  match h : stage.verdict? with
  | some verdict => ⟨verdict, [stage], world⟩
  | none =>
    have := left_turn_lt gate provide head world h
    let next := gate.turn provide head world stage
    let run := follow head next.2 next.1
    { run with stages := stage :: run.stages }
termination_by stage.left

/-- Takes a request from its first stage until it is decided. -/
def attempt (world : σ) (head : RequestHead) : Run σ :=
  gate.follow provide head world (gate.start head)

end Run

/-- Takes a request through the gate, which screens tokens. -/
def pass (gate : Gate) (now : Second) (store : Revocation.Store) (head : RequestHead) : Passage :=
  let run := gate.attempt (gate.screen.provider now store) [] head
  ⟨run.verdict, run.stages, run.world⟩

end Gate

end BearerGate
