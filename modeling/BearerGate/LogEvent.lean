import BearerGate.Gate
import BearerGate.Token.Issuer

/-!
# Log Events

What the service writes to its log, from the level of information on. Logs tell the cause of a
rejection in full, which responses never do; a token appears by its fingerprint only.
-/

namespace BearerGate

/-- How grave an event is. -/
inductive LogLevel where
  | info
  | warning
  | error
  deriving DecidableEq

/-- The text of a level. -/
def LogLevel.text : LogLevel → String
  | .info => "INFO"
  | .warning => "WARN"
  | .error => "ERROR"

/-- The value of a field of an event. -/
inductive LogValue where
  | text (value : String)
  | integer (value : Int)
  deriving DecidableEq

/-- An event. -/
inductive LogEvent where
  | gateReady (algorithm : Algorithm) (source : Revocation.Source)
  | tokenRejected (method path : String) (cause : Rejection) (fingerprint : String)
  | requestRejected (method path : String) (failure : GateFailure)
  | tokenIssued (id : Int64) (issuedBy : String)
  | issuanceFailed (problem : IssuingProblem)
  deriving DecidableEq

namespace LogEvent

/-- The event for a request that the gate turned away. -/
def ofFailure (method path : String) : GateFailure → LogEvent
  | .authentication cause fingerprint => tokenRejected method path cause fingerprint
  | failure => requestRejected method path failure

/-- How grave an event is. -/
def level : LogEvent → LogLevel
  | gateReady _ _ => .info
  | tokenRejected _ _ _ _ => .warning
  | requestRejected _ _ _ => .warning
  | tokenIssued _ _ => .info
  | issuanceFailed _ => .error

/-- The text of an event. -/
def message : LogEvent → String
  | gateReady _ _ => "token authentication ready"
  | tokenRejected _ _ _ _ => "token authentication failed"
  | requestRejected _ _ _ => "authentication failed"
  | tokenIssued _ _ => "token issued"
  | issuanceFailed _ => "token issuance failed"

/-- The fields of an event; `said` is what a library has said of the token that it could not read,
or of the key that did not sign. The number of a token is told only of one that was revoked. -/
def fields (said : String) : LogEvent → List (String × LogValue)
  | gateReady algorithm source =>
    [("algorithm", .text algorithm.name), ("revocation", .text source.name)]
  | tokenRejected method path cause fingerprint =>
    [("method", .text method), ("path", .text path), ("cause", .text (cause.chain said))] ++
      (cause.tokenId?.toList.map fun id => ("token_id", .integer id.toInt)) ++
      [("fingerprint", .text fingerprint)]
  | requestRejected method path failure =>
    [("method", .text method), ("path", .text path), ("reason", .text failure.message)]
  | tokenIssued id issuedBy => [("token_id", .integer id.toInt), ("issued_by", .text issuedBy)]
  | issuanceFailed problem => [("error", .text (problem.message said))]

end LogEvent

end BearerGate
