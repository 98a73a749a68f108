import BearerGate.Proofs.Service.Pipeline
import BearerGate.Proofs.Service.Routes

/-!
# The Layers of the Pipeline

A request goes through the layers twice, on its way in and as an answer on its way out. On the way
in it gets a number, of which the gate and the handlers take no notice; on the way out the answer
is dressed: it loses its body if the method is HEAD, it names the methods of a path that has
others, and it gets the number. This module says what is behind the layers for every request, and
lists the fields of the answer to the last one.

## Main results

* `Service.handle_dressed_of_withinLimit`: the answer to a request within the limit is what comes of
  its passage through the gate, dressed; `Service.handle_dressed_of_error` and
  `Service.handle_dressed_of_ok` say what that is.
* `Service.handle_dressed_of_not_withinLimit`: the answer to any other request.
* `Service.handle_of_bringsToken`: a request that brings a token is answered as that is judged.
* `Service.status_handleBare_eq`: what is answered without a gate.
* `Service.passage_eq`: the number makes no difference at a gate that looks at another header.
-/

namespace BearerGate

open Http (Request)

/-! ### Dress -/

namespace Service

/-- An exchange that is **another one in the dress** that a request gives it: without a body to
HEAD, with the methods of the path where they are named, and with a number. -/
structure Dressed (request : Request) (outer inner : Exchange) : Prop
    extends SameOutcome request.method outer inner where
  empty : request.method = "HEAD" → outer.response.body = []
  headers : ∃ id, outer.response.headers =
    inner.response.headers ++ allowField request.method request.path ++ [("x-request-id", id)]

/-- What is taken from an answer to HEAD is its body, and no header. -/
theorem headers_sent (method : String) (response : Http.Response) :
    (sent method response).headers = response.headers := by
  rw [sent]
  split <;> rfl

/-- The outermost layer **dresses** what comes of the request with its number. -/
theorem handle_dressed (service : Service) (now : Second) (store : Revocation.Store) (fresh : Fresh)
    (request : Request) :
    Dressed request (service.handle now store fresh request)
      (service.limited now store fresh (numbered fresh request).1) where
  toSameOutcome := handle_sameOutcome service now store fresh request
  empty hhead := by
    have hmethod := (sameButNumber_numbered fresh request).method
    rw [handle]
    simp only [Exchange.mapResponse, Http.Response.withHeader, sent, hmethod, hhead, if_true]
    rfl
  headers := by
    have hsame := sameButNumber_numbered fresh request
    refine ⟨(numbered fresh request).2, ?_⟩
    rw [handle]
    simp only [Exchange.mapResponse, Http.Response.withHeader, ← hsame.method, ← hsame.path,
      ← headers_withAllow, headers_sent]
    rfl

end Service

/-! ### The number of a request -/

/-- The passage through a gate depends on the method, the path and the first value of the
credential header only. -/
theorem Gate.pass_congr {gate : Gate} {now : Second} {store : Revocation.Store}
    {head other : RequestHead} (hmethod : head.method = other.method)
    (hpath : head.path = other.path)
    (hfirst : Http.Headers.first? head.headers gate.headerName =
      Http.Headers.first? other.headers gate.headerName) :
    gate.pass now store head = gate.pass now store other := by
  rw [pass, pass, attempt_congr hmethod hpath hfirst]

namespace SameButNumber

variable {request numbered : Request}

/-- The number does not change the first value of any other header. -/
theorem first?_of_ne (h : SameButNumber request numbered) {name : String}
    (hname : name ≠ Service.requestIdName) :
    Http.Headers.first? numbered.headers name = Http.Headers.first? request.headers name := by
  obtain ⟨more, hheaders, hmore⟩ := h.headers
  rw [hheaders]
  refine Http.Headers.first?_append_of_ne fun field hfield => ?_
  rw [hmore field hfield]
  exact hname.symm

/-- The number does not change the passage through a gate that looks at another header. -/
theorem pass (h : SameButNumber request numbered) {gate : Gate}
    (hname : gate.headerName ≠ Service.requestIdName) (now : Second) (store : Revocation.Store) :
    gate.pass now store (Service.headOf numbered) = gate.pass now store (Service.headOf request) :=
  Gate.pass_congr h.method h.path (h.first?_of_ne hname)

/-- The number does not change what the handlers answer. -/
theorem route (h : SameButNumber request numbered) (service : Service) (now : Second)
    (fresh : Service.Fresh) (caller : Caller) (limit : Nat) :
    service.route now fresh caller numbered limit =
      service.route now fresh caller request limit := by
  have hjson : Service.saysJson numbered.headers = Service.saysJson request.headers := by
    rw [Service.saysJson, Service.saysJson, Http.Headers.text?, Http.Headers.text?,
      h.first?_of_ne (by decide)]
  have hissue : ∀ body, service.issueToken now fresh caller numbered.headers body =
      service.issueToken now fresh caller request.headers body := by
    intro body
    rw [Service.issueToken, Service.issueToken]
    simp only [Service.readBody, hjson]
  rw [Service.route, Service.route, h.path, h.method, h.body, hissue]

/-- The number does not change what comes of a verdict. -/
theorem afterGate (h : SameButNumber request numbered) (service : Service) (now : Second)
    (fresh : Service.Fresh) (limit : Nat) (verdict : Except GateFailure Caller) :
    service.afterGate now fresh numbered limit verdict =
      service.afterGate now fresh request limit verdict := by
  cases verdict with
  | error failure => rw [Service.afterGate, Service.afterGate, h.method, h.path]
  | ok caller => exact h.route service now fresh caller limit

end SameButNumber

namespace Service

variable {service : Service} {now : Second} {store : Revocation.Store} {fresh : Fresh}
  {request : Request}

/-! ### Behind the layers -/

/-- The **passage** of a request, with its number, through the gate of a service. -/
def passage (service : Service) (now : Second) (store : Revocation.Store) (fresh : Fresh)
    (request : Request) : Gate.Passage :=
  service.gate.pass now store (headOf (numbered fresh request).1)

/-- At a gate that does not look for its credentials where the number is, the passage is that of
the request as it came. -/
theorem passage_eq (hname : service.gate.headerName ≠ requestIdName) (now : Second)
    (store : Revocation.Store) (fresh : Fresh) (request : Request) :
    service.passage now store fresh request = service.gate.pass now store (headOf request) :=
  (sameButNumber_numbered fresh request).pass hname now store

/-- A request **within the limit** is answered by what comes of its passage through the gate. -/
theorem handle_dressed_of_withinLimit (service : Service) (now : Second) (store : Revocation.Store)
    (fresh : Fresh) (h : WithinLimit request.headers) :
    Dressed request (service.handle now store fresh request)
      ((service.afterGate now fresh request (allowance request.headers)
        (service.passage now store fresh request).verdict).after
          (service.passage now store fresh request).lookups) := by
  have hsame := sameButNumber_numbered fresh request
  have hlength := announcedLength_of_sameButNumber hsame
  have hwithin : WithinLimit (numbered fresh request).1.headers := by
    intro length hannounced
    rw [hlength] at hannounced
    exact h length hannounced
  have hdressed := handle_dressed service now store fresh request
  rw [limited_of_withinLimit hwithin, guarded, hsame.afterGate, allowance, hlength] at hdressed
  exact hdressed

/-- A request within the limit that the gate **turns away** is answered with the refusal of the
failure, and that is logged. -/
theorem handle_dressed_of_error (h : WithinLimit request.headers) {failure : GateFailure}
    (hverdict : (service.passage now store fresh request).verdict = .error failure) :
    Dressed request (service.handle now store fresh request)
      ⟨(Refusal.ofFailure service.gate.scheme failure).response,
        [.ofFailure request.method request.path failure],
        (service.passage now store fresh request).lookups⟩ := by
  have hdressed := handle_dressed_of_withinLimit service now store fresh h
  rw [hverdict] at hdressed
  exact hdressed

/-- A request within the limit that the gate **lets through** is answered by the route, as the
caller that the gate names. -/
theorem handle_dressed_of_ok (h : WithinLimit request.headers) {caller : Caller}
    (hverdict : (service.passage now store fresh request).verdict = .ok caller) :
    Dressed request (service.handle now store fresh request)
      ((service.route now fresh caller request (allowance request.headers)).after
        (service.passage now store fresh request).lookups) := by
  have hdressed := handle_dressed_of_withinLimit service now store fresh h
  rw [hverdict] at hdressed
  exact hdressed

/-- A request that is **not within the limit** is answered for its length, and neither the gate nor
a store learns of it. -/
theorem handle_dressed_of_not_withinLimit (service : Service) (now : Second)
    (store : Revocation.Store) (fresh : Fresh) (h : ¬WithinLimit request.headers) :
    Dressed request (service.handle now store fresh request) (.ofResponse tooLarge) := by
  have hlength := announcedLength_of_sameButNumber (sameButNumber_numbered fresh request)
  have hwithin : ¬WithinLimit (numbered fresh request).1.headers := by
    intro hinner
    refine h fun length hannounced => ?_
    rw [← hlength] at hannounced
    exact hinner length hannounced
  have hdressed := handle_dressed service now store fresh request
  rw [limited_of_not_withinLimit hwithin] at hdressed
  exact hdressed

/-- A request that **brings a token** is answered as that is judged, and a store is asked for no
more than screening it asks for. -/
theorem handle_of_bringsToken (service : Service) (now : Second) (store : Revocation.Store)
    (fresh : Fresh) {request : Request} (hlimit : WithinLimit request.headers) {raw : String}
    (hbrings : BringsToken service.gate.headerName service.gate.scheme request.headers raw) :
    ∃ inner, SameButNumber request inner ∧
      SameOutcome request.method (service.handle now store fresh request)
        ((service.afterGate now fresh inner (allowance request.headers)
          (Gate.judge raw (service.gate.screen.check now store raw))).after
            (service.gate.screen.run now store raw).lookups) := by
  have hinner : BringsToken service.gate.headerName service.gate.scheme
      (headOf (numbered fresh request).1).headers raw :=
    (sameButNumber_numbered fresh request).bringsToken hbrings
  have hdressed := handle_dressed_of_withinLimit service now store fresh hlimit
  rw [passage, Gate.verdict_of_bringsToken hinner, Gate.lookups_of_bringsToken hinner] at hdressed
  exact ⟨request, .refl request, hdressed.toSameOutcome⟩

/-- A request that is **not within the limit** is refused for its length, whatever it brings. -/
theorem handle_of_not_withinLimit (service : Service) (now : Second) (store : Revocation.Store)
    (fresh : Fresh) {request : Request} (h : ¬WithinLimit request.headers) :
    SameOutcome request.method (service.handle now store fresh request)
      (.ofResponse tooLarge) :=
  (handle_dressed_of_not_withinLimit service now store fresh h).toSameOutcome

/-! ### Without a gate -/

/-- What the routes below the common path answer **without a gate** in front: 401 where there is a
handler, and otherwise that there is no such method or no such path. -/
theorem status_handleBare_eq (service : Service) (request : Request) :
    (service.handleBare request).status =
      match Route.ofInnerPath? request.path with
      | none => 404
      | some place => if place.allows request.method = true then 401 else 405 := by
  rw [handleBare]
  rw [(sent_same _ _).1, (withAllow_same _ _ _).1]
  cases Route.ofInnerPath? request.path with
  | none => rfl
  | some place =>
      dsimp only
      split
      · exact status_response _
      · rfl

/-- No answer of the routes without a gate is a success. -/
theorem status_handleBare (service : Service) (request : Request) :
    300 ≤ (service.handleBare request).status := by
  rw [status_handleBare_eq]
  split
  · decide
  · split <;> decide

end Service

end BearerGate
