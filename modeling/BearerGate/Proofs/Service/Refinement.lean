import BearerGate.Proofs.Service.Layers
import BearerGate.Proofs.Service.Revocation
import BearerGate.Proofs.Service.RoundTrip

/-!
# The Pipeline Refines the Gate

Who a request comes from is decided by the gate alone, for every path and every method, and what is
behind the gate is served to just that caller. Seen from outside the pipeline is the gate with a
limit on the body before it and three routes behind it: a request that announces too much never
gets to the gate; a request that the gate turns away is answered with the refusal of its failure,
whether there is a route for it or not; and any other is answered by the route, as the caller that
the gate names. So no handler runs, and no route is said to be missing, for anyone else.

One thing shows through. A response to a known path with a method that this does not have names
the methods that it has, and so does the refusal of a request that the gate turned away.

## Main results

* `Service.served_of_dressed`: what a caller is served.
* `Service.handle_refines_gate`: every answer is that of the limit, of the gate, or of the route.
-/

namespace BearerGate

open Json
open Http (Request)

namespace Service

variable {service : Service} {now : Second} {store : Revocation.Store} {fresh : Fresh}
  {request : Request} {caller : Caller} {limit : Nat}

/-! ### Callers -/

/-- A caller **is served** what the route has for that caller: an answer of the health route, the
description of the caller on the profile route, what comes of a request for a token on the token
route, and elsewhere that there is no such method or no such path. -/
structure Served (service : Service) (now : Second) (fresh : Fresh) (caller : Caller)
    (request : Request) (outer : Exchange) : Prop where
  health : request.path = "/health" → request.method = "GET" ∨ request.method = "HEAD" →
    outer.response.status = 200
  profile : request.path = "/api/v1/me" → request.method = "GET" ∨ request.method = "HEAD" →
    outer.response.status = 200 ∧
      (request.method = "GET" →
        outer.response.body = (describe caller).render ∧
        HasText (Utf8.encode outer.response.body) "name" caller.name ∧
        (∃ names, HasTexts (Utf8.encode outer.response.body) "authorities" names ∧
          names.Pairwise (· < ·) ∧ ∀ name, name ∈ names ↔ name ∈ caller.authorities) ∧
        HasBool (Utf8.encode outer.response.body) "anonymous" caller.isAnonymous)
  tokens : request.path = "/api/v1/tokens" → request.method = "POST" →
    Dressed request outer ((service.issueToken now fresh caller request.headers
      ⟨request.body, some (allowance request.headers)⟩).after outer.lookups)
  foreign : IsForeign request → outer.response.status = 405
  unknown : request.path ≠ "/health" → request.path ≠ "/api/v1/me" →
    request.path ≠ "/api/v1/tokens" → outer.response.status = 404

/-- The answer of the route, dressed, is what the caller **is served**. -/
theorem served_of_dressed {outer : Exchange} {lookups : List String}
    (h : Dressed request outer
      ((service.route now fresh caller request (allowance request.headers)).after lookups)) :
    Served service now fresh caller request outer where
  health hpath hmethod := by
    rw [route_health hpath hmethod] at h
    exact h.status
  profile hpath hmethod := by
    rw [route_profile hpath hmethod] at h
    refine ⟨h.status, fun hget => ?_⟩
    obtain ⟨hname, hauthorities, hanonymous⟩ := hasMembers_describe caller
    have hbody : outer.response.body = (describe caller).render :=
      h.body (by rw [hget]; decide)
    rw [hbody]
    exact ⟨rfl, hname, ⟨_, hauthorities, NameSet.increasing _, fun name => Iff.rfl⟩, hanonymous⟩
  tokens hpath hmethod := by
    have hlookups : outer.lookups = lookups := h.lookups
    rw [route_tokens service now fresh caller hmethod hpath] at h
    rw [hlookups]
    exact h
  foreign hforeign := by
    rw [route_of_foreign hforeign] at h
    exact h.status
  unknown hhealth hprofile htokens := by
    rw [route_of_unknown (Route.ofPath?_eq_none_iff.mpr ⟨hhealth, hprofile, htokens⟩)] at h
    exact h.status

/-! ### Refinement -/

/-- An exchange **refines a passage** through the gate: a store was asked for what the gate asked
for, a failure is answered with its refusal and logged, and a caller is served. The refusal comes
as it is, but for the number, unless the request asks a known path with a foreign method. -/
structure Refines (service : Service) (now : Second) (fresh : Fresh) (request : Request)
    (passage : Gate.Passage) (outer : Exchange) : Prop where
  lookups : outer.lookups = passage.lookups
  refused : ∀ failure, passage.verdict = .error failure →
    Dressed request outer ⟨(Refusal.ofFailure service.gate.scheme failure).response,
      [.ofFailure request.method request.path failure], passage.lookups⟩
  plain : ∀ failure, passage.verdict = .error failure →
    ((outer.response.headers.filter fun field => field.1 ≠ "x-request-id") =
        (Refusal.ofFailure service.gate.scheme failure).response.headers ↔
      ¬IsForeign request)
  served : ∀ caller, passage.verdict = .ok caller → Served service now fresh caller request outer

/-- Without the number, a dress adds nothing to the headers but the methods of the path. -/
theorem Dressed.filter_headers {outer inner : Exchange} (h : Dressed request outer inner)
    (hinner : ∀ field ∈ inner.response.headers, field.1 ≠ "x-request-id") :
    (outer.response.headers.filter fun field => field.1 ≠ "x-request-id") =
      inner.response.headers ++ allowField request.method request.path := by
  obtain ⟨id, hheaders⟩ := h.headers
  have hkept : ∀ field ∈ inner.response.headers ++ allowField request.method request.path,
      decide (field.1 ≠ "x-request-id") = true := by
    intro field hfield
    rcases List.mem_append.mp hfield with hmem | hmem
    · exact decide_eq_true (hinner field hmem)
    · rw [name_of_mem_allowField hmem]
      decide
  rw [hheaders, List.filter_append, List.filter_eq_self.mpr hkept]
  simp

/-- A refusal has the type of its body, and perhaps a challenge. -/
theorem name_of_mem_refusal {r : Refusal} {field : String × Bytes}
    (h : field ∈ r.response.headers) :
    field.1 = "content-type" ∨ field.1 = "www-authenticate" := by
  unfold Refusal.response at h
  cases hchallenge : r.challenge? with
  | none =>
      simp only [hchallenge, Http.Response.json, List.mem_singleton] at h
      rw [h]
      exact Or.inl rfl
  | some challenge =>
      simp only [hchallenge, Http.Response.withHeader, Http.Response.json, List.mem_append,
        List.mem_singleton] at h
      rcases h with rfl | rfl
      · exact Or.inl rfl
      · exact Or.inr rfl

/-- No refusal has a number of its own. -/
theorem ne_requestIdName_of_mem_refusal {r : Refusal} {field : String × Bytes}
    (h : field ∈ r.response.headers) : field.1 ≠ "x-request-id" := by
  rcases name_of_mem_refusal h with hname | hname <;> rw [hname] <;> decide

/-- A request within the limit, as it is answered, **refines** its passage through the gate. -/
theorem refines_of_withinLimit (hname : service.gate.headerName ≠ requestIdName) (now : Second)
    (store : Revocation.Store) (fresh : Fresh) (hlimit : WithinLimit request.headers) :
    Refines service now fresh request (service.gate.pass now store (headOf request))
      (service.handle now store fresh request) := by
  rw [← passage_eq hname now store fresh request]
  refine ⟨(handle_dressed_of_withinLimit service now store fresh hlimit).lookups,
    fun failure => handle_dressed_of_error hlimit, fun failure hverdict => ?_,
    fun caller hverdict => served_of_dressed (handle_dressed_of_ok hlimit hverdict)⟩
  rw [(handle_dressed_of_error hlimit hverdict).filter_headers
    fun field => ne_requestIdName_of_mem_refusal, List.append_right_eq_self, allowField_eq_nil_iff]

/-- **The pipeline refines the gate**, for any service that does not look for credentials where the
number of a request is. A request that announces more than 65536 bytes is answered with 413, and
neither the gate nor a store is asked. Any other answer refines the passage of the request through
the gate: a store was asked for what the gate asks for; if the gate turns the request away, the
answer is the refusal of that failure, on any path and to any method, and if the gate lets it
through as a caller, that caller is served. So whatever is answered but 413, 401 and 503 is answered
to the caller whom the gate names. -/
theorem handle_refines_gate (hname : service.gate.headerName ≠ requestIdName) (now : Second)
    (store : Revocation.Store) (fresh : Fresh) (request : Request) :
    (∀ length, announcedLength request.headers = some length → 65536 < length →
      (service.handle now store fresh request).response.status = 413 ∧
      (service.handle now store fresh request).events = [] ∧
      (service.handle now store fresh request).lookups = []) ∧
    ((∀ length, announcedLength request.headers = some length → length ≤ 65536) →
      Refines service now fresh request (service.gate.pass now store (headOf request))
        (service.handle now store fresh request)) ∧
    ((service.handle now store fresh request).response.status ∉ [413, 401, 503] →
      ∃ caller, (service.gate.pass now store (headOf request)).verdict = .ok caller ∧
        Served service now fresh caller request (service.handle now store fresh request)) := by
  have hrefines := @refines_of_withinLimit service request hname now store fresh
  have htooLong : ¬WithinLimit request.headers →
      (service.handle now store fresh request).response.status = 413 ∧
      (service.handle now store fresh request).events = [] ∧
      (service.handle now store fresh request).lookups = [] := by
    intro hlimit
    have hdressed := handle_dressed_of_not_withinLimit service now store fresh hlimit
    exact ⟨hdressed.status, hdressed.events, hdressed.lookups⟩
  refine ⟨fun length hannounced hlength => htooLong fun hlimit => ?_, hrefines, fun hstatus => ?_⟩
  · exact absurd (hlimit length hannounced) (Nat.not_le.mpr hlength)
  · by_cases hlimit : WithinLimit request.headers
    · cases hverdict : (service.gate.pass now store (headOf request)).verdict with
      | ok caller => exact ⟨caller, rfl, (hrefines hlimit).served caller hverdict⟩
      | error failure =>
          rw [((hrefines hlimit).refused failure hverdict).status, status_response,
            status_ofFailure] at hstatus
          cases houtward : failure.outward <;> simp [houtward] at hstatus
    · simp [(htooLong hlimit).1] at hstatus

/-- The sample service serves the profile of number 7 to whoever brings a token of that number. -/
theorem handle_refines_gate_ada :
    ∃ get : Request, (sampleStoredService.handle 0 .empty sampleFresh get).response.status = 200 ∧
      HasText (Utf8.encode (sampleStoredService.handle 0 .empty sampleFresh get).response.body)
        "name" "ada" := by
  obtain ⟨raw, hvisible, hverify⟩ := exists_token_of_seven
  have hname : sampleStoredService.gate.headerName ≠ requestIdName := by decide
  have hbrings : BringsToken sampleStoredService.gate.headerName sampleStoredService.gate.scheme
      (headOf ⟨"GET", "/api/v1/me", sampleHeaders raw, []⟩).headers raw :=
    (bringsToken_sample hvisible).1
  have hrevoked : sampleStoredService.gate.screen.source.isRevoked .empty seven.id = .ok false :=
    rfl
  have hverdict := Gate.verdict_eq_ok_iff.mpr
    (Or.inr ⟨raw, seven, hbrings, hverify, hrevoked, rfl⟩)
  have hrefines := (handle_refines_gate hname 0 .empty sampleFresh
    ⟨"GET", "/api/v1/me", sampleHeaders raw, []⟩).2.1 (withinLimit_sampleHeaders raw)
  obtain ⟨hstatus, hbody⟩ := (hrefines.served _ hverdict).profile rfl (Or.inl rfl)
  exact ⟨_, hstatus, (hbody rfl).2.1⟩

/-- Whoever asks to delete the health route without credentials is told which methods it has: it is
**not so that the refusal of a failure is the same on every path and to every method**. -/
theorem not_every_refusal_plain :
    assemble sampleSettings (some (.fixed [])) = .ok (sampleService (.fixed [])) ∧
      sampleSettings.headerName ≠ "x-request-id" ∧
      ¬∀ (request : Request) (failure : GateFailure), WithinLimit request.headers →
        ((sampleService (.fixed [])).gate.pass 0 .empty (headOf request)).verdict =
          .error failure →
        (((sampleService (.fixed [])).handle 0 .empty sampleFresh request).response.headers.filter
          fun field => field.1 ≠ "x-request-id") =
            (Refusal.ofFailure sampleSettings.scheme failure).response.headers := by
  have hname : (sampleService (.fixed [])).gate.headerName ≠ requestIdName := by decide
  have hlimit : WithinLimit (⟨"DELETE", "/health", [], []⟩ : Request).headers := by
    intro length hlength
    cases hlength
  have hverdict : ((sampleService (.fixed [])).gate.pass 0 .empty
      (headOf ⟨"DELETE", "/health", [], []⟩)).verdict = .error .missingCredentials := by
    have hmissing : (sampleService (.fixed [])).gate.withoutCredentials
        ⟨"DELETE", "/health", []⟩ = .error .missingCredentials := by decide +kernel
    rw [Gate.pass_of_lacksCredentials (Or.inl (by simp [headOf]))]
    exact hmissing
  refine ⟨assemble_sampleSettings rfl, by decide, fun hclaim => ?_⟩
  have hplain := (refines_of_withinLimit hname 0 .empty sampleFresh hlimit).plain _ hverdict
  exact hplain.mp (hclaim _ _ hlimit hverdict) ⟨.health, rfl, by decide⟩

end Service

end BearerGate
