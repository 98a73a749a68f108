import BearerGate.Proofs.Service.Layers

/-!
# What Becomes of a Request

A request has one of four outcomes. It is rejected, if it gets to the gate and that turns it away.
It mints a token, if it is one on the token route, from a caller who may ask, in due form, and the
issuer makes the token; if all of that is so but the issuer has a problem, the token is left unmade.
Any other request is answered in silence: there is no line in the log, no token, and no fault of the
service.

## Main results

* `Service.RejectedFor.dressed`, `Service.Mints.dressed`, `Service.Unmade.dressed`: the answers to
  the first three.
* `Service.four_outcomes`: there is no other outcome than the four.
-/

namespace BearerGate

open Http (Request)

namespace Service

variable {service : Service} {now : Second} {store : Revocation.Store} {fresh : Fresh}
  {request : Request} {caller : Caller} {issuer : Issuer} {asked : TokenRequest}
  {grants : List String}

/-! ### Requests that are rejected -/

/-- A request is **rejected for a failure** if it is within the limit, so that the gate sees it, and
its passage ends in that failure. -/
structure RejectedFor (service : Service) (now : Second) (store : Revocation.Store) (fresh : Fresh)
    (request : Request) (failure : GateFailure) : Prop where
  within : WithinLimit request.headers
  verdict : (service.passage now store fresh request).verdict = .error failure

/-- A rejected request is answered with the **refusal of the failure**, dressed, and the failure is
logged. -/
theorem RejectedFor.dressed {failure : GateFailure}
    (h : service.RejectedFor now store fresh request failure) :
    Dressed request (service.handle now store fresh request)
      ⟨(Refusal.ofFailure service.gate.scheme failure).response,
        [.ofFailure request.method request.path failure],
        (service.passage now store fresh request).lookups⟩ :=
  handle_dressed_of_error h.within h.verdict

/-- A rejected request is answered with **401 or 503**. -/
theorem RejectedFor.status {failure : GateFailure}
    (h : service.RejectedFor now store fresh request failure) :
    (service.handle now store fresh request).response.status ∈ [401, 503] := by
  rw [h.dressed.status, status_response, status_ofFailure]
  cases failure.outward <;> decide

/-! ### Requests that mint a token -/

/-- A request **mints a token** after a verdict of the gate: it is one on the token route, within
the limit; the verdict lets it through as a caller; and for that caller it earns the token. -/
structure Mints (service : Service) (now : Second) (fresh : Fresh)
    (verdict : Except GateFailure Caller) (request : Request) (caller : Caller) (issuer : Issuer)
    (asked : TokenRequest) (grants : List String) (token : String) : Prop
    extends Earns service now fresh caller request.headers
      ⟨request.body, some (allowance request.headers)⟩ issuer asked grants token where
  method : request.method = "POST"
  path : request.path = "/api/v1/tokens"
  within : WithinLimit request.headers
  admitted : verdict = .ok caller

/-- The answer to a request that mints a token is the **token**, dressed, and the token is
logged. -/
theorem Mints.dressed {token : String}
    (h : Mints service now fresh (service.passage now store fresh request).verdict request caller
      issuer asked grants token) :
    Dressed request (service.handle now store fresh request)
      ⟨issued service.gate.scheme token issuer.lifetime, [.tokenIssued asked.id caller.name],
        (service.passage now store fresh request).lookups⟩ := by
  have hdressed := handle_dressed_of_ok h.within h.admitted
  rw [route_tokens _ _ _ _ h.method h.path, h.toEarns.answer] at hdressed
  exact hdressed

/-- A request that mints a token is answered with **201**. -/
theorem Mints.status {token : String}
    (h : Mints service now fresh (service.passage now store fresh request).verdict request caller
      issuer asked grants token) : (service.handle now store fresh request).response.status = 201 :=
  h.dressed.status

/-- A request **asks for a token in due form**: it is one on the token route and within the limit,
its body is JSON and no longer than may be read of it, and the request in it is in order and names
roles that are known. -/
structure AsksInForm (request : Request) (asked : TokenRequest) (grants : List String) : Prop where
  method : request.method = "POST"
  path : request.path = "/api/v1/tokens"
  within : WithinLimit request.headers
  json : saysJson request.headers = true
  fits : request.body.length ≤ allowance request.headers
  read : TokenRequest.read request.body = .ok asked
  inOrder : asked.complaint? = none
  known : asked.grantNames = .ok grants

/-- The body of a request in due form is read as the request for a token. -/
theorem AsksInForm.readBody (h : AsksInForm request asked grants) :
    Service.readBody request.headers ⟨request.body, some (allowance request.headers)⟩ =
      .ok asked := by
  refine readBody_eq_ok_iff.mpr ⟨h.json, fun limit hlimit => ?_, h.read⟩
  cases Option.mem_def.mp hlimit
  exact h.fits

/-- A request in due form from whoever may ask **mints the token** that the issuer makes for it. -/
theorem AsksInForm.mints (h : AsksInForm request asked grants)
    (hmay : MayAsk service caller issuer) {token : String}
    (hmade : issuer.issue now fresh.draw (identityOf asked grants) = .ok token)
    {verdict : Except GateFailure Caller} (hverdict : verdict = .ok caller) :
    Mints service now fresh verdict request caller issuer asked grants token where
  toMayAsk := hmay
  json := h.json
  fits limit hlimit := by
    cases Option.mem_def.mp hlimit
    exact h.fits
  read := h.read
  inOrder := h.inOrder
  known := h.known
  made := hmade
  method := h.method
  path := h.path
  within := h.within
  admitted := hverdict

/-! ### Requests whose token is left unmade -/

/-- A request whose token is **left unmade**: it asks for one in due form, the gate lets it through
as a caller who may ask, and the issuer has a problem with it. -/
structure Unmade (service : Service) (now : Second) (fresh : Fresh)
    (verdict : Except GateFailure Caller) (request : Request) (caller : Caller) (issuer : Issuer)
    (asked : TokenRequest) (grants : List String) (problem : IssuingProblem) : Prop
    extends AsksInForm request asked grants, MayAsk service caller issuer where
  admitted : verdict = .ok caller
  failed : issuer.issue now fresh.draw (identityOf asked grants) = .error problem

/-- The answer to a request whose token is left unmade is that of a **fault**, dressed, and the
problem is logged. -/
theorem Unmade.dressed {problem : IssuingProblem}
    (h : Unmade service now fresh (service.passage now store fresh request).verdict request caller
      issuer asked grants problem) :
    Dressed request (service.handle now store fresh request)
      ⟨Refusal.internal.response, [.issuanceFailed problem],
        (service.passage now store fresh request).lookups⟩ := by
  have hdressed := handle_dressed_of_ok h.within h.admitted
  rw [route_tokens _ _ _ _ h.method h.path, h.toMayAsk.issueToken_of_not_made
    h.toAsksInForm.readBody h.inOrder h.known h.failed] at hdressed
  exact hdressed

/-- A request whose token is left unmade is answered with **500**. -/
theorem Unmade.status {problem : IssuingProblem}
    (h : Unmade service now fresh (service.passage now store fresh request).verdict request caller
      issuer asked grants problem) :
    (service.handle now store fresh request).response.status = 500 :=
  h.dressed.status.trans (status_response .internal)

/-! ### All requests -/

/-- An exchange **in silence**: nothing is logged, and the answer is neither that a token was issued
nor that the service has a fault. -/
structure Exchange.IsSilent (e : Exchange) : Prop where
  events : e.events = []
  notCreated : e.response.status ≠ 201
  notFailed : e.response.status ≠ 500

/-- An answer is as silent in its dress. -/
theorem Dressed.isSilent {outer inner : Exchange} (h : Dressed request outer inner)
    (hinner : inner.IsSilent) : outer.IsSilent where
  events := h.events.trans hinner.events
  notCreated := h.status ▸ hinner.notCreated
  notFailed := h.status ▸ hinner.notFailed

/-- Any refusal but that of a fault is silent. -/
theorem isSilent_refuse {r : Refusal} (h : r ≠ .internal) (lookups : List String) :
    ((refuse r).after lookups).IsSilent where
  events := rfl
  notCreated := by
    have hle := le_status r
    rw [Answer.after, refuse, status_response]
    omega
  notFailed := by
    rw [Answer.after, refuse, status_response]
    cases r with
    | internal => exact absurd rfl h
    | _ => simp [Refusal.status]

/-- Whatever is answered to a caller anywhere but on the token route is silent. -/
theorem isSilent_of_not_tokens (h : ¬(request.method = "POST" ∧ request.path = "/api/v1/tokens"))
    (limit : Nat) (lookups : List String) :
    ((service.route now fresh caller request limit).after lookups).IsSilent := by
  obtain ⟨hstatus, hevents⟩ := @route_of_not_tokens service now fresh request caller limit h
  refine ⟨hevents, fun hcreated => ?_, fun hfailed => ?_⟩
  · rw [Answer.after] at hcreated
    rw [hcreated] at hstatus
    exact absurd hstatus (by decide)
  · rw [Answer.after] at hfailed
    rw [hfailed] at hstatus
    exact absurd hstatus (by decide)

/-- On the token route a caller **mints a token, or it is left unmade, or the answer is silent**. -/
theorem mints_or_unmade_or_silent (hlimit : WithinLimit request.headers)
    (hmethod : request.method = "POST") (hpath : request.path = "/api/v1/tokens") (caller : Caller)
    (lookups : List String) :
    (∃ issuer asked grants token,
        Mints service now fresh (.ok caller) request caller issuer asked grants token) ∨
      (∃ issuer asked grants problem,
        Unmade service now fresh (.ok caller) request caller issuer asked grants problem) ∨
      ((service.route now fresh caller request (allowance request.headers)).after
        lookups).IsSilent := by
  rw [route_tokens _ _ _ _ hmethod hpath]
  rcases service.stopsShort_or_earns now fresh caller request.headers
    ⟨request.body, some (allowance request.headers)⟩ with ⟨r, hstops⟩ | hearns
  · refine Or.inr ?_
    by_cases hr : r = .internal
    · subst hr
      obtain ⟨issuer, asked, grants, problem, hmay, hread, hcomplaint, hgrants, hissue⟩ :=
        hstops.not_made
      obtain ⟨hjson, hfits, hasked⟩ := readBody_eq_ok_iff.mp hread
      have hform : AsksInForm request asked grants :=
        ⟨hmethod, hpath, hlimit, hjson, hfits _ rfl, hasked, hcomplaint, hgrants⟩
      exact Or.inl ⟨issuer, asked, grants, problem, hform, hmay, rfl, hissue⟩
    · rw [hstops.eq_refuse hr]
      exact Or.inr (isSilent_refuse hr lookups)
  · obtain ⟨issuer, asked, grants, token, hearns⟩ := hearns
    exact Or.inl ⟨issuer, asked, grants, token, hearns, hmethod, hpath, hlimit, rfl⟩

/-- Every request is **rejected, or mints a token, or its token is left unmade, or it is answered in
silence**. -/
theorem four_outcomes (service : Service) (now : Second) (store : Revocation.Store) (fresh : Fresh)
    (request : Request) :
    (∃ failure, service.RejectedFor now store fresh request failure) ∨
      (∃ caller issuer asked grants token,
        Mints service now fresh (service.passage now store fresh request).verdict request caller
          issuer asked grants token) ∨
      (∃ caller issuer asked grants problem,
        Unmade service now fresh (service.passage now store fresh request).verdict request caller
          issuer asked grants problem) ∨
      (service.handle now store fresh request).IsSilent := by
  by_cases hlimit : WithinLimit request.headers
  · cases hverdict : (service.passage now store fresh request).verdict with
    | error failure => exact Or.inl ⟨failure, hlimit, hverdict⟩
    | ok caller =>
        have hdressed := handle_dressed_of_ok hlimit hverdict
        refine Or.inr ?_
        by_cases hroute : request.method = "POST" ∧ request.path = "/api/v1/tokens"
        · rcases mints_or_unmade_or_silent hlimit hroute.1 hroute.2 caller _ with
            hmints | hunmade | hsilent
          · exact Or.inl ⟨caller, hmints⟩
          · exact Or.inr (Or.inl ⟨caller, hunmade⟩)
          · exact Or.inr (Or.inr (hdressed.isSilent hsilent))
        · exact Or.inr (Or.inr (hdressed.isSilent (isSilent_of_not_tokens hroute _ _)))
  · have hdressed := handle_dressed_of_not_withinLimit service now store fresh hlimit
    exact Or.inr (Or.inr (Or.inr (hdressed.isSilent ⟨rfl, by decide, by decide⟩)))

/-- A request is **answered with 201 exactly when it mints a token**. -/
theorem created_iff_mints :
    (service.handle now store fresh request).response.status = 201 ↔
      ∃ caller issuer asked grants token,
        Mints service now fresh (service.passage now store fresh request).verdict request caller
          issuer asked grants token := by
  constructor
  · intro hcreated
    rcases service.four_outcomes now store fresh request with
      ⟨failure, hrejected⟩ | hmints | ⟨_, _, _, _, _, hunmade⟩ | hsilent
    · have hstatus := hrejected.status
      rw [hcreated] at hstatus
      exact absurd hstatus (by decide)
    · exact hmints
    · exact absurd (hcreated.symm.trans hunmade.status) (by decide)
    · exact absurd hcreated hsilent.notCreated
  · rintro ⟨_, _, _, _, _, hmints⟩
    exact hmints.status

end Service

end BearerGate
