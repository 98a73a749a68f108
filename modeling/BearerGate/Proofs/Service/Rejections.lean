import BearerGate.Proofs.Service.Layers
import BearerGate.Proofs.Service.Revocation

/-!
# Rejections Look Alike

What a client is told when the gate turns a request away is a function of three things: the method,
the path, and the class of the failure. Neither the cause, nor the time, the store, the other
headers and the body leave a trace in the response. So this is a statement about two runs: whoever
sends two requests to one place, and is turned away in one class, cannot tell from the responses
what was different. There are two classes only, and the second one is that of a token in order
whose number could not be looked up.

## Main results

* `Gate.unavailable_iff`: which passages end in the second class.
* `Service.TurnedAway.dressed`: the answer to a request that the gate turns away.
* `Service.rejections_look_alike`: two such answers, and what each of them says.
-/

namespace BearerGate

open Http (Request)

/-! ### Classes -/

/-- A source gives no answer exactly when it is a store and that is down. -/
theorem Revocation.Source.isRevoked_eq_error_iff {source : Source} {store : Store} {id : Int64}
    {fault : Fault} :
    source.isRevoked store id = .error fault ↔
      ∃ backend space outage, source = .stored backend space ∧ store.outage = some outage ∧
        fault = backend.fault outage := by
  cases source with
  | failClosed => simp [isRevoked]
  | fixed ids => simp [isRevoked]
  | stored backend space =>
      rw [isRevoked]
      cases store.outage with
      | none => simp
      | some outage => simp [eq_comm]

/-- A token is screened without a result exactly when it verifies and its number cannot be looked
up. -/
theorem Screen.check_eq_unavailable_iff {screen : Screen} {now : Second} {store : Revocation.Store}
    {raw : String} {fault : Revocation.Fault} :
    screen.check now store raw = .error (.unavailable fault) ↔
      ∃ who, screen.verifier.verify now raw = .ok who ∧
        screen.source.isRevoked store who.id = .error fault := by
  rw [check, run]
  cases hverify : screen.verifier.verify now raw with
  | error problem => simp
  | ok who =>
      simp only [Except.ok.injEq, exists_eq_left']
      constructor
      · intro h
        unfold judge at h
        split at h
        · cases h
        · cases h
        · next hfault =>
          cases h
          exact hfault
      · intro h
        rw [h]
        rfl

/-- A request without a token that is turned away **fails on the side of the client**. -/
theorem Gate.outward_of_not_bringsToken {gate : Gate} {now : Second} {store : Revocation.Store}
    {head : RequestHead} {failure : GateFailure}
    (hbrings : ∀ raw, ¬BringsToken gate.headerName gate.scheme head.headers raw)
    (h : (gate.pass now store head).verdict = .error failure) :
    failure.outward = .unauthenticated := by
  by_cases hlacks : LacksCredentials gate.headerName head.headers
  · rw [pass_of_lacksCredentials hlacks, withoutCredentials] at h
    split at h
    · cases h
    · cases h
      rfl
  · obtain ⟨other, hother, hclass, -⟩ := pass_of_neither now store hlacks hbrings
    rw [hother, Except.error.injEq] at h
    rw [← h, hclass]

/-- A token that is judged to **fail on the side of the service** is one that was screened without a
result. -/
theorem Gate.eq_unavailable_of_judge {raw : String} {outcome : Except Rejection Identity}
    {failure : GateFailure} (h : judge raw outcome = .error failure)
    (houtward : failure.outward = .unavailable) :
    ∃ fault, outcome = .error (.unavailable fault) := by
  cases outcome with
  | ok who => cases h
  | error cause =>
      cases h
      cases cause with
      | token problem => cases houtward
      | revoked id => cases houtward
      | unavailable fault => exact ⟨fault, rfl⟩

/-- A passage ends in a failure on the side of the service exactly when the request **brings a
token that verifies, and the store is down**. -/
theorem Gate.unavailable_iff {gate : Gate} {now : Second} {store : Revocation.Store}
    {head : RequestHead} :
    (∃ failure, (gate.pass now store head).verdict = .error failure ∧
        failure.outward = .unavailable) ↔
      ∃ raw who backend space outage,
        BringsToken gate.headerName gate.scheme head.headers raw ∧
        gate.screen.verifier.verify now raw = .ok who ∧
        gate.screen.source = .stored backend space ∧ store.outage = some outage := by
  constructor
  · rintro ⟨failure, hverdict, houtward⟩
    by_cases hbrings : ∃ raw, BringsToken gate.headerName gate.scheme head.headers raw
    · obtain ⟨raw, hbrings⟩ := hbrings
      rw [verdict_of_bringsToken hbrings] at hverdict
      obtain ⟨fault, hcheck⟩ := eq_unavailable_of_judge hverdict houtward
      obtain ⟨who, hverify, hfault⟩ := Screen.check_eq_unavailable_iff.mp hcheck
      obtain ⟨backend, space, outage, hsource, hdown, -⟩ :=
        Revocation.Source.isRevoked_eq_error_iff.mp hfault
      exact ⟨raw, who, backend, space, outage, hbrings, hverify, hsource, hdown⟩
    · have hclass := outward_of_not_bringsToken (fun raw hraw => hbrings ⟨raw, hraw⟩) hverdict
      rw [hclass] at houtward
      cases houtward
  · rintro ⟨raw, who, backend, space, outage, hbrings, hverify, hsource, hdown⟩
    have hfault : gate.screen.source.isRevoked store who.id = .error (backend.fault outage) :=
      Revocation.Source.isRevoked_eq_error_iff.mpr ⟨backend, space, outage, hsource, hdown, rfl⟩
    refine ⟨.authentication (.unavailable (backend.fault outage)) (fingerprint raw), ?_, rfl⟩
    rw [verdict_of_bringsToken hbrings, Screen.check_eq_unavailable_iff.mpr ⟨who, hverify, hfault⟩]
    rfl

/-! ### Responses -/

/-- All values of a header. -/
def Http.Headers.valuesOf (headers : Http.Headers) (name : String) : List Bytes :=
  (headers.filter fun field => field.1 = name).map (·.2)

namespace Service

variable {service : Service} {world : World} {fresh : Fresh} {request : Request}

/-- Responses **look alike**: they have the same status, the same body, and, but for the number,
the same headers. -/
structure LookAlike (response other : Http.Response) : Prop where
  status : response.status = other.status
  body : response.body = other.body
  headers : (response.headers.filter fun field => field.1 ≠ "x-request-id") =
    other.headers.filter fun field => field.1 ≠ "x-request-id"

/-- The same response in the dress of requests to one place looks alike. -/
theorem Dressed.lookAlike {other : Request} {outer outer' inner inner' : Exchange}
    (h : Dressed request outer inner) (h' : Dressed other outer' inner')
    (hmethod : request.method = other.method) (hpath : request.path = other.path)
    (hinner : inner.response = inner'.response) : LookAlike outer.response outer'.response where
  status := by rw [h.status, h'.status, hinner]
  body := by
    by_cases hhead : other.method = "HEAD"
    · rw [h.empty (hmethod.trans hhead), h'.empty hhead]
    · have hhead' : request.method ≠ "HEAD" := fun heq => hhead (hmethod ▸ heq)
      rw [h.body hhead', h'.body hhead, hinner]
  headers := by
    obtain ⟨id, hheaders⟩ := h.headers
    obtain ⟨id', hheaders'⟩ := h'.headers
    rw [hheaders, hheaders', hinner, hmethod, hpath]
    simp

/-- A dress has no challenge. -/
theorem Dressed.challenges {outer inner : Exchange} (h : Dressed request outer inner) :
    outer.response.headers.valuesOf "www-authenticate" =
      inner.response.headers.valuesOf "www-authenticate" := by
  obtain ⟨id, hheaders⟩ := h.headers
  have hallow : ((allowField request.method request.path).filter fun field =>
      field.1 = "www-authenticate") = [] := by
    rw [List.filter_eq_nil_iff]
    intro field hfield
    rw [name_of_mem_allowField hfield]
    decide
  rw [hheaders, Http.Headers.valuesOf, List.filter_append, List.filter_append, hallow]
  simp [Http.Headers.valuesOf]

/-- The challenges of a refusal. -/
theorem challenges_response (r : Refusal) :
    r.response.headers.valuesOf "www-authenticate" = r.challenge?.toList := by
  unfold Refusal.response
  cases r.challenge? <;> rfl

/-- A refusal in a dress has its status, its challenge, and to anything but HEAD its body. -/
theorem Dressed.refuses {outer inner : Exchange} {r : Refusal} (h : Dressed request outer inner)
    (hinner : inner.response = r.response) :
    outer.response.status = r.status ∧
      outer.response.headers.valuesOf "www-authenticate" = r.challenge?.toList ∧
      (request.method ≠ "HEAD" → outer.response.body = r.body.render) := by
  refine ⟨?_, ?_, fun hhead => ?_⟩
  · rw [h.status, hinner, status_response]
  · rw [h.challenges, hinner, challenges_response]
  · rw [h.body hhead, hinner, body_response]

/-! ### Requests that are turned away -/

/-- The response to a request in a world. -/
def responseTo (service : Service) (world : World) (fresh : Fresh) (request : Request) :
    Http.Response :=
  (service.handle world.now world.store fresh request).response

/-- A request is **turned away in a class**: it is within the limit, so that the gate sees it, and
its passage ends in a failure of that class. -/
structure TurnedAway (service : Service) (world : World) (fresh : Fresh) (request : Request)
    (kind : FailureClass) : Prop where
  within : WithinLimit request.headers
  failure : ∃ failure, (service.passage world.now world.store fresh request).verdict =
    .error failure ∧ failure.outward = kind

/-- A request that the gate turns away is answered with the **refusal of its failure**, dressed. -/
theorem TurnedAway.dressed {kind : FailureClass}
    (h : service.TurnedAway world fresh request kind) :
    ∃ failure inner, failure.outward = kind ∧
      inner.response = (Refusal.ofFailure service.gate.scheme failure).response ∧
      Dressed request (service.handle world.now world.store fresh request) inner := by
  obtain ⟨failure, hverdict, hkind⟩ := h.failure
  exact ⟨failure, _, hkind, rfl, handle_dressed_of_error h.within hverdict⟩

/-- A request with a token that a service turns away is turned away in the class of the cause. -/
theorem TurnsAway.turnedAway {raw : String} {cause : Rejection} {status : Nat}
    (h : service.TurnsAway world raw cause status) (fresh : Fresh)
    (hbrings : BringsToken service.gate.headerName service.gate.scheme request.headers raw)
    (hlimit : WithinLimit request.headers) :
    service.TurnedAway world fresh request
      (GateFailure.authentication cause (Gate.fingerprint raw)).outward where
  within := hlimit
  failure := by
    have hinner := (sameButNumber_numbered fresh request).bringsToken hbrings
    exact ⟨_, h.gate (headOf (numbered fresh request).1) hinner, rfl⟩

/-- A request that the gate sees is turned away in the **second class** exactly when it brings a
token that verifies and the store is down. -/
theorem turnedAway_unavailable_iff (h : WithinLimit request.headers) :
    service.TurnedAway world fresh request .unavailable ↔
      ∃ raw who backend space outage,
        BringsToken service.gate.headerName service.gate.scheme
          (numbered fresh request).1.headers raw ∧
        service.gate.screen.verifier.verify world.now raw = .ok who ∧
        service.gate.screen.source = .stored backend space ∧
        world.store.outage = some outage := by
  have hgate := @Gate.unavailable_iff service.gate world.now world.store
    (headOf (numbered fresh request).1)
  exact ⟨fun haway => hgate.mp haway.failure, fun hbrings => ⟨h, hgate.mpr hbrings⟩⟩

/-- **Rejections look alike.** Take two requests to one service, at any times and over any stores,
with any headers and bodies. If they have one method and one path, and the gate turns both away in
one class, their responses have the same status, the same body, and, but for the number, the same
headers. In the first class the status is 401 and the challenge is the scheme, if a header can hold
it; in the second it is 503, and there is no challenge. A request that the gate sees is turned away
in the second class exactly when it brings a token that verifies and the store that is to be asked
for its number is down. -/
theorem rejections_look_alike (service : Service) :
    (∀ kind world world' fresh fresh' request other,
      service.TurnedAway world fresh request kind → service.TurnedAway world' fresh' other kind →
      request.method = other.method → request.path = other.path →
      LookAlike (service.responseTo world fresh request)
        (service.responseTo world' fresh' other)) ∧
    (∀ world fresh request, service.TurnedAway world fresh request .unauthenticated →
      (service.responseTo world fresh request).status = 401 ∧
      (service.responseTo world fresh request).headers.valuesOf "www-authenticate" =
        (if Http.isValue (Utf8.encode service.gate.scheme.toList) = true then
          [Utf8.encode service.gate.scheme.toList] else []) ∧
      (request.method ≠ "HEAD" → (service.responseTo world fresh request).body =
        (Refusal.body (.unauthenticated service.gate.scheme)).render)) ∧
    (∀ world fresh request, service.TurnedAway world fresh request .unavailable →
      (service.responseTo world fresh request).status = 503 ∧
      (service.responseTo world fresh request).headers.valuesOf "www-authenticate" = [] ∧
      (request.method ≠ "HEAD" → (service.responseTo world fresh request).body =
        (Refusal.body .unavailable).render)) ∧
    ∀ world fresh request, WithinLimit request.headers →
      (service.TurnedAway world fresh request .unavailable ↔
        ∃ raw who backend space outage,
          BringsToken service.gate.headerName service.gate.scheme
            (numbered fresh request).1.headers raw ∧
          service.gate.screen.verifier.verify world.now raw = .ok who ∧
          service.gate.screen.source = .stored backend space ∧
          world.store.outage = some outage) := by
  refine ⟨?_, fun world fresh request h => ?_, fun world fresh request h => ?_,
    fun world fresh request => turnedAway_unavailable_iff⟩
  · intro kind world world' fresh fresh' request other h h' hmethod hpath
    obtain ⟨failure, inner, hkind, hinner, hdressed⟩ := h.dressed
    obtain ⟨failure', inner', hkind', hinner', hdressed'⟩ := h'.dressed
    refine hdressed.lookAlike hdressed' hmethod hpath ?_
    rw [hinner, hinner', Refusal.ofFailure, Refusal.ofFailure, hkind, hkind']
  · obtain ⟨failure, inner, hkind, hinner, hdressed⟩ := h.dressed
    rw [Refusal.ofFailure, hkind] at hinner
    obtain ⟨hstatus, hchallenges, hbody⟩ := hdressed.refuses hinner
    refine ⟨hstatus, hchallenges.trans ?_, hbody⟩
    rw [Refusal.challenge?, Option.filter_some]
    split <;> rfl
  · obtain ⟨failure, inner, hkind, hinner, hdressed⟩ := h.dressed
    rw [Refusal.ofFailure, hkind] at hinner
    exact hdressed.refuses hinner

/-- Whoever asks the sample service for a profile without a token is told the same as whoever brings
a token that has been revoked; and it makes no difference how the store is down. -/
theorem rejections_look_alike_on_seven :
    ∃ nobody holder : Request, nobody.headers = [] ∧
      LookAlike (sampleStoredService.responseTo ⟨0, .empty⟩ sampleFresh nobody)
        (sampleStoredService.responseTo ⟨0, Revocation.Store.empty.add "auth:revoked:7"⟩
          sampleFresh holder) ∧
      (sampleStoredService.responseTo ⟨0, .empty⟩ sampleFresh nobody).status = 401 ∧
      LookAlike (sampleStoredService.responseTo ⟨0, ⟨[], some .connection⟩⟩ sampleFresh holder)
        (sampleStoredService.responseTo ⟨0, ⟨[], some .command⟩⟩ sampleFresh holder) ∧
      (sampleStoredService.responseTo ⟨0, ⟨[], some .command⟩⟩ sampleFresh holder).status =
        503 := by
  obtain ⟨raw, hvisible, hverify⟩ := exists_token_of_seven
  obtain ⟨halike, hfirst, hsecond, -⟩ := rejections_look_alike sampleStoredService
  have hlimit := withinLimit_sampleHeaders raw
  have hbrings := (bringsToken_sample hvisible).1
  have hname : sampleStoredService.gate.headerName ≠ requestIdName := by decide
  have hmissing : (sampleStoredService.gate.withoutCredentials ⟨"GET", "/api/v1/me", []⟩) =
      .error .missingCredentials := by decide +kernel
  have hnobody : sampleStoredService.TurnedAway ⟨0, .empty⟩ sampleFresh
      ⟨"GET", "/api/v1/me", [], []⟩ .unauthenticated := by
    refine ⟨fun length hlength => ?_, .missingCredentials, ?_, rfl⟩
    · cases hlength
    · rw [passage_eq hname, Gate.pass_of_lacksCredentials (Or.inl (by simp [headOf]))]
      exact hmissing
  have hsource : sampleStoredService.gate.screen.source = .stored .memory "auth:revoked" := rfl
  have hhas : (Revocation.Store.empty.add "auth:revoked:7").has
      (Revocation.Source.key "auth:revoked" seven.id) = true := by decide +kernel
  have haway : sampleStoredService.TurnsAway ⟨0, Revocation.Store.empty.add "auth:revoked:7"⟩ raw
      (.revoked seven.id) 401 := turnsAway_of_has hsource hverify rfl hhas
  have hrevoked : sampleStoredService.TurnedAway
      ⟨0, Revocation.Store.empty.add "auth:revoked:7"⟩ sampleFresh
      ⟨"GET", "/api/v1/me", sampleHeaders raw, []⟩ .unauthenticated :=
    haway.turnedAway sampleFresh hbrings hlimit
  have hdown : ∀ outage, sampleStoredService.TurnedAway ⟨0, ⟨[], some outage⟩⟩ sampleFresh
      ⟨"GET", "/api/v1/me", sampleHeaders raw, []⟩ .unavailable := by
    intro outage
    have haway := @turnsAway_of_outage _ ⟨0, ⟨[], some outage⟩⟩ raw _ _ _ hsource hverify outage rfl
    exact haway.turnedAway sampleFresh hbrings hlimit
  exact ⟨⟨"GET", "/api/v1/me", [], []⟩, ⟨"GET", "/api/v1/me", sampleHeaders raw, []⟩, rfl,
    halike _ _ _ _ _ _ _ hnobody hrevoked rfl rfl, (hfirst _ _ _ hnobody).1,
    halike _ _ _ _ _ _ _ (hdown .connection) (hdown .command) rfl rfl,
    (hsecond _ _ _ (hdown .command)).1⟩

end Service

end BearerGate
