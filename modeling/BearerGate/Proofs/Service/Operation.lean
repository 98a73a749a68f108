import BearerGate.Proofs.Service.Rejections
import BearerGate.Proofs.Startup

/-!
# Services in Operation

A service that was started with a pair of keys is meant to be of use: administrators get tokens
from it, whoever holds a token is let through, and whoever is turned away is told the scheme. How
far that goes depends on two settings, the lifetime of tokens and the scheme.

* An administrator gets a token as long as the time of expiry fits 64 bits with sign. With a
  lifetime for which it does not, the issuer refuses, and the administrator is told of a fault.
* A holder is let through if the scheme is visible text, as the value of the credential header is
  read as text.
* The challenge is the scheme if a header can hold that.

## Main results

* `Service.status_route_ne_unauthorized`: behind the gate nobody is told 401.
* `Service.challenges_of_unauthorized`: what is said together with 401.
* `Service.prepared_service_operates`: what a service does that was started with a pair of keys.
* `Service.not_every_prepared_service_operates`: the bounds on the two settings are needed.
-/

namespace BearerGate

open Http (Request)

namespace Service

variable {service : Service} {now : Second} {store : Revocation.Store} {fresh : Fresh}
  {request : Request} {caller : Caller}

/-! ### Pairs of keys -/

/-- A service has a **pair of keys**: with one it signs every message, whatever number is drawn, and
with the other the gate accepts what was signed. -/
def HasKeyPair (service : Service) : Prop :=
  ∃ issuer, service.issuer = some issuer ∧ ∀ draw message, ∃ signature,
    issuer.key.sign draw message = .ok signature ∧
      service.gate.screen.verifier.key.verify message signature = true

/-! ### Administrators -/

/-- What comes of the requests of **administrators** who ask for a token in due form. -/
def AnswersAdministrators (service : Service) (now : Second) (outcome : Exchange → Prop) : Prop :=
  ∀ store fresh request caller asked grants, AsksInForm request asked grants →
    (service.passage now store fresh request).verdict = .ok caller →
    "role-admin" ∈ caller.authorities → outcome (service.handle now store fresh request)

/-- Administrators **get the tokens** that they ask for. -/
def IssuesAt (service : Service) (now : Second) : Prop :=
  service.AnswersAdministrators now fun exchange => exchange.response.status = 201

/-- Administrators are told of a fault, and it is logged that there is **no time of expiry**. -/
def OverflowsAt (service : Service) (now : Second) : Prop :=
  service.AnswersAdministrators now fun exchange => exchange.response.status = 500 ∧
    exchange.events = [.issuanceFailed .lifetimeOverflow]

/-- With a key that signs everything, administrators get tokens as long as the time of expiry
**fits**. -/
theorem issuesAt_of_le {issuer : Issuer} (hissuer : service.issuer = some issuer)
    (hsigns : ∀ draw message, ∃ signature, issuer.key.sign draw message = .ok signature)
    (h : now + issuer.lifetime ≤ Word.last) : service.IssuesAt now := by
  intro store fresh request caller asked grants hform hverdict hadmin
  obtain ⟨token, hmade⟩ := Issuer.exists_issue (hsigns fresh.draw) h (identityOf asked grants)
  exact (hform.mints ⟨hissuer, hadmin⟩ hmade hverdict).dressed.status

/-- Whatever the key, administrators get no token when the time of expiry **does not fit**. -/
theorem overflowsAt_of_lt {issuer : Issuer} (hissuer : service.issuer = some issuer)
    (h : Word.last < now + issuer.lifetime) : service.OverflowsAt now := by
  intro store fresh request caller asked grants hform hverdict hadmin
  have hmade : issuer.issue now fresh.draw (identityOf asked grants) = .error .lifetimeOverflow :=
    Issuer.issue_eq_lifetimeOverflow_iff.mpr h
  have hunmade : Unmade service now fresh (service.passage now store fresh request).verdict request
      caller issuer asked grants .lifetimeOverflow := ⟨hform, ⟨hissuer, hadmin⟩, hverdict, hmade⟩
  exact ⟨hunmade.status, hunmade.dressed.events⟩

/-! ### Holders -/

/-- Whoever brings a token that verifies and is known not to have been revoked, with the scheme
before it and a space between, is **let through as its holder**: the source is asked for the number
of the token, and if the request is within the limit, it is answered to the holder. -/
def AdmitsAt (service : Service) (now : Second) : Prop :=
  ∀ store fresh request raw who, service.gate.screen.verifier.verify now raw = .ok who →
    service.gate.screen.source.isRevoked store who.id = .ok false →
    request.headers.IsFirst service.gate.headerName
      (Utf8.encode (service.gate.scheme ++ " " ++ raw).toList) →
    ∃ caller, caller.IsHolder who ∧
      (service.passage now store fresh request).verdict = .ok caller ∧
      (service.passage now store fresh request).lookups =
        service.gate.screen.source.lookups who.id ∧
      (WithinLimit request.headers → SameOutcome request.method
        (service.handle now store fresh request)
        ((service.route now fresh caller request (allowance request.headers)).after
          (service.gate.screen.source.lookups who.id)))

/-- A gate with a **visible** scheme lets holders through. -/
theorem admitsAt_of_isVisible {settings : Settings} {source : Option Revocation.Source}
    (hservice : assemble settings source = .ok service)
    (h : Text.IsVisible service.gate.scheme.toList) (now : Second) : service.AdmitsAt now := by
  intro store fresh request raw who hverify hkept hfirst
  have hroles := Gate.grants_are_roles (assemble_eq_ok_iff.mp hservice).1 hverify
  have hbrings := (sameButNumber_numbered fresh request).bringsToken
    (bringsToken_of_isVisible h (Verifier.isVisible_of_verify hverify) hfirst)
  have hverdict : (service.passage now store fresh request).verdict =
      .ok (Caller.ofIdentity who).authenticate :=
    Gate.verdict_eq_ok_iff.mpr (Or.inr ⟨raw, who, hbrings, hverify, hkept, rfl⟩)
  have hlookups : (service.passage now store fresh request).lookups =
      service.gate.screen.source.lookups who.id := by
    rw [passage, Gate.lookups_of_bringsToken hbrings, Screen.run, hverify]
  refine ⟨_, (Caller.isHolder_iff hroles).mpr rfl, hverdict, hlookups, fun hlimit => ?_⟩
  rw [← hlookups]
  exact (handle_dressed_of_ok hlimit hverdict).toSameOutcome

/-! ### Challenges -/

/-- A request for a token that stops short behind the gate is not told 401. -/
theorem StopsShort.status_ne_unauthorized {headers : Http.Headers} {body : Body} {r : Refusal}
    (h : StopsShort service now fresh caller headers body r) : r.status ≠ 401 := by
  cases h <;> simp [Refusal.status]

/-- Behind the gate **nobody is told 401**. -/
theorem status_route_ne_unauthorized (service : Service) (now : Second) (fresh : Fresh)
    (caller : Caller) (request : Request) (limit : Nat) :
    (service.route now fresh caller request limit).response.status ≠ 401 := by
  by_cases hroute : request.method = "POST" ∧ request.path = "/api/v1/tokens"
  · rw [route_tokens _ _ _ _ hroute.1 hroute.2]
    rcases service.stopsShort_or_earns now fresh caller request.headers
      ⟨request.body, some limit⟩ with ⟨r, hstops⟩ | ⟨issuer, asked, grants, token, hearns⟩
    · rw [hstops.answer.1, status_response]
      exact hstops.status_ne_unauthorized
    · rw [hearns.answer]
      simp [issued, Http.Response.json]
  · intro hstatus
    have hother := (@route_of_not_tokens service now fresh request caller limit hroute).1
    rw [hstatus] at hother
    exact absurd hother (by decide)

/-- Whoever is told 401 **was turned away** by the gate for a reason on the side of the client. -/
theorem turnedAway_of_unauthorized
    (h : (service.handle now store fresh request).response.status = 401) :
    service.TurnedAway ⟨now, store⟩ fresh request .unauthenticated := by
  by_cases hlimit : WithinLimit request.headers
  · cases hverdict : (service.passage now store fresh request).verdict with
    | ok caller =>
        rw [(handle_dressed_of_ok hlimit hverdict).status] at h
        exact absurd h (service.status_route_ne_unauthorized now fresh caller request _)
    | error failure =>
        refine ⟨hlimit, failure, hverdict, ?_⟩
        rw [(handle_dressed_of_error hlimit hverdict).status, status_response,
          status_ofFailure] at h
        cases houtward : failure.outward with
        | unauthenticated => rfl
        | unavailable =>
            rw [houtward] at h
            cases h
  · rw [(handle_dressed_of_not_withinLimit service now store fresh hlimit).status] at h
    cases h

/-- What is said together with 401 is the scheme, **if a header can hold it**. -/
theorem challenges_of_unauthorized
    (h : (service.handle now store fresh request).response.status = 401) :
    (service.handle now store fresh request).response.headers.valuesOf "www-authenticate" =
      (Refusal.unauthenticated service.gate.scheme).challenge?.toList := by
  obtain ⟨failure, inner, hkind, hinner, hdressed⟩ := (turnedAway_of_unauthorized h).dressed
  rw [Refusal.ofFailure, hkind] at hinner
  exact (hdressed.refuses hinner).2.1

/-- Without a gate, what is said together with 401 is the same. -/
theorem challenges_of_bare_unauthorized (h : (service.handleBare request).status = 401) :
    (service.handleBare request).headers.valuesOf "www-authenticate" =
      (Refusal.unauthenticated service.gate.scheme).challenge?.toList := by
  rw [status_handleBare_eq] at h
  cases hplace : Route.ofInnerPath? request.path with
  | none =>
      rw [hplace] at h
      cases h
  | some place =>
      rw [hplace] at h
      dsimp only at h
      split at h
      · next hallows =>
        rw [handleBare]
        simp only [hplace, hallows, if_true, withAllow, headers_sent]
        exact challenges_response _
      · cases h

/-- Whoever is told 401, with the gate in front or without it, is told the **scheme**, once. -/
def ChallengesAt (service : Service) (now : Second) : Prop :=
  (∀ store fresh request, (service.handle now store fresh request).response.status = 401 →
    (service.handle now store fresh request).response.headers.valuesOf "www-authenticate" =
      [Utf8.encode service.gate.scheme.toList]) ∧
  ∀ request, (service.handleBare request).status = 401 →
    (service.handleBare request).headers.valuesOf "www-authenticate" =
      [Utf8.encode service.gate.scheme.toList]

/-- A service whose scheme **can be the value of a header** tells it. -/
theorem challengesAt_of_isValue
    (h : Http.isValue (Utf8.encode service.gate.scheme.toList) = true) (now : Second) :
    service.ChallengesAt now := by
  have hchallenge : (Refusal.unauthenticated service.gate.scheme).challenge?.toList =
      [Utf8.encode service.gate.scheme.toList] := by
    rw [Refusal.challenge?, Option.filter_some, if_pos h]
    rfl
  refine ⟨fun store fresh request hstatus => ?_, fun request hstatus => ?_⟩
  · rw [challenges_of_unauthorized hstatus, hchallenge]
  · rw [challenges_of_bare_unauthorized hstatus, hchallenge]

/-! ### Services that were prepared -/

/-- **A service that was started with a pair of keys is of use**, at any time.

* Administrators who ask for a token in due form get it if the time of expiry fits 64 bits with
  sign. If it does not, they are told of a fault, which is logged.
* If the scheme is visible text, whoever brings a token that verifies and is known not to have been
  revoked is let through as its holder.
* If the scheme can be the value of a header, it is told once with every 401. -/
theorem prepared_service_operates {env : Settings.Environment} {reachable : String → Bool}
    {settings : Settings} (h : Startup.prepare env reachable = .ok (settings, service))
    (hkeys : service.HasKeyPair) (now : Second) :
    (now + settings.lifetime ≤ Word.last → service.IssuesAt now) ∧
    (Word.last < now + settings.lifetime → service.OverflowsAt now) ∧
    (Text.IsVisible settings.scheme.toList → service.AdmitsAt now) ∧
    (Http.isValue (Utf8.encode settings.scheme.toList) = true → service.ChallengesAt now) := by
  have hsound := Startup.IsSound.of_prepare h
  obtain ⟨-, source, -, hassemble⟩ := Startup.prepare_eq_ok_iff.mp h
  obtain ⟨issuer, hissuer, hpair⟩ := hkeys
  have hsigns : ∀ draw message, ∃ signature, issuer.key.sign draw message = .ok signature :=
    fun draw message => (hpair draw message).imp fun _ hsignature => hsignature.1
  rw [← (hsound.issuer issuer hissuer).2.1, ← hsound.scheme]
  exact ⟨issuesAt_of_le hissuer hsigns, overflowsAt_of_lt hissuer,
    fun hvisible => admitsAt_of_isVisible hassemble hvisible now,
    fun hvalue => challengesAt_of_isValue hvalue now⟩

/-! ### Services that cannot be used -/

/-- The sample services have a pair of keys, whatever the lifetime and the scheme. -/
theorem hasKeyPair_sample (lifetime : Nat) (scheme : String) :
    (Startup.sampleServiceWith lifetime scheme).HasKeyPair := by
  refine ⟨{ sampleIssuer with lifetime }, rfl, fun draw message => ?_⟩
  obtain ⟨signature, hsignature⟩ := exists_sign_sampleSigningKey draw message
  exact ⟨signature, hsignature, samplePair_matches hsignature⟩

/-- With the sample variables, the default lifetime and the default scheme, the service is of use in
the first second, and administrators are told of a fault where the time of expiry does not fit. -/
theorem prepared_service_operates_sample :
    (Startup.sampleServiceWith 3600 "Bearer").IssuesAt 1 ∧
    (Startup.sampleServiceWith 3600 "Bearer").OverflowsAt (Second.ofNat Word.last) ∧
    (Startup.sampleServiceWith 3600 "Bearer").AdmitsAt 1 ∧
    (Startup.sampleServiceWith 3600 "Bearer").ChallengesAt 1 := by
  have hprepare := @Startup.prepare_sampleVariables "3600" "Bearer" 3600 (by decide)
    (by decide +kernel) (by decide) (by decide +kernel) fun _ => true
  have hkeys := hasKeyPair_sample 3600 "Bearer"
  obtain ⟨hissues, -, hadmits, hchallenges⟩ := prepared_service_operates hprepare hkeys 1
  obtain ⟨-, hoverflows, -, -⟩ := prepared_service_operates hprepare hkeys (Second.ofNat Word.last)
  exact ⟨hissues (by decide), hoverflows (by decide), hadmits isVisible_bearer,
    hchallenges (by decide +kernel)⟩

/-- The administrator of the sample service is let through under the scheme of the sample headers,
whatever the lifetime. -/
theorem admits_administrator_sample (lifetime : Nat) {now : Second} {raw : String}
    (hvisible : Text.IsVisible raw.toList)
    (hverify : sampleVerifier.verify now raw = .ok sampleAdministrator) :
    ((Startup.sampleServiceWith lifetime "Bearer").passage now .empty sampleFresh
      (samplePost raw)).verdict =
      .ok (Caller.ofIdentity sampleAdministrator).authenticate := by
  have hname : Settings.defaultHeaderName ≠ requestIdName := by decide
  rw [@passage_eq (Startup.sampleServiceWith lifetime "Bearer") hname]
  exact Gate.verdict_eq_ok_iff.mpr (Or.inr ⟨raw, sampleAdministrator,
    (bringsToken_sample hvisible).1, hverify, rfl, rfl⟩)

/-- With a lifetime of one second less than 2 to the power of 63 an administrator **gets no token**,
but in the very first second. -/
theorem not_issuesAt_sample :
    ¬(Startup.sampleServiceWith 9223372036854775807 "Bearer").IssuesAt 1 := by
  intro hissues
  obtain ⟨raw, hvisible, hverify⟩ := @exists_token_of_administrator 1 (by decide)
  have hverdict := admits_administrator_sample 9223372036854775807 hvisible hverify
  have hform := @asksInForm_sample raw [] (announcedLength_sampleHeaders raw)
  have hcreated := hissues .empty sampleFresh _ _ _ _ hform hverdict admin_mem_authorities
  have hoverflows := overflowsAt_of_lt rfl (by decide) .empty sampleFresh _ _ _ _ hform hverdict
    admin_mem_authorities
  exact absurd (hcreated.symm.trans hoverflows.1) (by decide)

/-- Under a scheme that is not all ASCII a holder **is not let through**. -/
theorem not_admitsAt_sample : ¬(Startup.sampleServiceWith 3600 "Schlüssel").AdmitsAt 1 := by
  intro hadmits
  obtain ⟨raw, -, hverify⟩ := @exists_token_of_administrator 1 (by decide)
  have hname : (Startup.sampleServiceWith 3600 "Schlüssel").gate.headerName ≠ requestIdName := by
    decide
  have hvalue : ¬Http.IsPlain (Utf8.encode ("Schlüssel" ++ " " ++ raw).toList) := by
    have hbyte : (0xC3 : UInt8) ∈ Utf8.encode "Schlüssel".toList := by decide +kernel
    intro hplain
    rw [String.toList_append, String.toList_append, List.append_assoc, Utf8.encode_append] at hplain
    have hbad := Http.isTextByte_iff.mpr (hplain _ (List.mem_append_left _ hbyte))
    exact absurd hbad (by decide)
  have hfirst : Http.Headers.IsFirst
      [("authorization", Utf8.encode ("Schlüssel" ++ " " ++ raw).toList)] "authorization"
      (Utf8.encode ("Schlüssel" ++ " " ++ raw).toList) := ⟨[], [], rfl, by simp⟩
  obtain ⟨caller, -, hverdict, -⟩ := hadmits .empty sampleFresh
    ⟨"GET", "/api/v1/me", [("authorization", Utf8.encode ("Schlüssel" ++ " " ++ raw).toList)], []⟩
    raw sampleAdministrator hverify rfl hfirst
  rw [passage_eq hname, Gate.verdict_of_not_isPlain hfirst hvalue] at hverdict
  cases hverdict

/-- A scheme with a control in it **is not told**. -/
theorem not_challengesAt_sample :
    ¬(Startup.sampleServiceWith 3600 "Bearer\x7f").ChallengesAt 1 := by
  intro hchallenges
  have hstatus : ((Startup.sampleServiceWith 3600 "Bearer\x7f").handle 1 .empty sampleFresh
      ⟨"GET", "/api/v1/me", [], []⟩).response.status = 401 := by decide +kernel
  have htold := hchallenges.1 _ _ _ hstatus
  rw [challenges_of_unauthorized hstatus] at htold
  exact absurd htold (by decide +kernel)

/-- It is **not so that every service which was started with a pair of keys is of use**: with one
lifetime administrators get no tokens, with one scheme no holder is let through, and one scheme is
not told. All three are settings that a startup takes. -/
theorem not_every_prepared_service_operates :
    (∃ settings service, Startup.prepare (Startup.sampleVariables "9223372036854775807" "Bearer")
        (fun _ => true) = .ok (settings, service) ∧ service.HasKeyPair ∧
      settings.headerName = "authorization" ∧ settings.leeway = 0 ∧ ¬service.IssuesAt 1) ∧
    (∃ settings service, Startup.prepare (Startup.sampleVariables "3600" "Schlüssel")
        (fun _ => true) = .ok (settings, service) ∧ service.HasKeyPair ∧
      settings.headerName = "authorization" ∧ settings.leeway = 0 ∧ ¬service.AdmitsAt 1) ∧
    ∃ settings service, Startup.prepare (Startup.sampleVariables "3600" "Bearer\x7f")
        (fun _ => true) = .ok (settings, service) ∧ service.HasKeyPair ∧
      settings.headerName = "authorization" ∧ settings.leeway = 0 ∧ ¬service.ChallengesAt 1 := by
  refine ⟨⟨_, _, Startup.prepare_sampleVariables (by decide) (by decide +kernel) (by decide)
      (by decide +kernel) _, hasKeyPair_sample _ _, rfl, rfl, not_issuesAt_sample⟩,
    ⟨_, _, Startup.prepare_sampleVariables (by decide) (by decide +kernel) (by decide)
      (by decide +kernel) _, hasKeyPair_sample _ _, rfl, rfl, not_admitsAt_sample⟩,
    ⟨_, _, Startup.prepare_sampleVariables (by decide) (by decide +kernel) (by decide)
      (by decide +kernel) _, hasKeyPair_sample _ _, rfl, rfl, not_challengesAt_sample⟩⟩

end Service

end BearerGate
