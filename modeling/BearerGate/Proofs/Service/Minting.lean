import BearerGate.Proofs.Gate.Admission
import BearerGate.Proofs.Service.Outcomes

/-!
# Who Mints Tokens

A token is minted for a request on the token route that is within the limit, that the gate lets
through as an administrator, and that earns the token; and for no other request. The administrator
is never the caller without credentials, whatever routes are optional: that caller has one authority,
and it is not that role. So there is a token behind the request, one that verifies, that has not
expired, that is known not to have been revoked, and among whose grants there is the role.

Everything else on the token route is answered with the refusal of the first stage that is not
passed: the limit, the gate, and then those of the handler. Without a gate in front nobody is known,
and no request gets past the first of them.

## Main results

* `Service.logged_iff_created`: a token is logged exactly when it is answered.
* `Service.refused_of_stopsShort`: the answer to a request that stops short.
* `Service.exists_liveAdministrator`: the token behind an administrator.
* `Service.status_handleBare_eq`: what is answered without a gate.
* `Service.only_administrators_mint`: who mints tokens, and what anyone else is told.
-/

namespace BearerGate

open Http (Request)

namespace Service

variable {service : Service} {now : Second} {store : Revocation.Store} {fresh : Fresh}
  {request : Request}

/-! ### Requests that mint a token -/

/-- No token is logged where the gate turns a request away. -/
theorem ofFailure_ne_tokenIssued (method path : String) (failure : GateFailure) (id : Int64)
    (name : String) : LogEvent.ofFailure method path failure ≠ .tokenIssued id name := by
  cases failure <;> rintro ⟨⟩

/-- A token is **logged as issued exactly when the answer is 201**. -/
theorem logged_iff_created :
    (∃ id name, .tokenIssued id name ∈ (service.handle now store fresh request).events) ↔
      (service.handle now store fresh request).response.status = 201 := by
  constructor
  · rintro ⟨id, name, hlogged⟩
    rcases service.four_outcomes now store fresh request with
      ⟨failure, hrejected⟩ | ⟨_, _, _, _, _, hmints⟩ | ⟨_, _, _, _, _, hunmade⟩ | hsilent
    · rw [hrejected.dressed.events] at hlogged
      exact absurd (List.mem_singleton.mp hlogged).symm (ofFailure_ne_tokenIssued _ _ _ _ _)
    · exact hmints.status
    · rw [hunmade.dressed.events] at hlogged
      cases List.mem_singleton.mp hlogged
    · rw [hsilent.events] at hlogged
      cases hlogged
  · intro hcreated
    obtain ⟨caller, issuer, asked, grants, token, hmints⟩ := created_iff_mints.mp hcreated
    refine ⟨asked.id, caller.name, ?_⟩
    rw [hmints.dressed.events]
    exact List.mem_singleton.mpr rfl

/-! ### Requests that do not -/

/-- A caller on the token route whose request stops short gets the **refusal of the stage**. -/
theorem refused_of_stopsShort (hlimit : WithinLimit request.headers)
    (hmethod : request.method = "POST") (hpath : request.path = "/api/v1/tokens")
    {caller : Caller} (hverdict : (service.passage now store fresh request).verdict = .ok caller)
    {r : Refusal} (hstops : StopsShort service now fresh caller request.headers
      ⟨request.body, some (allowance request.headers)⟩ r) :
    (service.handle now store fresh request).response.status = r.status ∧
      (service.handle now store fresh request).response.body = r.body.render := by
  have hdressed := handle_dressed_of_ok hlimit hverdict
  rw [route_tokens _ _ _ _ hmethod hpath] at hdressed
  have hbody := hdressed.body (by rw [hmethod]; decide)
  rw [hdressed.status, hbody, Answer.after, hstops.answer.1, status_response, body_response]
  exact ⟨rfl, rfl⟩

/-- A caller on the token route whose request does not stop short gets a token. -/
theorem stopsShort_or_created (hlimit : WithinLimit request.headers)
    (hmethod : request.method = "POST") (hpath : request.path = "/api/v1/tokens")
    {caller : Caller}
    (hverdict : (service.passage now store fresh request).verdict = .ok caller) :
    (∃ r, StopsShort service now fresh caller request.headers
        ⟨request.body, some (allowance request.headers)⟩ r) ∨
      (service.handle now store fresh request).response.status = 201 := by
  refine (service.stopsShort_or_earns now fresh caller request.headers
    ⟨request.body, some (allowance request.headers)⟩).imp_right ?_
  rintro ⟨issuer, asked, grants, token, hearns⟩
  exact created_iff_mints.mpr
    ⟨caller, issuer, asked, grants, token, hearns, hmethod, hpath, hlimit, hverdict⟩

/-! ### Administrators -/

/-- A text is the **live token of an administrator** to a screen: it verifies, its number is known
not to have been revoked, its claims have expired by no more than the leeway, and one of the texts
in its grants names the role. -/
structure IsLiveAdministrator (screen : Screen) (now : Second) (store : Revocation.Store)
    (raw : String) (who : Identity) : Prop where
  verified : screen.verifier.verify now raw = .ok who
  kept : screen.source.isRevoked store who.id = .ok false
  claimed : ∃ (token : Compact) (claims : Claims) (expires : Int64) (texts : List String),
    Compact.ofText? raw.toList = some token ∧
    screen.verifier.verifiedClaims now token = .ok claims ∧ claims.expires = some expires ∧
    (now : Int) ≤ expires.toInt + screen.verifier.leeway ∧
    claims.grants = some (.list (texts.map .text)) ∧
    ∃ text ∈ texts, Role.resolve text = some "role-admin"

/-- Whoever the gate lets through as an administrator **brings a live token** of one, and is its
holder. -/
theorem exists_liveAdministrator {settings : Settings} {source : Option Revocation.Source}
    (hservice : assemble settings source = .ok service) {caller : Caller}
    (hadmitted : (service.passage now store fresh request).verdict = .ok caller)
    (hadmin : "role-admin" ∈ caller.authorities) :
    ∃ raw who, BringsToken settings.headerName settings.scheme
        (numbered fresh request).1.headers raw ∧
      IsLiveAdministrator service.gate.screen now store raw who ∧ caller.IsHolder who := by
  have hgate := (assemble_eq_ok_iff.mp hservice).1
  have hroles := @Gate.grants_are_roles settings source service.gate hgate now
  obtain ⟨verifier, checker, hload, -, -, hparts⟩ := buildGate_eq_ok_iff.mp hgate
  obtain ⟨key, -, hverifier⟩ := Verifier.load_eq_ok_iff.mp hload
  have hresolve : service.gate.screen.verifier.resolve = Role.resolve := by
    rw [hparts, hverifier]
  rcases Gate.verdict_eq_ok_iff.mp hadmitted with ⟨-, -, rfl⟩ |
    ⟨raw, who, hbrings, hverify, hrevoked, rfl⟩
  · rw [Caller.anonymous, NameSet.mem_ofList, List.mem_singleton] at hadmin
    exact absurd hadmin (by decide)
  · have hholder := (Caller.isHolder_iff (hroles hverify)).mpr rfl
    obtain ⟨token, claims, expires, texts, htoken, hclaims, hexpires, hnow, hvalue, hgrants⟩ :=
      Verifier.claims_of_verify hverify
    rw [hresolve] at hgrants
    rw [hparts] at hbrings
    exact ⟨raw, who, hbrings, ⟨hverify, hrevoked, token, claims, expires, texts, htoken, hclaims,
      hexpires, hnow, hvalue, (hgrants _).mp hadmin⟩, hholder⟩

/-- There is an issuer exactly where the settings name a private key. -/
theorem isSome_issuer_of_assemble {settings : Settings} {source : Option Revocation.Source}
    (hservice : assemble settings source = .ok service) :
    service.issuer.isSome = settings.privateKey.isSome := by
  have hbuilt := (assemble_eq_ok_iff.mp hservice).2
  rw [buildIssuer] at hbuilt
  cases hkey : settings.privateKey with
  | none =>
      rw [hkey, Except.ok.injEq] at hbuilt
      rw [← hbuilt]
      rfl
  | some material =>
      rw [hkey] at hbuilt
      obtain ⟨issuer, -, hissuer⟩ := map_eq_ok_iff.mp hbuilt
      rw [← hissuer]
      rfl

/-! ### A sample -/

/-- A body that asks for a token. -/
def sampleBody : Bytes := Utf8.encode "[7, \" ada \", [\"ROLE_USER\"]]".toList

/-- A request for a token. -/
def samplePost (token : String) : Request where
  method := "POST"
  path := "/api/v1/tokens"
  headers := sampleHeaders token
  body := sampleBody

/-- What the request asks for. -/
def sampleAsked : TokenRequest := ⟨7, " ada ", ["ROLE_USER"]⟩

/-- The identity of an administrator. -/
def sampleAdministrator : Identity := ⟨1, "root", NameSet.ofList ["role-admin"]⟩

/-- The sample request asks for a token in due form, whatever headers stand behind, as long as they
announce no length that can be read. -/
theorem asksInForm_sample {token : String} {more : Http.Headers}
    (hmore : announcedLength (sampleHeaders token ++ more) = none) :
    AsksInForm { samplePost token with headers := sampleHeaders token ++ more } sampleAsked
      ["role-user"] where
  method := rfl
  path := rfl
  within length hlength := by
    rw [hmore] at hlength
    cases hlength
  json := by
    have hfirst : Http.Headers.IsFirst (sampleHeaders token) "content-type"
        (Utf8.encode "application/json".toList) :=
      ⟨[("authorization", Utf8.encode ("Bearer" ++ " " ++ token).toList)], [], rfl, by simp⟩
    have hvalue : (Http.text? (Utf8.encode "application/json".toList)).any
        Http.MediaType.isJson = true := by decide +kernel
    rw [saysJson, Http.Headers.text?, Http.Headers.first?_eq_some_iff.mpr (hfirst.append more)]
    exact hvalue
  fits := by
    have hlength : sampleBody.length ≤ bodyLimit := by decide +kernel
    rw [allowance, hmore]
    exact hlength
  read := by
    have hread : TokenRequest.read sampleBody = .ok sampleAsked := by decide +kernel
    exact hread
  inOrder := by decide +kernel
  known := by decide +kernel

/-- There is a token of an administrator that is good at the sample service in the second of its
issue. -/
theorem exists_token_of_administrator {now : Second}
    (h : now + Settings.defaultLifetime ≤ Word.last) :
    ∃ raw, Text.IsVisible raw.toList ∧ sampleVerifier.verify now raw = .ok sampleAdministrator := by
  obtain ⟨raw, hraw⟩ := exists_issue_sampleIssuer h 0 sampleAdministrator
  exact ⟨raw, Issuer.isVisible_of_issue hraw,
    verify_sampleVerifier hraw (by decide) (NameSet.roles_of_singleton .admin)⟩

/-- The role of an administrator is among the authorities of the sample one. -/
theorem admin_mem_authorities :
    "role-admin" ∈ (Caller.ofIdentity sampleAdministrator).authenticate.authorities :=
  NameSet.contains_iff.mp (by decide +kernel)

/-- An administrator **mints a token** at the sample service, whatever the source of revocations, as
long as it does not list the administrator, and whatever headers stand behind, as long as they
announce no length that can be read. -/
theorem mints_sample {source : Revocation.Source} {store : Revocation.Store} {more : Http.Headers}
    (hrevoked : source.isRevoked store sampleAdministrator.id = .ok false)
    (hmore : ∀ token, announcedLength (sampleHeaders token ++ more) = none) (fresh : Fresh) :
    ∃ admin token, Mints (sampleService source) 0 fresh
      ((sampleService source).passage 0 store fresh
        { samplePost admin with headers := sampleHeaders admin ++ more }).verdict
      { samplePost admin with headers := sampleHeaders admin ++ more }
      (Caller.ofIdentity sampleAdministrator).authenticate sampleIssuer sampleAsked ["role-user"]
      token := by
  obtain ⟨admin, hvisible, hverify⟩ := @exists_token_of_administrator 0 (by decide)
  obtain ⟨token, htoken⟩ :=
    @exists_issue_sampleIssuer 0 (by decide) fresh.draw (identityOf sampleAsked ["role-user"])
  have hname : sampleSettings.headerName ≠ requestIdName := by decide
  have hbrings : BringsToken "authorization" "Bearer" (sampleHeaders admin ++ more) admin :=
    bringsToken_of_isVisible isVisible_bearer hvisible
      (Http.Headers.IsFirst.append ⟨[], _, rfl, by simp⟩ more)
  refine ⟨admin, token, (asksInForm_sample (hmore admin)).mints ⟨rfl, admin_mem_authorities⟩ htoken
    ?_⟩
  rw [@passage_eq (sampleService source) hname]
  exact Gate.verdict_eq_ok_iff.mpr
    (Or.inr ⟨admin, sampleAdministrator, hbrings, hverify, hrevoked, rfl⟩)

/-- An administrator **gets a token** from the sample service, whatever the source of
revocations, as long as it does not list the administrator. -/
theorem exists_created {source : Revocation.Source} {store : Revocation.Store}
    (hrevoked : source.isRevoked store 1 = .ok false) :
    ∃ admin,
      ((sampleService source).handle 0 store sampleFresh (samplePost admin)).response.status =
        201 := by
  have hmore : ∀ token, announcedLength (sampleHeaders token ++ []) = none := by
    intro token
    rw [List.append_nil, announcedLength_sampleHeaders]
  obtain ⟨admin, token, hmints⟩ := mints_sample hrevoked hmore sampleFresh
  rw [List.append_nil] at hmints
  exact ⟨admin, hmints.dressed.status⟩

/-! ### Who mints tokens -/

/-- **Only administrators mint tokens**, at any service, at any time and over any store.

* A request is answered with 201, and a token is logged as issued, exactly when it mints one. The
  answer is that token then, there is a private key in the settings, and the request brings the live
  token of an administrator, who is the caller.
* A request that is not within the limit is answered with 413, and one that the gate turns away with
  401 or 503 as the failure has it. A caller on the token route whose request stops short is
  answered with the refusal of the stage, and there is no request but stops short or mints a token.
* Without a gate in front whoever asks for a handler is answered with 401, and anyone else with 404
  or 405. -/
theorem only_administrators_mint {settings : Settings} {source : Option Revocation.Source}
    (hservice : assemble settings source = .ok service) (now : Second) (store : Revocation.Store)
    (fresh : Fresh) (request : Request) :
    ((service.handle now store fresh request).response.status = 201 ↔
      ∃ caller issuer asked grants token,
        Mints service now fresh (service.passage now store fresh request).verdict request caller
          issuer asked grants token) ∧
    ((∃ id name, .tokenIssued id name ∈ (service.handle now store fresh request).events) ↔
      (service.handle now store fresh request).response.status = 201) ∧
    (∀ caller issuer asked grants token,
      Mints service now fresh (service.passage now store fresh request).verdict request caller
        issuer asked grants token →
      (service.handle now store fresh request).response.body =
        (issued service.gate.scheme token issuer.lifetime).body ∧
      (service.handle now store fresh request).events = [.tokenIssued asked.id caller.name] ∧
      settings.privateKey.isSome = true ∧
      ∃ raw who, BringsToken settings.headerName settings.scheme
          (numbered fresh request).1.headers raw ∧
        IsLiveAdministrator service.gate.screen now store raw who ∧ caller.IsHolder who) ∧
    (¬WithinLimit request.headers →
      (service.handle now store fresh request).response.status = 413) ∧
    (WithinLimit request.headers → ∀ failure,
      (service.passage now store fresh request).verdict = .error failure →
      (service.handle now store fresh request).response.status =
        (match failure.outward with
          | .unauthenticated => 401
          | .unavailable => 503)) ∧
    (WithinLimit request.headers → request.method = "POST" → request.path = "/api/v1/tokens" →
      ∀ caller, (service.passage now store fresh request).verdict = .ok caller →
        (∀ r, StopsShort service now fresh caller request.headers
            ⟨request.body, some (allowance request.headers)⟩ r →
          (service.handle now store fresh request).response.status = r.status ∧
          (service.handle now store fresh request).response.body = r.body.render) ∧
        ((∃ r, StopsShort service now fresh caller request.headers
            ⟨request.body, some (allowance request.headers)⟩ r) ∨
          (service.handle now store fresh request).response.status = 201)) ∧
    ∀ bare : Request, (service.handleBare bare).status =
      (match Route.ofInnerPath? bare.path with
        | none => 404
        | some place => if place.allows bare.method = true then 401 else 405) := by
  refine ⟨created_iff_mints, logged_iff_created, ?_, fun hlimit => ?_, ?_, ?_,
    service.status_handleBare_eq⟩
  · intro caller issuer asked grants token hmints
    have hkey : settings.privateKey.isSome = true := by
      rw [← isSome_issuer_of_assemble hservice, hmints.active]
      rfl
    exact ⟨hmints.dressed.body (by rw [hmints.method]; decide), hmints.dressed.events, hkey,
      exists_liveAdministrator hservice hmints.admitted hmints.admin⟩
  · exact (handle_dressed_of_not_withinLimit service now store fresh hlimit).status
  · intro hlimit failure hverdict
    rw [(handle_dressed_of_error hlimit hverdict).status, status_response]
    exact status_ofFailure service.gate.scheme failure
  · intro hlimit hmethod hpath caller hverdict
    exact ⟨fun r => refused_of_stopsShort hlimit hmethod hpath hverdict,
      stopsShort_or_created hlimit hmethod hpath hverdict⟩

/-- The sample service gives a token to whoever brings a live token of an administrator, and logs
it; and whoever asks for one without credentials gets 401. -/
theorem only_administrators_mint_sample :
    (∃ post raw who,
      ((sampleService (.fixed [])).handle 0 .empty sampleFresh post).response.status = 201 ∧
      (∃ id name, .tokenIssued id name ∈
        ((sampleService (.fixed [])).handle 0 .empty sampleFresh post).events) ∧
      IsLiveAdministrator (sampleService (.fixed [])).gate.screen 0 .empty raw who) ∧
    ((sampleService (.fixed [])).handle 0 .empty sampleFresh
      ⟨"POST", "/api/v1/tokens", [], sampleBody⟩).response.status = 401 := by
  have hservice : assemble sampleSettings (some (.fixed [])) = .ok (sampleService (.fixed [])) :=
    assemble_sampleSettings rfl
  have hmore : ∀ token, announcedLength (sampleHeaders token ++ []) = none := by
    intro token
    rw [List.append_nil, announcedLength_sampleHeaders]
  obtain ⟨admin, token, hmints⟩ := @mints_sample (.fixed []) .empty [] rfl hmore sampleFresh
  obtain ⟨hcreated, hlogged, hlive, -⟩ := only_administrators_mint hservice 0 .empty sampleFresh
    { samplePost admin with headers := sampleHeaders admin ++ [] }
  have hstatus := hcreated.mpr ⟨_, _, _, _, _, hmints⟩
  obtain ⟨-, -, -, raw, who, -, hwho, -⟩ := hlive _ _ _ _ _ hmints
  refine ⟨⟨_, raw, who, hstatus, hlogged.mpr hstatus, hwho⟩, ?_⟩
  have hlimit : WithinLimit [] := by
    intro length hlength
    cases hlength
  have hname : sampleSettings.headerName ≠ requestIdName := by decide
  have hmissing : (sampleService (.fixed [])).gate.withoutCredentials
      ⟨"POST", "/api/v1/tokens", []⟩ = .error .missingCredentials := by decide +kernel
  refine (only_administrators_mint hservice 0 .empty sampleFresh
    ⟨"POST", "/api/v1/tokens", [], sampleBody⟩).2.2.2.2.1 hlimit .missingCredentials ?_
  rw [@passage_eq (sampleService (.fixed [])) hname,
    Gate.pass_of_lacksCredentials (Or.inl (by simp [headOf]))]
  exact hmissing

/-- The number 2 to the power of 64 is no length: it is not read, so that an administrator who
announces as many bytes gets a token. It is **not so that the length which a request announces is
within the limit** wherever a token is minted. -/
theorem not_every_announced_length_within :
    assemble sampleSettings (some (.fixed [])) = .ok (sampleService (.fixed [])) ∧
      ¬∀ (request : Request) (length : Nat),
        request.headers.IsFirst "content-length" (Utf8.encode (Nat.toDigits 10 length)) →
        ((sampleService (.fixed [])).handle 0 .empty sampleFresh request).response.status = 201 →
        length ≤ 65536 := by
  refine ⟨assemble_sampleSettings rfl, fun hclaim => ?_⟩
  have hfirst : ∀ token, Http.Headers.IsFirst (sampleHeaders token ++
      [("content-length", Utf8.encode (Nat.toDigits 10 18446744073709551616))]) "content-length"
      (Utf8.encode (Nat.toDigits 10 18446744073709551616)) :=
    fun token => ⟨sampleHeaders token, [], rfl, by simp [sampleHeaders]⟩
  have hvalue : (Http.text? (Utf8.encode (Nat.toDigits 10 18446744073709551616))).bind
      (Text.readUnsigned 64) = none := by decide +kernel
  have hmore : ∀ token, announcedLength (sampleHeaders token ++
      [("content-length", Utf8.encode (Nat.toDigits 10 18446744073709551616))]) = none := by
    intro token
    rw [announcedLength, Http.Headers.text?, Http.Headers.first?_eq_some_iff.mpr (hfirst token)]
    exact hvalue
  obtain ⟨admin, token, hmints⟩ := @mints_sample (.fixed []) .empty _ rfl hmore sampleFresh
  exact absurd (hclaim _ _ (hfirst admin) hmints.dressed.status) (by decide)

end Service

end BearerGate
