import BearerGate.Proofs.Service.Minting
import BearerGate.Proofs.Token.Soundness

/-!
# From the Token Route to the Profile Route

A token that the service answers is one that the service admits. What has been asked for on the
token route, the user name in whatever characters and the grants in whatever spelling, is what the
profile route tells to whoever brings the token: the name, trimmed, and the names of the roles,
each once and in order. The answers are read as JSON here, as a client reads them.

## Main results

* `Service.created_of_handle`: what lies behind an answer with a token.
* `Service.profile_of_handle`: what whoever brings a token is told on the profile route.
* `Service.issued_token_admits`: the token that was answered is admitted as what was asked for.
-/

namespace BearerGate

open Json
open Http (Request)

/-! ### Answers as JSON -/

/-- The answer with a token names the token and its lifetime. -/
theorem Service.hasMembers_issued (scheme token : String) (lifetime : Nat) :
    HasText (Utf8.encode (issued scheme token lifetime).body) "token" token ∧
      HasText (Utf8.encode (issued scheme token lifetime).body) "token_type" scheme ∧
      HasInt (Utf8.encode (issued scheme token lifetime).body) "expires_in" lifetime := by
  have hintegers : (Value.object [("token", .text token), ("token_type", .text scheme),
      ("expires_in", .int lifetime)]).HasIntegers := by
    refine .object fun m hm => ?_
    simp only [List.mem_cons, List.not_mem_nil, or_false] at hm
    rcases hm with rfl | rfl | rfl
    · exact .text _
    · exact .text _
    · exact .int _
  have hobject := isObject_render hintegers
  refine ⟨⟨_, hobject, ?_⟩, ⟨_, hobject, ?_⟩, ⟨_, .ofInt lifetime, hobject, ?_, Number.int?_ofInt _⟩⟩
  · simp [valuesNamed_membersOf, Value.tokens]
  · simp [valuesNamed_membersOf, Value.tokens]
  · simp [valuesNamed_membersOf, Value.tokens, Value.int]

/-- The description of a caller names the caller, the authorities, and whether it is anonymous. -/
theorem Service.hasMembers_describe (caller : Caller) :
    HasText (Utf8.encode (describe caller).render) "name" caller.name ∧
      HasTexts (Utf8.encode (describe caller).render) "authorities"
        caller.authorities.toList ∧
      HasBool (Utf8.encode (describe caller).render) "anonymous" caller.isAnonymous := by
  have hintegers : (describe caller).HasIntegers := by
    refine .object fun m hm => ?_
    simp only [List.mem_cons, List.not_mem_nil, or_false] at hm
    rcases hm with rfl | rfl | rfl
    · exact .text _
    · exact .texts _
    · exact .bool _
  have hobject := isObject_render hintegers
  refine ⟨⟨_, hobject, ?_⟩, ⟨_, hobject, ?_⟩, ⟨_, hobject, ?_⟩⟩
  · simp [valuesNamed_membersOf, Value.tokens]
  · simp [valuesNamed_membersOf, tokens_texts]
  · simp [valuesNamed_membersOf, Value.tokens]

/-- The **times in an issued token**: it has three parts, the second of which names the time of
issue and, by the lifetime later, that of expiry. -/
theorem Issuer.times_of_issue {issuer : Issuer} {now : Second} {draw : Nat} {who : Identity}
    {raw : String} (h : issuer.issue now draw who = .ok raw) :
    ∃ header payload signature bytes, Text.splitAt '.' raw.toList = [header, payload, signature] ∧
      Base64.decode? Base64.url payload = some bytes ∧ HasInt bytes "iat" now ∧
      HasInt bytes "exp" (now + issuer.lifetime : Nat) := by
  obtain ⟨expires, hexpires, signature, hsign, rfl⟩ := issue_eq_ok_iff.mp h
  have hobject := Claims.isObject_render who now.signed expires
  have htoken := Compact.ofText?_text
    (c := { issuer.unsigned now expires who with signature := Compact.encodePart signature })
    (Compact.dot_not_mem_encodePart _) (Compact.dot_not_mem_encodePart _)
  rw [String.toList_ofList]
  refine ⟨_, _, _, _, Compact.splitAt_of_decodePart? htoken (Compact.decodePart?_encodePart _),
    Compact.decodePart?_encodePart _, ⟨_, .ofInt now, hobject, ?_, Number.int?_ofInt _⟩,
    ⟨_, .ofInt (now + issuer.lifetime : Nat), hobject, ?_, Number.int?_ofInt _⟩⟩
  · simp [valuesNamed_membersOf, Claims.written, Claims.members, Value.tokens, Value.int]
  · simp [valuesNamed_membersOf, Claims.written, Claims.members, Value.tokens, Value.int, hexpires]

/-! ### What is asked for -/

/-- The name of a request that is in order has at most 256 bytes. -/
theorem TokenRequest.size_le_of_complaint? {asked : TokenRequest} (h : asked.complaint? = none) :
    Utf8.size asked.username.toList ≤ 256 := by
  rw [complaint?] at h
  split at h
  · cases h
  · split at h
    · cases h
    · next hsize => exact Nat.not_lt.mp hsize

/-- The grants of a token are the names of the roles that were asked for. -/
theorem Service.mem_grants_identityOf {asked : TokenRequest} {grants : List String}
    (h : asked.grantNames = .ok grants) {name : String} :
    name ∈ (identityOf asked grants).grants ↔
      ∃ text ∈ asked.grants, Role.resolve text = some name := by
  rw [TokenRequest.grantNames] at h
  cases hall : Role.resolveAll asked.grants with
  | error text =>
      rw [hall] at h
      cases h
  | ok names =>
      rw [hall] at h
      cases h
      rw [identityOf, NameSet.mem_ofList, Role.mem_of_resolveAll hall]

/-! ### The two routes -/

namespace Service

variable {service : Service} {now : Second} {store : Revocation.Store} {fresh : Fresh}
  {request : Request}

/-- What lies **behind an answer with a token**: the body was read as a request in order, and the
token was issued for it. -/
theorem created_of_handle (hmethod : request.method = "POST")
    (hpath : request.path = "/api/v1/tokens")
    (h : (service.handle now store fresh request).response.status = 201) :
    ∃ issuer asked grants token, service.issuer = some issuer ∧
      TokenRequest.read request.body = .ok asked ∧ asked.complaint? = none ∧
      asked.grantNames = .ok grants ∧
      issuer.issue now fresh.draw (identityOf asked grants) = .ok token ∧
      (service.handle now store fresh request).response.body =
        (issued service.gate.scheme token issuer.lifetime).body := by
  by_cases hlimit : WithinLimit request.headers
  · cases hverdict : (service.passage now store fresh request).verdict with
    | error failure =>
        rw [(handle_dressed_of_error hlimit hverdict).status, status_response,
          status_ofFailure] at h
        split at h <;> cases h
    | ok caller =>
        have hdressed := handle_dressed_of_ok hlimit hverdict
        rw [route_tokens service now fresh caller hmethod hpath] at hdressed
        rw [hdressed.status] at h
        obtain ⟨issuer, asked, grants, token, hearns⟩ := earns_of_created h
        have hbody := hdressed.body (by rw [hmethod]; decide)
        rw [hearns.answer] at hbody
        exact ⟨issuer, asked, grants, token, hearns.active, hearns.read, hearns.inOrder,
          hearns.known, hearns.made, hbody⟩
  · rw [(handle_of_not_withinLimit service now store fresh hlimit).status] at h
    cases h

/-- What whoever brings a token is **told on the profile route**, if the token is screened and
found in order. -/
theorem profile_of_handle (fresh : Fresh) (hmethod : request.method = "GET")
    (hpath : request.path = "/api/v1/me") (hlimit : WithinLimit request.headers) {raw : String}
    (hbrings : BringsToken service.gate.headerName service.gate.scheme request.headers raw)
    {who : Identity} (hcheck : service.gate.screen.check now store raw = .ok who) :
    (service.handle now store fresh request).response.status = 200 ∧
      (service.handle now store fresh request).response.body =
        (describe (Caller.ofIdentity who).authenticate).render := by
  obtain ⟨inner, hsame, houtcome⟩ := handle_of_bringsToken service now store fresh hlimit hbrings
  have hroute : (service.route now fresh (Caller.ofIdentity who).authenticate inner
      (allowance request.headers)).response =
        (profile (Caller.ofIdentity who).authenticate).response := by
    rw [route, hsame.path, hsame.method, hpath, hmethod]
    rfl
  rw [hcheck, Gate.judge, afterGate] at houtcome
  refine ⟨?_, ?_⟩
  · rw [houtcome.status, Answer.after, hroute]
    rfl
  · rw [houtcome.body (by rw [hmethod]; decide), Answer.after, hroute]
    rfl

end Service

/-! ### From one route to the other -/

/-- The keys of settings **match**, if both load. -/
def Settings.KeysMatch (settings : Settings) : Prop :=
  ∀ ⦃material signing verification⦄, settings.privateKey = some material →
    SigningKey.load settings.algorithm material = .ok signing →
    VerificationKey.load settings.algorithm settings.publicKey = .ok verification →
    signing.Matches verification

namespace Service

variable {settings : Settings} {source : Option Revocation.Source} {service : Service}

/-- What a service with matching keys **issues, its gate verifies**, at a time from the leeway
on. -/
theorem verify_of_assemble (hservice : assemble settings source = .ok service)
    (hkeys : settings.KeysMatch) {issuer : Issuer} (hissuer : service.issuer = some issuer)
    {issuedAt now : Second} {draw : Nat} {who : Identity} {raw : String}
    (hissue : issuer.issue issuedAt draw who = .ok raw)
    (hname : Utf8.size who.username.toList ≤ 256)
    (hgrants : ∀ grant ∈ who.grants, ∃ role : Role, grant = role.name)
    (hstart : settings.leeway ≤ now) (hissued : issuedAt.toNat ≤ now + settings.leeway)
    (hexpires : now ≤ issuedAt + settings.lifetime + settings.leeway) :
    service.gate.screen.verifier.verify now raw = .ok who := by
  obtain ⟨hgate, hbuilt⟩ := assemble_eq_ok_iff.mp hservice
  obtain ⟨verifier, checker, hverifier, -, -, heq⟩ := buildGate_eq_ok_iff.mp hgate
  obtain ⟨verification, hverification, hparts⟩ := Verifier.load_eq_ok_iff.mp hverifier
  rw [hissuer] at hbuilt
  obtain ⟨material, signing, hmaterial, hsigning, rfl⟩ := buildIssuer_eq_ok_some hbuilt
  have halgorithm : settings.algorithm = verifier.algorithm := by rw [hparts]
  have hmatch : signing.Matches verifier.key := by
    rw [hparts]
    exact hkeys hmaterial hsigning hverification
  have hleeway : verifier.leeway = settings.leeway := by rw [hparts]
  have hresolve : ∀ grant ∈ who.grants, verifier.resolve grant = some grant := by
    intro grant hgrant
    obtain ⟨role, rfl⟩ := hgrants grant hgrant
    have hresolver : verifier.resolve = Role.resolve := by rw [hparts]
    rw [hresolver, Role.resolve_name]
  rw [heq]
  rw [← hleeway] at hstart hissued hexpires
  exact Verifier.verify_of_issue halgorithm hmatch hissue
    (Issuer.size_le_of_issue hissue hname hgrants) hresolve hstart hissued hexpires

/-! ### The sample keys -/

/-- The keys of the sample settings match. -/
theorem keysMatch_sampleSettings : sampleSettings.KeysMatch := by
  intro material signing verification hmaterial hsigning hverification
  have htext : material = samplePrivateText := (Option.some.inj hmaterial).symm
  have hload : SigningKey.load .rs256 material = .ok signing := hsigning
  have hloaded : VerificationKey.load .rs256 samplePublicText = .ok verification := hverification
  rw [htext, load_samplePrivateText, Except.ok.injEq] at hload
  rw [load_samplePublicText, Except.ok.injEq] at hloaded
  rw [← hload, ← hloaded]
  exact @samplePair_matches

/-! ### The token that was answered -/

/-- **The token that was answered is admitted as what was asked for.** Let a service have matching
keys and a visible scheme. Whenever a request on the token route is answered with 201, its body
was read as a request for a token, the answer names a token of at most 8192 bytes and the lifetime
of tokens, and the token expires by that lifetime after it was issued. Whoever brings it to the
profile route with the scheme before it, by a clock from the leeway on and not too long before the
issue or after the expiry, and while its number is known not to have been revoked, is told the name
that was asked for, trimmed, and in order and once each the names of the roles that were asked for.
Only a request that announces more than 65536 bytes is refused, for its length, as any other would
be. -/
theorem issued_token_admits (hservice : assemble settings source = .ok service)
    (hkeys : settings.KeysMatch) (hscheme : Text.IsVisible settings.scheme.toList)
    {issuedAt : Second} {storeThen : Revocation.Store} {freshThen : Fresh} {post : Request}
    (hmethod : post.method = "POST") (hpath : post.path = "/api/v1/tokens")
    (hcreated : (service.handle issuedAt storeThen freshThen post).response.status = 201) :
    ∃ asked token, TokenRequest.read post.body = .ok asked ∧
      HasText (Utf8.encode (service.handle issuedAt storeThen freshThen post).response.body)
        "token" token ∧
      HasInt (Utf8.encode (service.handle issuedAt storeThen freshThen post).response.body)
        "expires_in" settings.lifetime ∧
      Utf8.size token.toList ≤ 8192 ∧
      (∃ header payload signature bytes iat exp,
        Text.splitAt '.' token.toList = [header, payload, signature] ∧
        Base64.decode? Base64.url payload = some bytes ∧ HasInt bytes "iat" iat ∧
        HasInt bytes "exp" exp ∧ exp - iat = settings.lifetime) ∧
      ∀ (now : Second) (store : Revocation.Store) (fresh : Fresh) (get : Request),
        get.method = "GET" → get.path = "/api/v1/me" →
        get.headers.IsFirst settings.headerName
          (Utf8.encode (settings.scheme ++ " " ++ token).toList) →
        settings.leeway ≤ now → issuedAt.toNat ≤ now + settings.leeway →
        now ≤ issuedAt + settings.lifetime + settings.leeway →
        service.gate.screen.source.isRevoked store asked.id = .ok false →
        (WithinLimit get.headers →
          (service.handle now store fresh get).response.status = 200 ∧
          HasText (Utf8.encode (service.handle now store fresh get).response.body) "name"
            (String.ofList (Text.trim asked.username.toList)) ∧
          (∃ names, HasTexts (Utf8.encode (service.handle now store fresh get).response.body)
              "authorities" names ∧
            names.Pairwise (· < ·) ∧
            ∀ name, name ∈ names ↔ ∃ text ∈ asked.grants, Role.resolve text = some name) ∧
          HasBool (Utf8.encode (service.handle now store fresh get).response.body) "anonymous"
            false) ∧
        (¬WithinLimit get.headers →
          (service.handle now store fresh get).response.status = 413) := by
  obtain ⟨issuer, asked, grants, token, hissuer, hread, hcomplaint, hgrants, hissue, hbody⟩ :=
    created_of_handle hmethod hpath hcreated
  have hgate := (assemble_eq_ok_iff.mp hservice).1
  have hbuilt := (assemble_eq_ok_iff.mp hservice).2
  obtain ⟨verifier, checker, -, -, -, hparts⟩ := buildGate_eq_ok_iff.mp hgate
  have hlifetime : issuer.lifetime = settings.lifetime := by
    rw [hissuer] at hbuilt
    obtain ⟨material, signing, -, -, rfl⟩ := buildIssuer_eq_ok_some hbuilt
    rfl
  have hname : Utf8.size (identityOf asked grants).username.toList ≤ 256 := by
    rw [identityOf, String.toList_ofList]
    exact Nat.le_trans (Utf8.size_le_of_sublist (Text.trim_sublist _))
      (TokenRequest.size_le_of_complaint? hcomplaint)
  have hroles : ∀ grant ∈ (identityOf asked grants).grants, ∃ role : Role, grant = role.name := by
    intro grant hgrant
    obtain ⟨text, -, htext⟩ := (mem_grants_identityOf hgrants).mp hgrant
    obtain ⟨role, -, rfl⟩ := Role.resolve_eq_some_iff.mp htext
    exact ⟨role, rfl⟩
  obtain ⟨htoken, -, hexpires⟩ := hasMembers_issued service.gate.scheme token issuer.lifetime
  obtain ⟨header, payload, signature, bytes, hsplit, hdecode, hiat, hexp⟩ :=
    Issuer.times_of_issue hissue
  rw [← hbody] at htoken hexpires
  rw [hlifetime] at hexpires hexp
  refine ⟨asked, token, hread, htoken, hexpires, Issuer.size_le_of_issue hissue hname hroles,
    ⟨header, payload, signature, bytes, _, _, hsplit, hdecode, hiat, hexp, by omega⟩, ?_⟩
  intro now store fresh get hget hme hfirst hstart hissued hexpired hrevoked
  refine ⟨fun hlimit => ?_, fun hlimit => ?_⟩
  · have hverify :=
      verify_of_assemble hservice hkeys hissuer hissue hname hroles hstart hissued hexpired
    have hbrings : BringsToken service.gate.headerName service.gate.scheme get.headers token := by
      rw [hparts]
      exact bringsToken_of_isVisible hscheme (Issuer.isVisible_of_issue hissue) hfirst
    obtain ⟨hstatus, hprofile⟩ := profile_of_handle fresh hget hme hlimit hbrings
      (Screen.check_eq_ok_iff.mpr ⟨hverify, hrevoked⟩)
    obtain ⟨hnamed, hauthorities, hanonymous⟩ :=
      hasMembers_describe (Caller.ofIdentity (identityOf asked grants)).authenticate
    rw [hprofile]
    exact ⟨hstatus, hnamed, ⟨_, hauthorities, NameSet.increasing _,
      fun name => mem_grants_identityOf hgrants⟩, hanonymous⟩
  · rw [(handle_of_not_withinLimit service now store fresh hlimit).status]
    rfl

/-- The sample service tells whoever brings the token that was answered the name that was asked
for, without the blanks around it. -/
theorem issued_token_admits_ada :
    ∃ post get,
      ((sampleService (.fixed [])).handle 0 .empty sampleFresh post).response.status = 201 ∧
      ((sampleService (.fixed [])).handle 0 .empty sampleFresh get).response.status = 200 ∧
      HasText
        (Utf8.encode ((sampleService (.fixed [])).handle 0 .empty sampleFresh get).response.body)
        "name" "ada" := by
  obtain ⟨admin, hcreated⟩ := @exists_created (.fixed []) .empty rfl
  obtain ⟨asked, token, hread, -, -, -, -, hadmits⟩ :=
    issued_token_admits (assemble_sampleSettings rfl) keysMatch_sampleSettings
      isVisible_bearer rfl rfl hcreated
  have hasked : TokenRequest.read sampleBody = .ok sampleAsked := by decide +kernel
  have hlimit := withinLimit_sampleHeaders token
  obtain ⟨hstatus, hname, -⟩ := (hadmits 0 .empty sampleFresh
    ⟨"GET", "/api/v1/me", sampleHeaders token, []⟩ rfl rfl ⟨[], _, rfl, by simp⟩ (Nat.zero_le _)
    (Nat.zero_le _) (Nat.zero_le _) rfl).1 hlimit
  have hequal : asked = sampleAsked := by
    rw [samplePost, hasked, Except.ok.injEq] at hread
    exact hread.symm
  have htrim : String.ofList (Text.trim sampleAsked.username.toList) = "ada" := by decide +kernel
  rw [hequal, htrim] at hname
  exact ⟨samplePost admin, _, hcreated, hstatus, hname⟩

/-- Who has a token but announces 70000 bytes is **refused for the length**: without a condition on
that, it is not so that every token that was answered is admitted. -/
theorem not_every_issued_token_admits :
    assemble sampleSettings (some (.fixed [])) = .ok (sampleService (.fixed [])) ∧
      sampleSettings.KeysMatch ∧ Text.IsVisible sampleSettings.scheme.toList ∧
      ¬∀ post : Request, post.method = "POST" → post.path = "/api/v1/tokens" →
        ((sampleService (.fixed [])).handle 0 .empty sampleFresh post).response.status = 201 →
        ∃ token, HasText
            (Utf8.encode
              ((sampleService (.fixed [])).handle 0 .empty sampleFresh post).response.body)
            "token" token ∧
          ∀ get : Request, get.method = "GET" → get.path = "/api/v1/me" →
            get.headers.IsFirst sampleSettings.headerName
              (Utf8.encode (sampleSettings.scheme ++ " " ++ token).toList) →
            ((sampleService (.fixed [])).handle 0 .empty sampleFresh get).response.status =
              200 := by
  refine ⟨assemble_sampleSettings rfl, keysMatch_sampleSettings, isVisible_bearer, ?_⟩
  intro hclaim
  obtain ⟨admin, hcreated⟩ := @exists_created (.fixed []) .empty rfl
  obtain ⟨token, -, hadmits⟩ := hclaim (samplePost admin) rfl rfl hcreated
  have hget := hadmits ⟨"GET", "/api/v1/me", sampleLongHeaders token, []⟩ rfl rfl
    ⟨[], _, rfl, by simp⟩
  have hlimit := not_withinLimit_sampleLongHeaders token
  rw [(handle_of_not_withinLimit _ _ _ _ hlimit).status] at hget
  cases hget

end Service

end BearerGate
