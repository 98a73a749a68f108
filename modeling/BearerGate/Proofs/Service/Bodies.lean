import BearerGate.Proofs.Service.Minting
import BearerGate.Proofs.Service.Rejections

/-!
# Bodies without Influence

The body of a request and its content type reach the handler before it is known whether the caller
may ask for tokens. This module shows that nothing comes of it: unless the gate lets a request
through as an administrator, at a service that issues tokens, whatever is in the body, and whatever
the content type says of it, has no influence on the response, on what is logged and on what a
store is asked for. So this is a statement about two runs, in one world, on two requests that differ
in nothing else.

Each of the two requests may get a number of its own, and a gate may look for its credentials in
that very header. There the fresh numbers are what the gate sees, and all that is asked of them is
that they are no credentials: each is one visible text, as numbers are, and not the scheme.

## Main results

* `SameButBody.passage`: the passage through the gate is that of the rest of the request.
* `SameButBody.route`: the routes answer to the rest of the request, where there is no permission.
* `Service.bodies_without_permission`: bodies of callers without permission have no influence.
-/

namespace BearerGate

open Http (Request)

/-! ### Requests that differ in the body -/

/-- The first value of a header is the first of all its values. -/
theorem Http.Headers.first?_eq_head? (headers : Http.Headers) (name : String) :
    Http.Headers.first? headers name = (headers.valuesOf name).head? := by
  rw [first?, valuesOf, List.head?_map, List.head?_filter]

/-- Requests that are **the same but for the body**: they have one method, one path, and the same
values of every header other than the content type. -/
structure SameButBody (request other : Request) : Prop where
  method : request.method = other.method
  path : request.path = other.path
  headers : ∀ name, name ≠ "content-type" →
    request.headers.valuesOf name = other.headers.valuesOf name

/-- A fresh number is **no credential** at a gate: where the gate looks for credentials in the
header with the number, the number is a visible text other than the scheme. -/
def Gate.NoCredential (gate : Gate) (number : Bytes) : Prop :=
  gate.headerName = Service.requestIdName →
    ∃ text, Text.IsVisible text ∧ text ≠ gate.scheme.toList ∧ number = Utf8.encode text

/-- A request whose credentials are a visible text other than the scheme is **turned away**, and no
store is asked. -/
theorem Gate.pass_of_isVisible {gate : Gate} (now : Second) (store : Revocation.Store)
    {head : RequestHead} {text : List Char} (hvisible : Text.IsVisible text)
    (hscheme : text ≠ gate.scheme.toList)
    (h : head.headers.IsFirst gate.headerName (Utf8.encode text)) :
    (gate.pass now store head).verdict = .error .unsupportedScheme ∧
      (gate.pass now store head).lookups = [] := by
  have hplain : Http.IsPlain (Utf8.encode text) :=
    Http.isPlain_encode fun c hc => ⟨(Nat.le_succ _).trans (hvisible.2 c hc).1, (hvisible.2 c hc).2⟩
  have htext : Http.charsOf (Utf8.encode text) = text :=
    Http.charsOf_encode fun c hc => Nat.lt_of_le_of_lt (hvisible.2 c hc).2 (by decide)
  have hwords := Text.words_of_isWord hvisible.isWord
  have hblank : Text.isBlankText text = false := by
    rw [← Bool.not_eq_true, ← Text.words_eq_nil_iff, hwords]
    simp
  have hother : String.ofList text ≠ gate.scheme := by
    rintro heq
    rw [← heq, String.toList_ofList] at hscheme
    exact hscheme rfl
  have hstart : gate.start head = .credentialsPresent text :=
    start_eq_credentialsPresent_iff.mpr ⟨_, h, hplain, htext.symm, hblank⟩
  rw [pass, attempt_of_credentialsPresent hstart]
  simp only [withCredentials, hwords, hother, ne_eq, not_false_eq_true, if_true, and_self]

/-- A request that brings a number keeps it, and is not changed. -/
theorem Service.numbered_of_first?_eq_some {request : Request} {id : Bytes}
    (h : Http.Headers.first? request.headers requestIdName = some id) (fresh : Fresh) :
    (numbered fresh request).1 = request := by
  simp only [numbered, h]

/-- A request that brings no number has the fresh one as its number. -/
theorem Service.isFirst_numbered {request : Request}
    (h : Http.Headers.first? request.headers requestIdName = none) (fresh : Fresh) :
    (numbered fresh request).1.headers.IsFirst requestIdName fresh.number := by
  simp only [numbered, h]
  exact ⟨request.headers, [], rfl, Http.Headers.first?_eq_none_iff.mp h⟩

/-- A request without a number is turned away by a gate that looks for credentials where the number
is, and no store is asked. -/
theorem Service.passage_of_noCredential {service : Service} {request : Request} {fresh : Fresh}
    (hnumber : service.gate.headerName = requestIdName)
    (hnone : Http.Headers.first? request.headers requestIdName = none)
    (hfresh : service.gate.NoCredential fresh.number) (now : Second) (store : Revocation.Store) :
    (service.passage now store fresh request).verdict = .error .unsupportedScheme ∧
      (service.passage now store fresh request).lookups = [] := by
  obtain ⟨text, hvisible, hscheme, htext⟩ := hfresh hnumber
  refine Gate.pass_of_isVisible now store hvisible hscheme ?_
  rw [hnumber, ← htext]
  exact isFirst_numbered hnone fresh

namespace SameButBody

variable {request other : Request}

/-- The first value of every header other than the content type is the same. -/
theorem first? (h : SameButBody request other) {name : String} (hname : name ≠ "content-type") :
    Http.Headers.first? request.headers name = Http.Headers.first? other.headers name := by
  rw [Http.Headers.first?_eq_head?, Http.Headers.first?_eq_head?, h.headers name hname]

/-- The same length is announced. -/
theorem announcedLength (h : SameButBody request other) :
    Service.announcedLength request.headers = Service.announcedLength other.headers := by
  rw [Service.announcedLength, Service.announcedLength, Http.Headers.text?, Http.Headers.text?,
    h.first? (by decide)]

/-- Both requests are within the limit, or neither is. -/
theorem withinLimit_iff (h : SameButBody request other) :
    Service.WithinLimit request.headers ↔ Service.WithinLimit other.headers := by
  rw [Service.WithinLimit, Service.WithinLimit, h.announcedLength]

/-- As much may be read of one body as of the other. -/
theorem allowance (h : SameButBody request other) :
    Service.allowance request.headers = Service.allowance other.headers := by
  rw [Service.allowance, Service.allowance, h.announcedLength]

/-- The **passage through the gate** is that of the rest of the request: the verdict is the same,
and a store is asked for the same keys. -/
theorem passage (h : SameButBody request other) {service : Service}
    (hname : service.gate.headerName ≠ "content-type") {fresh fresh' : Service.Fresh}
    (hfresh : service.gate.NoCredential fresh.number)
    (hfresh' : service.gate.NoCredential fresh'.number) (now : Second) (store : Revocation.Store) :
    (service.passage now store fresh request).verdict =
        (service.passage now store fresh' other).verdict ∧
      (service.passage now store fresh request).lookups =
        (service.passage now store fresh' other).lookups := by
  have hpass : service.gate.pass now store (Service.headOf request) =
      service.gate.pass now store (Service.headOf other) :=
    Gate.pass_congr h.method h.path (h.first? hname)
  by_cases hnumber : service.gate.headerName = Service.requestIdName
  · cases hfirst : Http.Headers.first? request.headers Service.requestIdName with
    | some id =>
        have hfirst' := (h.first? (by decide)).symm.trans hfirst
        rw [Service.passage, Service.passage, Service.numbered_of_first?_eq_some hfirst,
          Service.numbered_of_first?_eq_some hfirst', hpass]
        exact ⟨rfl, rfl⟩
    | none =>
        have hfirst' := (h.first? (by decide)).symm.trans hfirst
        obtain ⟨hverdict, hlookups⟩ :=
          Service.passage_of_noCredential hnumber hfirst hfresh now store
        obtain ⟨hverdict', hlookups'⟩ :=
          Service.passage_of_noCredential hnumber hfirst' hfresh' now store
        rw [hverdict, hlookups, hverdict', hlookups']
        exact ⟨rfl, rfl⟩
  · rw [Service.passage_eq hnumber, Service.passage_eq hnumber, hpass]
    exact ⟨rfl, rfl⟩

end SameButBody

/-! ### Callers without permission -/

namespace Service

variable {service : Service} {now : Second} {store : Revocation.Store} {caller : Caller}

/-- A verdict gives **no permission** to ask for tokens: it turns the request away, or no tokens are
issued at all, or the caller that it lets through is no administrator. -/
def NoPermission (service : Service) (verdict : Except GateFailure Caller) : Prop :=
  (∃ failure, verdict = .error failure) ∨ service.issuer = none ∨
    ∃ caller, verdict = .ok caller ∧ "role-admin" ∉ caller.authorities

/-- The answer on the token route without permission is the same **for any body**, whatever its
headers. -/
theorem issueToken_congr_of_noPermission (h : service.NoPermission (.ok caller)) (now : Second)
    (fresh fresh' : Fresh) (headers headers' : Http.Headers) (body body' : Body) :
    service.issueToken now fresh caller headers body =
      service.issueToken now fresh' caller headers' body' := by
  rcases h with ⟨failure, hfailure⟩ | hnone | ⟨found, hfound, hadmin⟩
  · cases hfailure
  · rw [issueToken_of_noIssuer hnone, issueToken_of_noIssuer hnone]
  · cases hfound
    cases hissuer : service.issuer with
    | none => rw [issueToken_of_noIssuer hissuer, issueToken_of_noIssuer hissuer]
    | some issuer =>
        rw [issueToken_of_not_admin hissuer hadmin, issueToken_of_not_admin hissuer hadmin]

end Service

/-- The answer of the routes is the same for any body, if on the token route there is no
permission. -/
theorem SameButBody.route {request other : Request} (h : SameButBody request other)
    {service : Service} {caller : Caller}
    (hpermission : request.method = "POST" → request.path = "/api/v1/tokens" →
      service.NoPermission (.ok caller)) (now : Second) (fresh fresh' : Service.Fresh)
    (limit : Nat) :
    service.route now fresh caller request limit = service.route now fresh' caller other limit := by
  rw [Service.route, Service.route, h.path, h.method]
  cases hplace : Route.ofPath? other.path with
  | none => rfl
  | some place =>
      by_cases hallows : place.allows other.method = true
      · cases place with
        | health | profile => rfl
        | tokens =>
            have hmethod := List.mem_singleton.mp (Route.allows_eq_true_iff.mp hallows)
            simp only
            rw [Service.issueToken_congr_of_noPermission (hpermission (h.method.trans hmethod)
              (h.path.trans (Route.ofPath?_eq_some_iff.mp hplace))) now fresh fresh' request.headers
              other.headers ⟨request.body, some limit⟩ ⟨other.body, some limit⟩]
      · simp [hallows]

/-- What comes of a verdict is the same for any body, if on the token route it gives no
permission. -/
theorem SameButBody.afterGate {request other : Request} (h : SameButBody request other)
    {service : Service} {verdict : Except GateFailure Caller}
    (hpermission : request.method = "POST" → request.path = "/api/v1/tokens" →
      service.NoPermission verdict) (now : Second) (fresh fresh' : Service.Fresh) (limit : Nat) :
    service.afterGate now fresh request limit verdict =
      service.afterGate now fresh' other limit verdict := by
  cases verdict with
  | error failure => rw [Service.afterGate, Service.afterGate, h.method, h.path]
  | ok caller => exact h.route hpermission now fresh fresh' limit

namespace Service

variable {service : Service}

/-- Exchanges that **leave the same traces**: the responses look alike, the same is logged, and a
store is asked for the same keys. -/
structure SameTraces (exchange other : Exchange) : Prop where
  response : LookAlike exchange.response other.response
  events : exchange.events = other.events
  lookups : exchange.lookups = other.lookups

/-- The same exchange in the dress of requests to one place leaves the same traces. -/
theorem Dressed.sameTraces {request other : Request} {outer outer' inner : Exchange}
    (h : Dressed request outer inner) (h' : Dressed other outer' inner)
    (hmethod : request.method = other.method) (hpath : request.path = other.path) :
    SameTraces outer outer' where
  response := h.lookAlike h' hmethod hpath rfl
  events := h.events.trans h'.events.symm
  lookups := h.lookups.trans h'.lookups.symm

/-- **Bodies without permission have no influence.** Take a service that looks for credentials
anywhere but in the content type, and two requests in one world that are the same but for the body
and its content type. If the first asks for a token, and the gate turns it away, or no tokens are
issued, or the caller is no administrator, then the two are answered alike, the same is logged, and
the store is asked for the same keys, whatever the bodies are. So it is, too, if the requests ask
for anything else than a token. -/
theorem bodies_without_permission (service : Service)
    (hname : service.gate.headerName ≠ "content-type") (world : World)
    {request other : Request} (h : SameButBody request other) {fresh fresh' : Fresh}
    (hfresh : service.gate.NoCredential fresh.number)
    (hfresh' : service.gate.NoCredential fresh'.number)
    (hpermission : request.method = "POST" → request.path = "/api/v1/tokens" →
      service.NoPermission (service.passage world.now world.store fresh request).verdict) :
    SameTraces (service.handle world.now world.store fresh request)
      (service.handle world.now world.store fresh' other) := by
  by_cases hlimit : WithinLimit request.headers
  · have hdressed := handle_dressed_of_withinLimit service world.now world.store fresh hlimit
    have hdressed' := handle_dressed_of_withinLimit service world.now world.store fresh'
      (h.withinLimit_iff.mp hlimit)
    obtain ⟨hverdict, hlookups⟩ := h.passage hname hfresh hfresh' world.now world.store
    rw [← hverdict, ← hlookups, ← h.allowance,
      ← h.afterGate hpermission world.now fresh] at hdressed'
    exact hdressed.sameTraces hdressed' h.method h.path
  · have hlimit' : ¬WithinLimit other.headers := fun hother => hlimit (h.withinLimit_iff.mpr hother)
    have hdressed := handle_dressed_of_not_withinLimit service world.now world.store fresh hlimit
    have hdressed' := handle_dressed_of_not_withinLimit service world.now world.store fresh' hlimit'
    exact hdressed.sameTraces hdressed' h.method h.path

/-- A request for a token with a body that is said to be something else. -/
def samplePlainPost (token : String) : Request where
  method := "POST"
  path := "/api/v1/tokens"
  headers := [("authorization", Utf8.encode ("Bearer" ++ " " ++ token).toList),
    ("content-type", Utf8.encode "text/plain".toList)]
  body := Utf8.encode "?".toList

/-- The two sample requests are the same but for the body. -/
theorem sameButBody_sample (token : String) :
    SameButBody (samplePost token) (samplePlainPost token) where
  method := rfl
  path := rfl
  headers name hname := by
    simp [samplePost, sampleHeaders, samplePlainPost, Http.Headers.valuesOf, List.filter_cons,
      hname.symm]

/-- The holder of a token of the sample service who is no administrator asks for a token twice: with
a body that is in order, and with a text that is said to be something else. Both requests are
answered with 403, and for both the store is asked for the number of that token. -/
theorem bodies_without_permission_of_seven :
    ∃ request other : Request, SameButBody request other ∧ request.body ≠ other.body ∧
      SameTraces (sampleStoredService.handle 0 .empty sampleFresh request)
        (sampleStoredService.handle 0 .empty sampleFresh other) ∧
      (sampleStoredService.handle 0 .empty sampleFresh request).response.status = 403 ∧
      (sampleStoredService.handle 0 .empty sampleFresh request).lookups = ["auth:revoked:7"] := by
  obtain ⟨raw, hvisible, hverify⟩ := exists_token_of_seven
  have hname : sampleStoredService.gate.headerName ≠ requestIdName := by decide
  have hfresh : sampleStoredService.gate.NoCredential sampleFresh.number :=
    fun heq => absurd heq hname
  have hbrings := (bringsToken_sample hvisible).1
  have hseven : "role-admin" ∉ (Caller.ofIdentity seven).authenticate.authorities := by
    rw [← NameSet.contains_iff]
    decide
  have hverdict : (sampleStoredService.passage 0 .empty sampleFresh (samplePost raw)).verdict =
      .ok (Caller.ofIdentity seven).authenticate := by
    rw [passage_eq hname]
    exact Gate.verdict_eq_ok_iff.mpr (Or.inr ⟨raw, seven, hbrings, hverify, rfl, rfl⟩)
  have hlookups : (sampleStoredService.passage 0 .empty sampleFresh (samplePost raw)).lookups =
      ["auth:revoked:7"] := by
    have hasked : sampleStoredService.gate.screen.source.lookups seven.id = ["auth:revoked:7"] := by
      decide +kernel
    rw [passage_eq hname, Gate.lookups_of_bringsToken hbrings, Screen.run, hverify]
    exact hasked
  have hdressed := handle_dressed_of_ok (withinLimit_sampleHeaders raw) hverdict
  rw [route_tokens _ _ _ _ rfl rfl, issueToken_of_not_admin rfl hseven, hlookups] at hdressed
  have hsame := sameButBody_sample raw
  have hbodies : sampleBody ≠ Utf8.encode "?".toList := by decide +kernel
  exact ⟨samplePost raw, samplePlainPost raw, hsame, hbodies,
    bodies_without_permission sampleStoredService (by decide) ⟨0, .empty⟩ hsame hfresh hfresh
      fun _ _ => Or.inr (Or.inr ⟨_, hverdict, hseven⟩), hdressed.status, hdressed.lookups⟩

end Service

end BearerGate
