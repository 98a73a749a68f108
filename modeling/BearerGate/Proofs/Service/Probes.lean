import BearerGate.Proofs.Service.Refinement
import BearerGate.Proofs.Service.Rejections

/-!
# What a Rejected Caller Learns

The gate stands around every route and around the places where there is none, and refuses a request
without regard to either. So whoever is turned away could send requests with all methods to all
paths and would learn nothing about the routes, if the refusal were the last word. It is not: the
router outside the gate names the methods of a known path on any response there is to another
method. This module says that this is all that a rejected caller learns, and when that is something.

## Main results

* `Service.TurnedAway.headers`, `Service.TurnedAway.allow`: the fields of the refusal of a request,
  and the one that tells where there is a route.
* `Service.probes_learn_methods_only`: what two requests of a rejected caller have in common.
* `Service.not_every_probe_blind`: two of them can be told apart.
-/

namespace BearerGate

open Http (Request)

/-- A response without the fields of a name. -/
def Http.Response.without (response : Http.Response) (name : String) : Http.Response :=
  { response with headers := response.headers.filter fun field => field.1 ≠ name }

namespace Service

variable {service : Service} {world world' : World} {fresh fresh' : Fresh}
  {request other : Request} {kind : FailureClass}

/-! ### Fields -/

/-- No refusal names methods. -/
theorem ne_allow_of_mem_refusal {r : Refusal} {field : String × Bytes}
    (h : field ∈ r.response.headers) : field.1 ≠ "allow" := by
  rcases name_of_mem_refusal h with hname | hname <;> rw [hname] <;> decide

/-- The fields of a refusal, when methods have been added: those that name methods. -/
theorem filter_allow (r : Refusal) (method path : String) :
    ((r.response.headers ++ allowField method path).filter fun field => field.1 = "allow") =
      allowField method path := by
  have hrefusal : (r.response.headers.filter fun field => field.1 = "allow") = [] := by
    rw [List.filter_eq_nil_iff]
    exact fun field hfield => by simpa using ne_allow_of_mem_refusal hfield
  rw [List.filter_append, hrefusal, List.nil_append, List.filter_eq_self]
  exact fun field hfield => decide_eq_true (name_of_mem_allowField hfield)

/-- The fields of a refusal, when methods have been added: the others. -/
theorem filter_ne_allow (r : Refusal) (method path : String) :
    ((r.response.headers ++ allowField method path).filter fun field => field.1 ≠ "allow") =
      r.response.headers := by
  have hmethods : ((allowField method path).filter fun field => field.1 ≠ "allow") = [] := by
    rw [List.filter_eq_nil_iff]
    exact fun field hfield => by simpa using name_of_mem_allowField hfield
  rw [List.filter_append, hmethods, List.append_nil, List.filter_eq_self]
  exact fun field hfield => decide_eq_true (ne_allow_of_mem_refusal hfield)

/-! ### One request -/

/-- The refusal of all requests that are turned away in a class. -/
def refusalOf (service : Service) : FailureClass → Refusal
  | .unauthenticated => .unauthenticated service.gate.scheme
  | .unavailable => .unavailable

/-- A request that is turned away is answered with the **refusal of the class**, dressed. -/
theorem TurnedAway.exists_dressed (h : service.TurnedAway world fresh request kind) :
    ∃ inner, inner.response = (service.refusalOf kind).response ∧
      Dressed request (service.handle world.now world.store fresh request) inner := by
  obtain ⟨failure, inner, hkind, hinner, hdressed⟩ := h.dressed
  refine ⟨inner, ?_, hdressed⟩
  rw [hinner, Refusal.ofFailure, hkind]
  cases kind <;> rfl

/-- But for the number, the fields of the answer are those of the refusal, and the methods of the
path where the method is foreign. -/
theorem TurnedAway.headers (h : service.TurnedAway world fresh request kind) :
    ((service.responseTo world fresh request).headers.filter fun field =>
        field.1 ≠ "x-request-id") =
      (service.refusalOf kind).response.headers ++ allowField request.method request.path := by
  obtain ⟨inner, hinner, hdressed⟩ := h.exists_dressed
  have hnumber : ∀ field ∈ inner.response.headers, field.1 ≠ "x-request-id" := by
    rw [hinner]
    exact fun field => ne_requestIdName_of_mem_refusal
  rw [responseTo, hdressed.filter_headers hnumber, hinner]

/-- The field that names methods is known from its value. -/
theorem allowField_eq_map (method path : String) :
    allowField method path = ((allowField method path).map (·.2)).map fun value =>
      ("allow", value) := by
  rw [List.map_map]
  conv_lhs => rw [← List.map_id (allowField method path)]
  exact List.map_congr_left fun field hfield => Prod.ext (name_of_mem_allowField hfield) rfl

/-- The answer to a request that is turned away **names methods** as any answer does. -/
theorem TurnedAway.allow (h : service.TurnedAway world fresh request kind) :
    (service.responseTo world fresh request).headers.valuesOf "allow" =
      (allowField request.method request.path).map (·.2) := by
  obtain ⟨inner, hinner, hdressed⟩ := h.exists_dressed
  obtain ⟨id, hheaders⟩ := hdressed.headers
  rw [responseTo, hheaders, hinner, Http.Headers.valuesOf, List.filter_append, filter_allow]
  simp

/-- Whoever **lacks credentials** is turned away wherever they are needed. -/
theorem turnedAway_of_lacksCredentials (hname : service.gate.headerName ≠ requestIdName)
    (hlimit : WithinLimit request.headers)
    (hlacks : LacksCredentials service.gate.headerName request.headers)
    (hneeded : service.gate.isOptional (headOf request) = false) :
    service.TurnedAway world fresh request .unauthenticated where
  within := hlimit
  failure := by
    refine ⟨.missingCredentials, ?_, rfl⟩
    rw [passage_eq hname, Gate.pass_of_lacksCredentials hlacks, Gate.withoutCredentials, hneeded,
      if_neg (by decide)]

/-! ### Two requests -/

/-- But for methods, refusals in one class **look alike**, on all paths and to all methods, if a
body is sent with both or with neither. -/
theorem TurnedAway.lookAlike_without_allow (h : service.TurnedAway world fresh request kind)
    (h' : service.TurnedAway world' fresh' other kind)
    (hhead : request.method = "HEAD" ↔ other.method = "HEAD") :
    LookAlike ((service.responseTo world fresh request).without "allow")
      ((service.responseTo world' fresh' other).without "allow") := by
  obtain ⟨inner, hinner, hdressed⟩ := h.exists_dressed
  obtain ⟨inner', hinner', hdressed'⟩ := h'.exists_dressed
  have hsame : inner.response = inner'.response := hinner.trans hinner'.symm
  refine ⟨?_, ?_, ?_⟩
  · exact (hdressed.status.trans (by rw [hsame])).trans hdressed'.status.symm
  · by_cases hmethod : other.method = "HEAD"
    · exact (hdressed.empty (hhead.mpr hmethod)).trans (hdressed'.empty hmethod).symm
    · have hmethod' : request.method ≠ "HEAD" := fun heq => hmethod (hhead.mp heq)
      exact ((hdressed.body hmethod').trans (by rw [hsame])).trans (hdressed'.body hmethod).symm
  · rw [Http.Response.without, Http.Response.without, List.filter_comm, h.headers,
      filter_ne_allow, List.filter_comm, h'.headers, filter_ne_allow]

/-- Refusals in one class look alike exactly when they name **the same methods**. -/
theorem TurnedAway.lookAlike_iff (h : service.TurnedAway world fresh request kind)
    (h' : service.TurnedAway world' fresh' other kind)
    (hhead : request.method = "HEAD" ↔ other.method = "HEAD") :
    LookAlike (service.responseTo world fresh request) (service.responseTo world' fresh' other) ↔
      allowField request.method request.path = allowField other.method other.path := by
  have halike := h.lookAlike_without_allow h' hhead
  constructor
  · intro hlook
    have hheaders := hlook.headers
    rw [h.headers, h'.headers] at hheaders
    exact List.append_cancel_left hheaders
  · intro hmethods
    exact ⟨halike.status, halike.body, by rw [h.headers, h'.headers, hmethods]⟩

/-- **A rejected caller learns methods only.** Take two requests to one service, at any times and
over any stores, with any methods, paths, headers and bodies, both or neither of them with the
method HEAD. If the gate turns both away in one class, the responses look alike, but for the field
that names the methods of a known path where the method is foreign. So they look alike if neither
request asks a known path with a foreign method, whether there is a route for it or not; and they
look alike exactly when that field is the same in both. -/
theorem probes_learn_methods_only (service : Service) :
    (∀ kind world world' fresh fresh' request other,
      service.TurnedAway world fresh request kind → service.TurnedAway world' fresh' other kind →
      (request.method = "HEAD" ↔ other.method = "HEAD") →
      LookAlike ((service.responseTo world fresh request).without "allow")
        ((service.responseTo world' fresh' other).without "allow") ∧
      (¬IsForeign request → ¬IsForeign other →
        LookAlike (service.responseTo world fresh request)
          (service.responseTo world' fresh' other)) ∧
      (LookAlike (service.responseTo world fresh request)
          (service.responseTo world' fresh' other) ↔
        (service.responseTo world fresh request).headers.valuesOf "allow" =
          (service.responseTo world' fresh' other).headers.valuesOf "allow")) ∧
    ∀ kind world fresh request, service.TurnedAway world fresh request kind →
      (¬IsForeign request →
        (service.responseTo world fresh request).headers.valuesOf "allow" = []) ∧
      ∀ place : Route, request.path = place.path → place.allows request.method = false →
        (service.responseTo world fresh request).headers.valuesOf "allow" =
          [Utf8.encode (Text.joinWith [','] (place.methods.map (·.toList)))] := by
  refine ⟨fun kind world world' fresh fresh' request other h h' hhead => ⟨?_, ?_, ?_⟩,
    fun kind world fresh request h => ⟨fun hown => ?_, fun place hpath hforeign => ?_⟩⟩
  · exact h.lookAlike_without_allow h' hhead
  · intro hown hown'
    rw [h.lookAlike_iff h' hhead, allowField_eq_nil_iff.mpr hown, allowField_eq_nil_iff.mpr hown']
  · rw [h.lookAlike_iff h' hhead, h.allow, h'.allow]
    refine ⟨fun heq => by rw [heq], fun heq => ?_⟩
    rw [allowField_eq_map, heq, ← allowField_eq_map]
  · rw [h.allow, allowField_eq_nil_iff.mpr hown, List.map_nil]
  · rw [h.allow, hpath, allowField_path, hforeign, if_neg (by decide), List.map_singleton]

/-- The sample service turns away whoever comes without a header to where credentials are needed. -/
theorem turnedAway_sampleService {method path : String}
    (hneeded : (sampleService (.fixed [])).gate.isOptional ⟨method, path, []⟩ = false)
    (world : World) (fresh : Fresh) (body : Bytes) :
    (sampleService (.fixed [])).TurnedAway world fresh ⟨method, path, [], body⟩
      .unauthenticated := by
  have hlimit : WithinLimit (⟨method, path, [], body⟩ : Request).headers := by
    intro length hlength
    cases hlength
  exact turnedAway_of_lacksCredentials (by decide) hlimit (Or.inl (by simp)) hneeded

/-- At the sample service a profile that is asked for without credentials looks like a path that is
not there; but the token route says that it takes POST. -/
theorem probes_learn_methods_only_sample :
    LookAlike
      ((sampleService (.fixed [])).responseTo ⟨0, .empty⟩ sampleFresh ⟨"GET", "/api/v1/me", [], []⟩)
      ((sampleService (.fixed [])).responseTo ⟨7, .empty⟩ sampleFresh
        ⟨"PUT", "/nowhere", [], [0x78]⟩) ∧
    ((sampleService (.fixed [])).responseTo ⟨0, .empty⟩ sampleFresh
      ⟨"PATCH", "/api/v1/tokens", [], []⟩).headers.valuesOf "allow" =
        [Utf8.encode "POST".toList] := by
  have hprofile := @turnedAway_sampleService "GET" "/api/v1/me" (by decide +kernel)
    ⟨0, .empty⟩ sampleFresh []
  have hnowhere := @turnedAway_sampleService "PUT" "/nowhere" (by decide +kernel)
    ⟨7, .empty⟩ sampleFresh [0x78]
  have htokens := @turnedAway_sampleService "PATCH" "/api/v1/tokens" (by decide +kernel)
    ⟨0, .empty⟩ sampleFresh []
  obtain ⟨htwo, hone⟩ := probes_learn_methods_only (sampleService (.fixed []))
  refine ⟨(htwo _ _ _ _ _ _ _ hprofile hnowhere (by decide)).2.1 ?_ ?_,
    (hone _ _ _ _ htokens).2 .tokens rfl (by decide)⟩
  · rw [← allowField_eq_nil_iff]
    decide
  · rw [← allowField_eq_nil_iff]
    decide

/-- **Not every probe is blind.** Whoever asks without credentials to delete the health route, and
to delete what is not there, is turned away from both and can tell them apart. -/
theorem not_every_probe_blind :
    assemble sampleSettings (some (.fixed [])) = .ok (sampleService (.fixed [])) ∧
    (sampleService (.fixed [])).TurnedAway ⟨0, .empty⟩ sampleFresh ⟨"DELETE", "/health", [], []⟩
      .unauthenticated ∧
    (sampleService (.fixed [])).TurnedAway ⟨0, .empty⟩ sampleFresh ⟨"DELETE", "/nowhere", [], []⟩
      .unauthenticated ∧
    ¬LookAlike
      ((sampleService (.fixed [])).responseTo ⟨0, .empty⟩ sampleFresh ⟨"DELETE", "/health", [], []⟩)
      ((sampleService (.fixed [])).responseTo ⟨0, .empty⟩ sampleFresh
        ⟨"DELETE", "/nowhere", [], []⟩) := by
  have hhealth := @turnedAway_sampleService "DELETE" "/health" (by decide +kernel)
    ⟨0, .empty⟩ sampleFresh []
  have hnowhere := @turnedAway_sampleService "DELETE" "/nowhere" (by decide +kernel)
    ⟨0, .empty⟩ sampleFresh []
  refine ⟨assemble_sampleSettings rfl, hhealth, hnowhere, fun halike => ?_⟩
  have hmethods := (hhealth.lookAlike_iff hnowhere (by decide)).mp halike
  exact absurd hmethods (by decide)

end Service

end BearerGate
