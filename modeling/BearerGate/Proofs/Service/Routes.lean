import BearerGate.Service.Pipeline

/-!
# Routes

Which paths there are, which methods they have, and what is done with a request on each of them. A
known path that is asked for with a method that it does not have is answered with its methods; this
module says in a table which field that is.

## Main results

* `Service.headers_withAllow`: the field with the methods of a path, which stands in the table
  `Service.allowField`.
* `Service.route_health`, `Service.route_profile`, `Service.route_tokens`,
  `Service.route_of_foreign`, `Service.route_of_unknown`: what the routes make of a request.
* `Service.route_of_not_tokens`: what is answered anywhere but on the token route.
-/

namespace BearerGate

open Http (Request)

/-! ### Paths and methods -/

/-- The route of a path is the one that has it. -/
theorem Route.ofPath?_eq_some_iff {path : String} {place : Route} :
    ofPath? path = some place ↔ path = place.path := by
  constructor
  · intro h
    have hpath := List.find?_some h
    exact (of_decide_eq_true hpath).symm
  · rintro rfl
    cases place <;> rfl

/-- A path without a route is none of the three. -/
theorem Route.ofPath?_eq_none_iff {path : String} :
    ofPath? path = none ↔
      path ≠ "/health" ∧ path ≠ "/api/v1/me" ∧ path ≠ "/api/v1/tokens" := by
  rw [ofPath?, List.find?_eq_none]
  simp [all, Route.path, eq_comm]

/-- A route has the methods that are listed for it. -/
theorem Route.allows_eq_true_iff {place : Route} {method : String} :
    place.allows method = true ↔ method ∈ place.methods :=
  List.contains_iff_mem

/-! ### The methods of a path -/

namespace Service

/-- The field that names the methods of a known path, which is asked for with another one. -/
def allowField (method path : String) : Http.Headers :=
  if path = "/health" ∨ path = "/api/v1/me" then
    if method ∈ ["GET", "HEAD"] then [] else [("allow", Utf8.encode "GET,HEAD".toList)]
  else if path = "/api/v1/tokens" then
    if method ∈ ["POST"] then [] else [("allow", Utf8.encode "POST".toList)]
  else []

/-- On a known path the field is there exactly where the path does not have the method, and names
those that it has. -/
theorem allowField_path (method : String) (place : Route) :
    allowField method place.path = if place.allows method = true then []
      else [("allow", Utf8.encode (Text.joinWith [','] (place.methods.map (·.toList))))] := by
  simp only [Route.allows_eq_true_iff]
  cases place with
  | health | profile =>
      rw [allowField, if_pos (by decide)]
      rfl
  | tokens =>
      rw [allowField, if_neg (by decide), if_pos (by decide)]
      rfl

/-- On any other path the field is never there. -/
theorem allowField_of_unknown {method path : String} (h : Route.ofPath? path = none) :
    allowField method path = [] := by
  obtain ⟨hhealth, hprofile, htokens⟩ := Route.ofPath?_eq_none_iff.mp h
  rw [allowField, if_neg (by simp [hhealth, hprofile]), if_neg htokens]

/-- The field goes by its name. -/
theorem name_of_mem_allowField {method path : String} {field : String × Bytes}
    (h : field ∈ allowField method path) : field.1 = "allow" := by
  cases hplace : Route.ofPath? path with
  | none =>
      rw [allowField_of_unknown hplace] at h
      cases h
  | some place =>
      rw [Route.ofPath?_eq_some_iff.mp hplace, allowField_path] at h
      split at h
      · cases h
      · rw [List.mem_singleton.mp h]

/-- Naming the methods of a path adds that field. -/
theorem headers_withAllow (method path : String) (response : Http.Response) :
    (withAllow (Route.ofPath? path) method response).headers =
      response.headers ++ allowField method path := by
  cases hplace : Route.ofPath? path with
  | none => rw [allowField_of_unknown hplace, withAllow, List.append_nil]
  | some place =>
      obtain rfl := Route.ofPath?_eq_some_iff.mp hplace
      rw [allowField_path, withAllow]
      split
      · rw [List.append_nil]
      · rfl

variable {service : Service} {now : Second} {fresh : Fresh} {request : Request} {caller : Caller}
  {limit : Nat}

/-- A request that asks a known path **with a foreign method**, one that the path does not have. -/
def IsForeign (request : Request) : Prop :=
  ∃ place : Route, request.path = place.path ∧ place.allows request.method = false

/-- The methods of the path are named exactly where the method is foreign. -/
theorem allowField_eq_nil_iff :
    allowField request.method request.path = [] ↔ ¬IsForeign request := by
  constructor
  · rintro hnil ⟨place, hpath, hallows⟩
    rw [hpath, allowField_path, hallows, if_neg (by decide)] at hnil
    cases hnil
  · intro hown
    cases hplace : Route.ofPath? request.path with
    | none => exact allowField_of_unknown hplace
    | some place =>
        have hpath := Route.ofPath?_eq_some_iff.mp hplace
        rw [hpath, allowField_path]
        split
        · rfl
        · next hallows => exact absurd ⟨place, hpath, by simpa using hallows⟩ hown

/-! ### Handlers -/

/-- The health route says to GET and HEAD that the service is there. -/
theorem route_health (hpath : request.path = "/health")
    (hmethod : request.method = "GET" ∨ request.method = "HEAD") :
    service.route now fresh caller request limit = health := by
  rw [route, hpath]
  rcases hmethod with hmethod | hmethod <;> rw [hmethod] <;> rfl

/-- The profile route tells the caller who that is. -/
theorem route_profile (hpath : request.path = "/api/v1/me")
    (hmethod : request.method = "GET" ∨ request.method = "HEAD") :
    service.route now fresh caller request limit = profile caller := by
  rw [route, hpath]
  rcases hmethod with hmethod | hmethod <;> rw [hmethod] <;> rfl

/-- On the token route a token is asked for. -/
theorem route_tokens (service : Service) (now : Second) (fresh : Fresh) (caller : Caller)
    (hmethod : request.method = "POST") (hpath : request.path = "/api/v1/tokens") (limit : Nat) :
    service.route now fresh caller request limit =
      service.issueToken now fresh caller request.headers ⟨request.body, some limit⟩ := by
  rw [route, hpath, hmethod]
  rfl

/-- A request on a path with a foreign method is answered with 405, whoever sends it. -/
theorem route_of_foreign (h : IsForeign request) :
    service.route now fresh caller request limit = ⟨.ofStatus 405, []⟩ := by
  obtain ⟨place, hpath, hallows⟩ := h
  rw [route, Route.ofPath?_eq_some_iff.mpr hpath]
  simp only [hallows, Bool.not_false, if_true]

/-- A request on any other path is answered with 404, whoever sends it. -/
theorem route_of_unknown (h : Route.ofPath? request.path = none) :
    service.route now fresh caller request limit = ⟨.ofStatus 404, []⟩ := by
  rw [route, h]

/-- Anywhere but on the token route a caller is **served or told that there is nothing**, and
nothing is logged. -/
theorem route_of_not_tokens
    (h : ¬(request.method = "POST" ∧ request.path = "/api/v1/tokens")) :
    (service.route now fresh caller request limit).response.status ∈ [200, 404, 405] ∧
      (service.route now fresh caller request limit).events = [] := by
  cases hplace : Route.ofPath? request.path with
  | none =>
      rw [route_of_unknown hplace]
      exact ⟨by decide, rfl⟩
  | some place =>
      have hpath := Route.ofPath?_eq_some_iff.mp hplace
      by_cases hallows : place.allows request.method = true
      · rw [Route.allows_eq_true_iff] at hallows
        cases place with
        | health =>
            rw [route_health hpath (by simpa [Route.methods] using hallows)]
            exact ⟨by decide, rfl⟩
        | profile =>
            rw [route_profile hpath (by simpa [Route.methods] using hallows)]
            exact ⟨by simp [profile, Http.Response.json], rfl⟩
        | tokens => exact absurd ⟨List.mem_singleton.mp hallows, hpath⟩ h
      · rw [route_of_foreign ⟨place, hpath, by simpa using hallows⟩]
        exact ⟨by decide, rfl⟩

end Service

end BearerGate
