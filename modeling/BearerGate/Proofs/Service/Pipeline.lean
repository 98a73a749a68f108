import BearerGate.Proofs.Gate.Credentials
import BearerGate.Proofs.Service.Handlers
import BearerGate.Service.Pipeline

/-!
# Through the Pipeline

What the layers around the gate do to a request and to its answer, one by one. They give the
request a number, which no part of the service but that layer reads, and they dress the answer; what
is decided is decided by the announced length, the gate and the handler.

## Main results

* `sameButNumber_numbered`: the number that a request gets is all that it gets.
* `Service.limited_of_withinLimit`, `Service.limited_of_not_withinLimit`: which requests get to the
  gate.
* `Service.handle_sameOutcome`: the outermost layer changes nothing that is decided.
* `Service.status_afterGate_error`: a request that the gate turns away gets 401 or 503.
-/

namespace BearerGate

open Http (Request)

/-! ### Numbers of requests -/

/-- A request **differs by its number only** from another: it has some fields more, all of them
with the number. -/
structure SameButNumber (request numbered : Request) : Prop where
  method : numbered.method = request.method
  path : numbered.path = request.path
  body : numbered.body = request.body
  headers : ∃ more, numbered.headers = request.headers ++ more ∧
    ∀ field ∈ more, field.1 = Service.requestIdName

/-- The number that a request gets is all that it gets. -/
theorem sameButNumber_numbered (fresh : Service.Fresh) (request : Request) :
    SameButNumber request (Service.numbered fresh request).1 := by
  rw [Service.numbered]
  split
  · exact ⟨rfl, rfl, rfl, [], by simp, by simp⟩
  · exact ⟨rfl, rfl, rfl, _, rfl, by simp⟩

/-- The first value of a header stays the first when fields are added behind. -/
theorem Http.Headers.IsFirst.append {headers : Http.Headers} {name : String} {value : Bytes}
    (h : headers.IsFirst name value) (more : Http.Headers) :
    Http.Headers.IsFirst (headers ++ more) name value := by
  obtain ⟨before, after, rfl, hbefore⟩ := h
  exact ⟨before, after ++ more, by simp, hbefore⟩

/-- Fields with other names do not change the first value of a header. -/
theorem Http.Headers.first?_append_of_ne {headers more : Http.Headers} {name : String}
    (h : ∀ field ∈ more, field.1 ≠ name) : first? (headers ++ more) name = first? headers name := by
  cases hfirst : first? headers name with
  | some value =>
      rw [first?_eq_some_iff] at hfirst ⊢
      exact hfirst.append more
  | none =>
      rw [first?_eq_none_iff] at hfirst ⊢
      intro field hfield
      rcases List.mem_append.mp hfield with hmem | hmem
      · exact hfirst field hmem
      · exact h field hmem

/-- A request differs from itself by less than a number. -/
theorem SameButNumber.refl (request : Request) : SameButNumber request request :=
  ⟨rfl, rfl, rfl, [], by simp, by simp⟩

/-- A request that brings a token brings it with its number, too. -/
theorem SameButNumber.bringsToken {request numbered : Request}
    (h : SameButNumber request numbered) {name scheme raw : String}
    (hbrings : BringsToken name scheme request.headers raw) :
    BringsToken name scheme numbered.headers raw := by
  obtain ⟨value, hfirst, hplain, hstarts⟩ := hbrings
  obtain ⟨more, hheaders, -⟩ := h.headers
  rw [hheaders]
  exact ⟨value, hfirst.append more, hplain, hstarts⟩

namespace Service

/-- The number of a request does not change the length that it announces. -/
theorem announcedLength_of_sameButNumber {request numbered : Request}
    (h : SameButNumber request numbered) :
    announcedLength numbered.headers = announcedLength request.headers := by
  obtain ⟨more, hheaders, hmore⟩ := h.headers
  have hfirst : Http.Headers.first? numbered.headers "content-length" =
      Http.Headers.first? request.headers "content-length" := by
    rw [hheaders]
    refine Http.Headers.first?_append_of_ne fun field hfield => ?_
    rw [hmore field hfield]
    decide
  rw [announcedLength, Http.Headers.text?, hfirst]
  rfl

/-! ### The limit on the body -/

/-- Headers **within the limit**: if they announce a length that can be read, it is no more than
65536 bytes. -/
def WithinLimit (headers : Http.Headers) : Prop :=
  ∀ length, announcedLength headers = some length → length ≤ bodyLimit

variable {service : Service} {now : Second} {store : Revocation.Store} {fresh : Fresh}
  {request : Request}

/-- How much may be read of the body of a request within the limit. -/
def allowance (headers : Http.Headers) : Nat :=
  (announcedLength headers).getD bodyLimit

/-- A request within the limit goes to the gate. -/
theorem limited_of_withinLimit (h : WithinLimit request.headers) :
    service.limited now store fresh request =
      service.guarded now store fresh request (allowance request.headers) := by
  rw [limited, allowance]
  split
  · next hnone =>
    rw [hnone]
    rfl
  · next length hlength =>
    rw [if_neg (Nat.not_lt.mpr (h length hlength)), hlength]
    rfl

/-- A request that is not within the limit goes no further. -/
theorem limited_of_not_withinLimit (h : ¬WithinLimit request.headers) :
    service.limited now store fresh request = .ofResponse tooLarge := by
  rw [limited]
  split
  · next hnone =>
    refine absurd (fun length hlength => ?_) h
    rw [hnone] at hlength
    cases hlength
  · next length hlength =>
    split
    · rfl
    · next hle =>
      refine absurd (fun other hother => ?_) h
      rw [hlength] at hother
      cases hother
      omega

/-! ### The dress of an answer -/

/-- Naming the methods of a path changes neither the status nor the body. -/
theorem withAllow_same (place : Option Route) (method : String) (response : Http.Response) :
    (withAllow place method response).status = response.status ∧
      (withAllow place method response).body = response.body := by
  unfold withAllow
  split
  · exact ⟨rfl, rfl⟩
  · split <;> exact ⟨rfl, rfl⟩

/-- Sending a response changes its status never, and its body only to HEAD. -/
theorem sent_same (method : String) (response : Http.Response) :
    (sent method response).status = response.status ∧
      (method ≠ "HEAD" → (sent method response).body = response.body) := by
  rw [sent]
  split
  · next hhead => exact ⟨rfl, fun hne => absurd hhead hne⟩
  · exact ⟨rfl, fun _ => rfl⟩

/-- An exchange that is **the same as another** to anyone who looks at the status, the events and
the lookups, and at the body unless the method is HEAD. -/
structure SameOutcome (method : String) (outer inner : Exchange) : Prop where
  status : outer.response.status = inner.response.status
  events : outer.events = inner.events
  lookups : outer.lookups = inner.lookups
  body : method ≠ "HEAD" → outer.response.body = inner.response.body

/-- The outermost layer dresses what comes of the request with its number. -/
theorem handle_sameOutcome (service : Service) (now : Second) (store : Revocation.Store)
    (fresh : Fresh) (request : Request) :
    SameOutcome request.method (service.handle now store fresh request)
      (service.limited now store fresh (numbered fresh request).1) := by
  have hmethod := (sameButNumber_numbered fresh request).method
  rw [handle]
  generalize numbered fresh request = pair at hmethod ⊢
  obtain ⟨inner, id⟩ := pair
  have hsent := sent_same inner.method
  have hallow := withAllow_same (Route.ofPath? inner.path) inner.method
  refine ⟨?_, rfl, rfl, fun hne => ?_⟩
  · exact (hsent _).1.trans (hallow _).1
  · rw [← hmethod] at hne
    exact ((hsent _).2 hne).trans (hallow _).2

/-! ### Refusals -/

/-- A failure is refused with **401 or 503**, as it lies with the client or not. -/
theorem status_ofFailure (scheme : String) (failure : GateFailure) :
    (Refusal.ofFailure scheme failure).status =
      (match failure.outward with
        | .unauthenticated => 401
        | .unavailable => 503) := by
  rw [Refusal.ofFailure]
  cases failure.outward <;> rfl

/-- A request that the gate turns away is answered with **401 or 503**, as the failure lies with
the client or not. -/
theorem status_afterGate_error (service : Service) (now : Second) (fresh : Fresh)
    (request : Request) (limit : Nat) (failure : GateFailure) :
    (service.afterGate now fresh request limit (.error failure)).response.status =
      (match failure.outward with
        | .unauthenticated => 401
        | .unavailable => 503) := by
  rw [afterGate]
  simp only [status_response, status_ofFailure]

/-! ### Headers with and without a length -/

/-- What comes with a request from outside where nothing depends on it. -/
def sampleFresh : Fresh := ⟨[], 0, ""⟩

/-- The headers of a request with a token and a body that is JSON. -/
def sampleHeaders (token : String) : Http.Headers :=
  [("authorization", Utf8.encode ("Bearer" ++ " " ++ token).toList),
    ("content-type", Utf8.encode "application/json".toList)]

/-- The headers of a request with a token and a body that is too long. -/
def sampleLongHeaders (token : String) : Http.Headers :=
  [("authorization", Utf8.encode ("Bearer" ++ " " ++ token).toList),
    ("content-length", Utf8.encode "70000".toList)]

/-- Where no length is announced there is none. -/
theorem announcedLength_sampleHeaders (token : String) :
    announcedLength (sampleHeaders token) = none := by
  have hnone : Http.Headers.first? (sampleHeaders token) "content-length" = none := by
    rw [Http.Headers.first?_eq_none_iff]
    simp [sampleHeaders]
  rw [announcedLength, Http.Headers.text?, hnone]
  rfl

/-- Without a length a request is within the limit. -/
theorem withinLimit_sampleHeaders (token : String) : WithinLimit (sampleHeaders token) := by
  intro length hlength
  rw [announcedLength_sampleHeaders] at hlength
  cases hlength

/-- With a length of 70000 bytes a request is not within the limit. -/
theorem not_withinLimit_sampleLongHeaders (token : String) :
    ¬WithinLimit (sampleLongHeaders token) := by
  have hfirst : Http.Headers.IsFirst (sampleLongHeaders token) "content-length"
      (Utf8.encode "70000".toList) :=
    ⟨[("authorization", Utf8.encode ("Bearer" ++ " " ++ token).toList)], [], rfl, by simp⟩
  have hvalue : (Http.text? (Utf8.encode "70000".toList)).bind (Text.readUnsigned 64) =
      some 70000 := by decide +kernel
  have hlength : announcedLength (sampleLongHeaders token) = some 70000 := by
    rw [announcedLength, Http.Headers.text?, Http.Headers.first?_eq_some_iff.mpr hfirst]
    exact hvalue
  intro hwithin
  exact absurd (hwithin _ hlength) (by decide)

/-- The scheme of the headers is visible. -/
theorem isVisible_bearer : Text.IsVisible "Bearer".toList := ⟨by simp, by simp⟩

/-- Either headers bring their token if it is visible. -/
theorem bringsToken_sample {token : String} (h : Text.IsVisible token.toList) :
    BringsToken "authorization" "Bearer" (sampleHeaders token) token ∧
      BringsToken "authorization" "Bearer" (sampleLongHeaders token) token := by
  exact ⟨bringsToken_of_isVisible isVisible_bearer h ⟨[], _, rfl, by simp⟩,
    bringsToken_of_isVisible isVisible_bearer h ⟨[], _, rfl, by simp⟩⟩

end Service

end BearerGate
