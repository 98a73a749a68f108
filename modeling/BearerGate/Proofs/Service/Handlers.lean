import BearerGate.Service.Handlers

/-!
# What the Handlers Answer

A request for a token passes stages: tokens have to be issued at all, the caller has to be an
administrator, and only then it is looked at whether the body is a request, whether the request is
in order, whether its roles are known, and whether a token can be made. It stops short at the first
stage that it does not pass and gets the refusal of that stage, or it earns a token. This module
says so without the handler, which nothing that is proved of the token route has to open again.

## Main results

* `Service.stopsShort_or_earns`: every request for a token stops short or earns a token.
* `Service.StopsShort.answer`, `Service.Earns.answer`: what it is answered in either case.
* `Service.earns_of_created`: a token is answered only where one is earned.
-/

namespace BearerGate

namespace Service

variable {service : Service} {now : Second} {fresh : Fresh} {caller : Caller}
  {headers : Http.Headers} {body : Body}

/-! ### Refusals -/

/-- A refusal answers with its status. -/
theorem status_response (r : Refusal) : r.response.status = r.status := by
  unfold Refusal.response
  dsimp only
  split <;> rfl

/-- A refusal answers with its body. -/
theorem body_response (r : Refusal) : r.response.body = r.body.render := by
  unfold Refusal.response
  dsimp only
  split <;> rfl

/-- No refusal is a success. -/
theorem le_status (r : Refusal) : 400 ≤ r.status := by
  cases r <;> simp [Refusal.status]

/-! ### Bodies -/

/-- A body is read as a request when the headers say that it is JSON, it is not longer than may be
read of it, and its text is that of the request. -/
theorem readBody_eq_ok_iff {asked : TokenRequest} :
    readBody headers body = .ok asked ↔
      saysJson headers = true ∧ (∀ limit ∈ body.limit, body.bytes.length ≤ limit) ∧
        TokenRequest.read body.bytes = .ok asked := by
  have hlimit : (∀ limit ∈ body.limit, body.bytes.length ≤ limit) ↔
      ¬(body.limit.any (· < body.bytes.length)) = true := by
    cases body.limit <;> simp
  rw [readBody, hlimit]
  by_cases hjson : saysJson headers = true
  · rw [if_neg (by simp [hjson])]
    by_cases hlong : (body.limit.any (· < body.bytes.length)) = true
    · simp [hlong]
    · rw [if_neg hlong]
      cases hread : TokenRequest.read body.bytes with
      | ok found => simp [hjson, hlong]
      | error problem => cases problem <;> simp
  · rw [if_pos (by simp [hjson])]
    simp [hjson]

/-! ### Requests for a token -/

/-- A caller **may ask** for tokens: they are issued at all, and the caller is an administrator. -/
structure MayAsk (service : Service) (caller : Caller) (issuer : Issuer) : Prop where
  active : service.issuer = some issuer
  admin : "role-admin" ∈ caller.authorities

/-- Where a request for a token **stops short**, and the refusal that it gets there. It comes to a
stage only when it has passed those before. -/
inductive StopsShort (service : Service) (now : Second) (fresh : Fresh) (caller : Caller)
    (headers : Http.Headers) (body : Body) : Refusal → Prop where
  | atIssuer : service.issuer = none →
      StopsShort service now fresh caller headers body (.notFound "token issuer")
  | atRole {issuer : Issuer} : service.issuer = some issuer →
      "role-admin" ∉ caller.authorities →
      StopsShort service now fresh caller headers body .forbidden
  | atBody {issuer : Issuer} {problem : BodyProblem} : MayAsk service caller issuer →
      readBody headers body = .error problem →
      StopsShort service now fresh caller headers body
        (.badRequest "INVALID_REQUEST" (problem.message fresh.said))
  | atComplaint {issuer : Issuer} {asked : TokenRequest} {text : String} :
      MayAsk service caller issuer → readBody headers body = .ok asked →
      asked.complaint? = some text →
      StopsShort service now fresh caller headers body (.badRequest "INVALID_REQUEST" text)
  | atGrants {issuer : Issuer} {asked : TokenRequest} {text : String} :
      MayAsk service caller issuer → readBody headers body = .ok asked →
      asked.complaint? = none → asked.grantNames = .error text →
      StopsShort service now fresh caller headers body (.badRequest "INVALID_GRANT" text)
  | atIssue {issuer : Issuer} {asked : TokenRequest} {grants : List String}
      {problem : IssuingProblem} :
      MayAsk service caller issuer → readBody headers body = .ok asked →
      asked.complaint? = none → asked.grantNames = .ok grants →
      issuer.issue now fresh.draw (identityOf asked grants) = .error problem →
      StopsShort service now fresh caller headers body .internal

/-- A request **earns a token**: the caller may ask, the body is JSON, short enough and a request in
order, its roles are known, and the token can be made. -/
structure Earns (service : Service) (now : Second) (fresh : Fresh) (caller : Caller)
    (headers : Http.Headers) (body : Body) (issuer : Issuer) (asked : TokenRequest)
    (grants : List String) (token : String) : Prop extends MayAsk service caller issuer where
  json : saysJson headers = true
  fits : ∀ limit ∈ body.limit, body.bytes.length ≤ limit
  read : TokenRequest.read body.bytes = .ok asked
  inOrder : asked.complaint? = none
  known : asked.grantNames = .ok grants
  made : issuer.issue now fresh.draw (identityOf asked grants) = .ok token

/-- Where no tokens are issued, everybody is told so. -/
theorem issueToken_of_noIssuer (h : service.issuer = none) (now : Second) (fresh : Fresh)
    (caller : Caller) (headers : Http.Headers) (body : Body) :
    service.issueToken now fresh caller headers body = refuse (.notFound "token issuer") := by
  rw [issueToken, h]

/-- Where tokens are issued, whoever is no administrator is told no more than that. -/
theorem issueToken_of_not_admin {issuer : Issuer} (hissuer : service.issuer = some issuer)
    (hadmin : "role-admin" ∉ caller.authorities) (now : Second) (fresh : Fresh)
    (headers : Http.Headers) (body : Body) :
    service.issueToken now fresh caller headers body = refuse .forbidden := by
  have hcaller : caller.hasAuthority Role.admin.name = false := by
    rw [← Bool.not_eq_true]
    exact fun htrue => hadmin (NameSet.contains_iff.mp htrue)
  rw [issueToken, hissuer]
  simp only [hcaller, Bool.not_false, if_true]

/-- If the caller may ask, it comes to the body. -/
theorem MayAsk.issueToken_of_problem {issuer : Issuer} (h : MayAsk service caller issuer)
    {problem : BodyProblem} (hread : readBody headers body = .error problem) :
    service.issueToken now fresh caller headers body = refuseBody (problem.message fresh.said) := by
  have hadmin : caller.hasAuthority Role.admin.name = true := NameSet.contains_iff.mpr h.admin
  rw [issueToken, h.active]
  simp only [hadmin, Bool.not_true, Bool.false_eq_true, if_false, hread]

/-- If the caller may ask and the body is a request, it comes to the request. -/
theorem MayAsk.issueToken_of_read {issuer : Issuer} (h : MayAsk service caller issuer)
    {asked : TokenRequest} (hread : readBody headers body = .ok asked) :
    service.issueToken now fresh caller headers body =
      issueFor service.gate.scheme issuer now fresh.draw caller asked := by
  have hadmin : caller.hasAuthority Role.admin.name = true := NameSet.contains_iff.mpr h.admin
  rw [issueToken, h.active]
  simp only [hadmin, Bool.not_true, Bool.false_eq_true, if_false, hread]

/-- Every request for a token **stops short or earns a token**. -/
theorem stopsShort_or_earns (service : Service) (now : Second) (fresh : Fresh) (caller : Caller)
    (headers : Http.Headers) (body : Body) :
    (∃ r, StopsShort service now fresh caller headers body r) ∨
      ∃ issuer asked grants token,
        Earns service now fresh caller headers body issuer asked grants token := by
  cases hissuer : service.issuer with
  | none => exact Or.inl ⟨_, .atIssuer hissuer⟩
  | some issuer =>
      by_cases hadmin : "role-admin" ∈ caller.authorities
      · have hmay : MayAsk service caller issuer := ⟨hissuer, hadmin⟩
        cases hread : readBody headers body with
        | error problem => exact Or.inl ⟨_, .atBody hmay hread⟩
        | ok asked =>
            cases hcomplaint : asked.complaint? with
            | some text => exact Or.inl ⟨_, .atComplaint hmay hread hcomplaint⟩
            | none =>
                cases hgrants : asked.grantNames with
                | error text => exact Or.inl ⟨_, .atGrants hmay hread hcomplaint hgrants⟩
                | ok grants =>
                    cases hissue : issuer.issue now fresh.draw (identityOf asked grants) with
                    | error problem =>
                        exact Or.inl ⟨_, .atIssue hmay hread hcomplaint hgrants hissue⟩
                    | ok token =>
                        obtain ⟨hjson, hfits, hasked⟩ := readBody_eq_ok_iff.mp hread
                        exact Or.inr ⟨issuer, asked, grants, token, hmay, hjson, hfits, hasked,
                          hcomplaint, hgrants, hissue⟩
      · exact Or.inl ⟨_, .atRole hissuer hadmin⟩

/-- If the caller may ask and the request is in order but no token can be made for it, the problem
is **logged, and not told**. -/
theorem MayAsk.issueToken_of_not_made {issuer : Issuer} (h : MayAsk service caller issuer)
    {asked : TokenRequest} (hread : readBody headers body = .ok asked)
    (hcomplaint : asked.complaint? = none) {grants : List String}
    (hgrants : asked.grantNames = .ok grants) {problem : IssuingProblem}
    (hissue : issuer.issue now fresh.draw (identityOf asked grants) = .error problem) :
    service.issueToken now fresh caller headers body =
      ⟨Refusal.internal.response, [.issuanceFailed problem]⟩ := by
  rw [h.issueToken_of_read hread, issueFor, hcomplaint, hgrants]
  simp only [hissue]

/-- A request that stops short **before the last stage** is refused and no more. -/
theorem StopsShort.eq_refuse {r : Refusal} (h : StopsShort service now fresh caller headers body r)
    (hr : r ≠ .internal) : service.issueToken now fresh caller headers body = refuse r := by
  cases h with
  | atIssuer hissuer => exact issueToken_of_noIssuer hissuer _ _ _ _ _
  | atRole hissuer hadmin => exact issueToken_of_not_admin hissuer hadmin _ _ _ _
  | atBody hmay hread => exact hmay.issueToken_of_problem hread
  | atComplaint hmay hread hcomplaint =>
      rw [hmay.issueToken_of_read hread, issueFor, hcomplaint]
      rfl
  | atGrants hmay hread hcomplaint hgrants =>
      rw [hmay.issueToken_of_read hread, issueFor, hcomplaint, hgrants]
  | atIssue => exact absurd rfl hr

/-- A request stops short **at the last stage** when no token can be made for it. -/
theorem StopsShort.not_made (h : StopsShort service now fresh caller headers body .internal) :
    ∃ issuer asked grants problem, MayAsk service caller issuer ∧
      readBody headers body = .ok asked ∧ asked.complaint? = none ∧
      asked.grantNames = .ok grants ∧
      issuer.issue now fresh.draw (identityOf asked grants) = .error problem := by
  cases h with
  | atIssue hmay hread hcomplaint hgrants hissue =>
      exact ⟨_, _, _, _, hmay, hread, hcomplaint, hgrants, hissue⟩

/-- A request that stops short is answered with the **refusal of that stage**, and no token is
logged. -/
theorem StopsShort.answer {r : Refusal} (h : StopsShort service now fresh caller headers body r) :
    (service.issueToken now fresh caller headers body).response = r.response ∧
      ∀ id name,
        .tokenIssued id name ∉ (service.issueToken now fresh caller headers body).events := by
  by_cases hr : r = .internal
  · subst hr
    obtain ⟨issuer, asked, grants, problem, hmay, hread, hcomplaint, hgrants, hissue⟩ := h.not_made
    rw [hmay.issueToken_of_not_made hread hcomplaint hgrants hissue]
    exact ⟨rfl, by simp⟩
  · rw [h.eq_refuse hr]
    exact ⟨rfl, by simp [refuse]⟩

/-- A request that earns a token is **answered with it**, and the token is logged. -/
theorem Earns.answer {issuer : Issuer} {asked : TokenRequest} {grants : List String}
    {token : String} (h : Earns service now fresh caller headers body issuer asked grants token) :
    service.issueToken now fresh caller headers body =
      ⟨issued service.gate.scheme token issuer.lifetime, [.tokenIssued asked.id caller.name]⟩ := by
  have hread : readBody headers body = .ok asked :=
    readBody_eq_ok_iff.mpr ⟨h.json, h.fits, h.read⟩
  rw [h.toMayAsk.issueToken_of_read hread]
  simp only [issueFor, h.inOrder, h.known, h.made]
  rfl

/-- A token is answered **only where one is earned**. -/
theorem earns_of_created
    (h : (service.issueToken now fresh caller headers body).response.status = 201) :
    ∃ issuer asked grants token,
      Earns service now fresh caller headers body issuer asked grants token := by
  rcases service.stopsShort_or_earns now fresh caller headers body with ⟨r, hstops⟩ | hearns
  · have hle := le_status r
    rw [hstops.answer.1, status_response] at h
    omega
  · exact hearns

end Service

end BearerGate
