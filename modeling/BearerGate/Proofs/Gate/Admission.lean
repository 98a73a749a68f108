import Mathlib.Control.Monad.Basic
import BearerGate.Proofs.Gate.Credentials
import BearerGate.Proofs.Names
import BearerGate.Proofs.Service.Setup

/-!
# Admission at the Gate

A gate that was built from settings admits a request for one of two reasons only, and the caller
it admits is determined by the reason. Both directions matter: that nothing else is admitted keeps
strangers out, and that everything of the two kinds is admitted keeps nobody out.

## Main results

* `Gate.admits_iff`: the requests that a gate admits, and the callers that they come from.
-/

namespace BearerGate

namespace Caller

/-- The caller is **nobody**: it has the name and the one authority of a caller without
credentials. -/
def IsNobody (caller : Caller) : Prop :=
  caller.name = "ANONYMOUS" ∧ (∀ a, a ∈ caller.authorities ↔ a = "ANONYMOUS") ∧
    caller.kind = .anonymous ∧ caller.authenticated = true

/-- The caller is the **holder** of a token: it has the name in the token and one authority for
each name granted, all of which are roles, and so never the one of a caller without credentials. -/
def IsHolder (caller : Caller) (who : Identity) : Prop :=
  caller.name = who.username ∧ (∀ a, a ∈ caller.authorities ↔ a ∈ who.grants) ∧
    (∀ a ∈ caller.authorities, a = "role-user" ∨ a = "role-admin") ∧
    "ANONYMOUS" ∉ caller.authorities ∧
    caller.kind = .token ∧ caller.authenticated = true

/-- There is one caller that is nobody. -/
theorem isNobody_iff {caller : Caller} : caller.IsNobody ↔ caller = anonymous := by
  have hmem : ∀ a, a ∈ anonymous.authorities ↔ a = "ANONYMOUS" := by
    intro a
    rw [anonymous, NameSet.mem_ofList, List.mem_singleton]
    rfl
  constructor
  · rintro ⟨hname, hauthorities, hkind, hauthenticated⟩
    have hset : caller.authorities = anonymous.authorities :=
      NameSet.ext_mem fun a => (hauthorities a).trans (hmem a).symm
    cases caller
    cases hname
    cases hset
    cases hkind
    cases hauthenticated
    rfl
  · rintro rfl
    exact ⟨rfl, hmem, rfl, rfl⟩

/-- There is one holder of a token that grants nothing but roles. -/
theorem isHolder_iff {caller : Caller} {who : Identity}
    (hroles : ∀ a ∈ who.grants, a = "role-user" ∨ a = "role-admin") :
    caller.IsHolder who ↔ caller = (ofIdentity who).authenticate := by
  constructor
  · rintro ⟨hname, hauthorities, -, -, hkind, hauthenticated⟩
    have hset : caller.authorities = who.grants := NameSet.ext_mem hauthorities
    cases caller
    cases hname
    cases hset
    cases hkind
    cases hauthenticated
    rfl
  · rintro rfl
    refine ⟨rfl, fun _ => Iff.rfl, hroles, ?_, rfl, rfl⟩
    intro hnobody
    rcases hroles _ hnobody with h | h <;> simp at h

end Caller

/-- The tokens that a gate built from settings verifies grant nothing but roles. -/
theorem Gate.grants_are_roles {settings : Settings} {source : Option Revocation.Source}
    {gate : Gate} (hgate : Service.buildGate settings source = .ok gate) {now : Second}
    {raw : String} {who : Identity} (hverify : gate.screen.verifier.verify now raw = .ok who) :
    ∀ a ∈ who.grants, a = "role-user" ∨ a = "role-admin" := by
  obtain ⟨verifier, checker, hload, -, -, rfl⟩ := Service.buildGate_eq_ok_iff.mp hgate
  obtain ⟨key, -, rfl⟩ := Verifier.load_eq_ok_iff.mp hload
  intro a ha
  obtain ⟨text, htext⟩ := Verifier.exists_resolve_of_mem_grants hverify ha
  dsimp only at htext
  exact Role.eq_of_resolve htext

/-- **Admission is exact.** A gate that was built from settings admits a request as a caller
exactly when

* the request lacks credentials, some optional route covers it, and the caller is nobody; or
* the request brings a token with the scheme of the settings, the token verifies at that time,
  its number is known not to have been revoked, and the caller is its holder. -/
theorem Gate.admits_iff {settings : Settings} {source : Option Revocation.Source} {gate : Gate}
    (hgate : Service.buildGate settings source = .ok gate) (now : Second)
    (store : Revocation.Store) (head : RequestHead) (caller : Caller) :
    (gate.pass now store head).verdict = .ok caller ↔
      (LacksCredentials settings.headerName head.headers ∧
        (∃ route ∈ settings.optionalRoutes, route.covers head.method head.path = true) ∧
        caller.IsNobody) ∨
      ∃ raw who, BringsToken settings.headerName settings.scheme head.headers raw ∧
        gate.screen.verifier.verify now raw = .ok who ∧
        gate.screen.source.isRevoked store who.id = .ok false ∧
        caller.IsHolder who := by
  have hroles := @Gate.grants_are_roles settings source gate hgate now
  obtain ⟨verifier, checker, -, -, -, rfl⟩ := Service.buildGate_eq_ok_iff.mp hgate
  rw [Gate.verdict_eq_ok_iff, Caller.isNobody_iff]
  refine or_congr_right (exists_congr fun raw => exists_congr fun who => ?_)
  refine and_congr_right fun _ => and_congr_right fun hverify => and_congr_right fun _ => ?_
  exact (Caller.isHolder_iff (hroles hverify)).symm

/-- The gate of the sample settings admits a request for the health route as nobody, and one for any
other that brings a live token as the holder of that. -/
theorem Gate.admits_nobody_and_ada :
    Service.buildGate sampleSettings (some (.fixed [])) = .ok (sampleGate (.fixed [])) ∧
      (∃ caller, ((sampleGate (.fixed [])).pass 0 .empty ⟨"GET", "/health", []⟩).verdict =
        .ok caller ∧ caller.IsNobody) ∧
      ∃ raw caller, ((sampleGate (.fixed [])).pass 0 .empty ⟨"GET", "/api/v1/me",
        [("authorization", Utf8.encode ("Bearer" ++ " " ++ raw).toList)]⟩).verdict = .ok caller ∧
          caller.IsHolder ⟨7, "ada", NameSet.ofList ["role-user"]⟩ := by
  have hgate : Service.buildGate sampleSettings (some (.fixed [])) =
      .ok (sampleGate (.fixed [])) := buildGate_sampleSettings rfl
  have hcovers : RoutePattern.covers ⟨some "GET", [.literal "health"], "/health"⟩ "GET" "/health" =
      true := by decide +kernel
  have hnobody : Caller.anonymous.IsNobody := Caller.isNobody_iff.mpr rfl
  obtain ⟨raw, hissue⟩ :=
    @exists_issue_sampleIssuer 0 (by decide) 0 ⟨7, "ada", NameSet.ofList ["role-user"]⟩
  have hroles : ∀ a ∈ NameSet.ofList ["role-user"], a = "role-user" := by
    intro a ha
    rwa [NameSet.mem_ofList, List.mem_singleton] at ha
  have hverify := verify_sampleVerifier hissue (by decide) fun a ha => ⟨.user, hroles a ha⟩
  have hvisible : Text.IsVisible "Bearer".toList := ⟨by simp, by simp⟩
  have hbrings : BringsToken "authorization" "Bearer"
      [("authorization", Utf8.encode ("Bearer" ++ " " ++ raw).toList)] raw :=
    bringsToken_of_isVisible hvisible (Issuer.isVisible_of_issue hissue) ⟨[], _, rfl, by simp⟩
  have hholder : (Caller.ofIdentity ⟨7, "ada", NameSet.ofList ["role-user"]⟩).authenticate.IsHolder
      ⟨7, "ada", NameSet.ofList ["role-user"]⟩ :=
    (Caller.isHolder_iff fun a ha => Or.inl (hroles a ha)).mpr rfl
  refine ⟨hgate, ⟨Caller.anonymous, ?_, hnobody⟩, raw, _, ?_, hholder⟩
  · refine (Gate.admits_iff hgate 0 .empty _ _).mpr (Or.inl ⟨Or.inl (by simp), ?_, hnobody⟩)
    exact ⟨_, List.mem_singleton.mpr rfl, hcovers⟩
  · exact (Gate.admits_iff hgate 0 .empty _ _).mpr
      (Or.inr ⟨raw, _, hbrings, hverify, rfl, hholder⟩)

end BearerGate
