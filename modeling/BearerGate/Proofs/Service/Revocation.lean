import BearerGate.Proofs.Service.Histories
import BearerGate.Proofs.Service.Layers
import BearerGate.Proofs.Service.Setup

/-!
# Revocation Takes Effect at Once

A service that asks a store whether a token has been revoked asks it for every request anew, and
under a key that no other number has. So in any history, whatever else happens in it, a token is
turned away from the moment its key is added until the key is removed, and turned away for another
reason while the store is down; and nothing that is done under other keys, or asked of the
service, makes a difference.

## Main results

* `Revocation.Source.key_inj`, `Revocation.Source.key_injective`: the space and the number can be
  told from a key; a number has a key of its own.
* `Service.turnsAway_of_check`, `Service.letsThrough_of_check`: what screening a token means for
  the requests that bring it.
* `Service.revocation_takes_effect`: the verdict on a token over any history.
-/

namespace BearerGate

open Http (Request)

/-! ### Keys -/

/-- No number is written with a colon. -/
theorem Text.colon_notMem_writeInt64 (id : Int64) : ':' ∉ writeInt64 id := by
  intro h
  rcases of_mem_writeInt64 h with h | h
  · exact absurd h (by decide)
  · exact absurd h (by decide)

/-- The **space and the number** can be told from a key, since the last colon of a key is the one
between them. -/
theorem Revocation.Source.key_inj {space other : String} {i j : Int64} :
    key space i = key other j ↔ space = other ∧ i = j := by
  constructor
  · intro h
    have hcut : ∀ space id, Text.cutLast ':' (key space id).toList =
        some (space.toList, Text.writeInt64 id) := by
      intro space id
      simp only [key, String.toList_append, String.toList_ofList, List.append_assoc]
      exact Text.cutLast_append (Text.colon_notMem_writeInt64 id) _
    have hparts := (hcut space i).symm.trans (h ▸ hcut other j)
    rw [Option.some.injEq, Prod.mk.injEq] at hparts
    exact ⟨String.toList_inj.mp hparts.1, Text.writeInt64_injective hparts.2⟩
  · rintro ⟨rfl, rfl⟩
    rfl

/-- A number has a **key of its own**. -/
theorem Revocation.Source.key_injective {space : String} {i j : Int64}
    (h : key space i = key space j) : i = j :=
  (key_inj.mp h).2

/-! ### Verdicts -/

namespace Service

/-- A service **turns a token away** for a cause: at the gate, and over HTTP with a status and the
cause in the log. -/
structure TurnsAway (service : Service) (world : World) (raw : String) (cause : Rejection)
    (status : Nat) : Prop where
  gate : ∀ head : RequestHead,
    BringsToken service.gate.headerName service.gate.scheme head.headers raw →
    (service.gate.pass world.now world.store head).verdict =
      .error (.authentication cause (Gate.fingerprint raw))
  http : ∀ (fresh : Fresh) (request : Request),
    BringsToken service.gate.headerName service.gate.scheme request.headers raw →
    WithinLimit request.headers →
    (service.handle world.now world.store fresh request).response.status = status ∧
      (service.handle world.now world.store fresh request).events =
        [.tokenRejected request.method request.path cause (Gate.fingerprint raw)]

/-- A service **lets a token through** as an identity: at the gate, and over HTTP to the handler
that the path and the method choose, whose answer is given. -/
structure LetsThrough (service : Service) (world : World) (raw : String) (who : Identity) :
    Prop where
  gate : ∀ head : RequestHead,
    BringsToken service.gate.headerName service.gate.scheme head.headers raw →
    (service.gate.pass world.now world.store head).verdict =
      .ok (Caller.ofIdentity who).authenticate
  http : ∀ (fresh : Fresh) (request : Request),
    BringsToken service.gate.headerName service.gate.scheme request.headers raw →
    WithinLimit request.headers →
    ∃ inner, SameButNumber request inner ∧
      SameOutcome request.method (service.handle world.now world.store fresh request)
        ((service.route world.now fresh (Caller.ofIdentity who).authenticate inner
          (allowance request.headers)).after
            (service.gate.screen.run world.now world.store raw).lookups)

variable {service : Service} {world : World} {raw : String}

/-- A token that **screening turns away** is turned away, with 401 or 503 as the failure lies with
the client or not. -/
theorem turnsAway_of_check {cause : Rejection} {status : Nat}
    (h : service.gate.screen.check world.now world.store raw = .error cause)
    (hstatus : status =
      match (GateFailure.authentication cause (Gate.fingerprint raw)).outward with
        | .unauthenticated => 401
        | .unavailable => 503) : service.TurnsAway world raw cause status where
  gate head hbrings := by
    rw [Gate.verdict_of_bringsToken hbrings, h]
    rfl
  http fresh request hbrings hlimit := by
    obtain ⟨inner, hsame, houtcome⟩ :=
      handle_of_bringsToken service world.now world.store fresh hlimit hbrings
    rw [h] at houtcome
    refine ⟨?_, ?_⟩
    · rw [houtcome.status, hstatus]
      exact status_afterGate_error service world.now fresh inner (allowance request.headers) _
    · rw [houtcome.events, ← hsame.method, ← hsame.path]
      rfl

/-- A token that **screening finds in order** is let through. -/
theorem letsThrough_of_check {who : Identity}
    (h : service.gate.screen.check world.now world.store raw = .ok who) :
    service.LetsThrough world raw who where
  gate head hbrings := by
    rw [Gate.verdict_of_bringsToken hbrings, h]
    rfl
  http fresh request hbrings hlimit := by
    obtain ⟨inner, hsame, houtcome⟩ :=
      handle_of_bringsToken service world.now world.store fresh hlimit hbrings
    rw [h] at houtcome
    exact ⟨inner, hsame, houtcome⟩

/-! ### Stores -/

section Stored

variable {backend : Revocation.Backend} {space : String} {who : Identity}

/-- While the store is up, a token whose key it has is **turned away as revoked**. -/
theorem turnsAway_of_has (hsource : service.gate.screen.source = .stored backend space)
    (hverify : service.gate.screen.verifier.verify world.now raw = .ok who)
    (hup : world.store.outage = none)
    (hhas : world.store.has (Revocation.Source.key space who.id) = true) :
    service.TurnsAway world raw (.revoked who.id) 401 := by
  refine turnsAway_of_check ?_ rfl
  rw [Screen.check_of_verify hverify, hsource, Revocation.Source.isRevoked, hup]
  simp only [hhas]
  rfl

/-- While the store is down, any token that verifies is **turned away as not to be checked**. -/
theorem turnsAway_of_outage (hsource : service.gate.screen.source = .stored backend space)
    (hverify : service.gate.screen.verifier.verify world.now raw = .ok who)
    {outage : Revocation.Outage} (hdown : world.store.outage = some outage) :
    service.TurnsAway world raw (.unavailable (backend.fault outage)) 503 := by
  refine turnsAway_of_check ?_ rfl
  rw [Screen.check_of_verify hverify, hsource, Revocation.Source.isRevoked, hdown]
  rfl

/-- While the store is up, a token whose key it does not have is **let through**. -/
theorem letsThrough_of_not_has (hsource : service.gate.screen.source = .stored backend space)
    (hverify : service.gate.screen.verifier.verify world.now raw = .ok who)
    (hup : world.store.outage = none)
    (hhas : ¬world.store.has (Revocation.Source.key space who.id) = true) :
    service.LetsThrough world raw who := by
  refine letsThrough_of_check ?_
  rw [Bool.not_eq_true] at hhas
  rw [Screen.check_of_verify hverify, hsource, Revocation.Source.isRevoked, hup]
  simp only [hhas]
  rfl

end Stored

end Service

/-! ### Replies -/

/-- A step that **brings a token** to a gate. -/
def Step.Brings (gate : Gate) (raw : String) : Step → Prop
  | .pass head => BringsToken gate.headerName gate.scheme head.headers raw
  | .request _ r => BringsToken gate.headerName gate.scheme r.headers raw
  | .bareRequest r => BringsToken gate.headerName gate.scheme r.headers raw
  | _ => False

/-- A step that **asks something** of the service, as opposed to one that changes the world. -/
def Step.Asks : Step → Prop
  | .issue _ _ | .pass _ | .request _ _ | .bareRequest _ => True
  | _ => False

/-- A status of **success**. -/
def Http.Response.IsSuccess (response : Http.Response) : Prop :=
  200 ≤ response.status ∧ response.status < 300

/-- A reply that **admits**: a caller past the gate, or an answer with a status of success. -/
def Reply.Admits : Reply → Prop
  | .passage p => ∃ caller, p.verdict = .ok caller
  | .exchange e => e.response.IsSuccess
  | .bare response => response.IsSuccess
  | _ => False

namespace Service

/-- Where a token is turned away with a status that is no success, **no reply** to a step that
brings it admits. A request that is too long is not looked at, but refused all the same. -/
theorem TurnsAway.not_admits {service : Service} {world : World} {raw : String}
    {cause : Rejection} {status : Nat} (h : service.TurnsAway world raw cause status)
    (hstatus : 300 ≤ status) {s : Step} (hbrings : s.Brings service.gate raw) :
    ¬(service.reply world s).Admits := by
  cases s with
  | pass head =>
      rintro ⟨caller, hcaller⟩
      rw [h.gate head hbrings] at hcaller
      cases hcaller
  | request fresh request =>
      rintro ⟨-, hlt⟩
      by_cases hlimit : WithinLimit request.headers
      · rw [(h.http fresh request hbrings hlimit).1] at hlt
        omega
      · rw [(handle_of_not_withinLimit _ _ _ _ hlimit).status] at hlt
        exact absurd hlt (by decide)
  | bareRequest request =>
      rintro ⟨-, hlt⟩
      have hle := service.status_handleBare request
      omega
  | clock | addKey | removeKey | setOutage | issue => cases hbrings

/-! ### Histories -/

variable {settings : Settings} {backend : Revocation.Backend} {space : String}
  {service : Service}

/-- A service that was given a store as its source asks that. -/
theorem source_of_assemble
    (hservice : assemble settings (some (.stored backend space)) = .ok service) :
    service.gate.screen.source = .stored backend space := by
  obtain ⟨verifier, checker, -, hsource, -, hgate⟩ :=
    buildGate_eq_ok_iff.mp (assemble_eq_ok_iff.mp hservice).1
  rw [hgate]
  exact (Option.some.inj hsource).symm

/-- Once its key is listed, a token is **not admitted**, whether the store is up or not. -/
theorem not_admits_of_has (hsource : service.gate.screen.source = .stored backend space)
    {world : World} {raw : String} {who : Identity}
    (hverify : service.gate.screen.verifier.verify world.now raw = .ok who)
    (hhas : world.store.has (Revocation.Source.key space who.id) = true) {s : Step}
    (hbrings : s.Brings service.gate raw) : ¬(service.reply world s).Admits := by
  cases houtage : world.store.outage with
  | none =>
      exact (turnsAway_of_has hsource hverify houtage hhas).not_admits (by decide) hbrings
  | some outage =>
      exact (turnsAway_of_outage hsource hverify houtage).not_admits (by decide) hbrings

/-- What the source says of a number **stays the same** over steps that neither touch its key nor
the outage. -/
theorem isRevoked_of_untouched (source : Revocation.Source)
    (hsource : source = .stored backend space) {id : Int64} (start : World) {steps : List Step}
    (h : ∀ s ∈ steps, s ≠ .addKey (Revocation.Source.key space id) ∧
      s ≠ .removeKey (Revocation.Source.key space id) ∧ ∀ outage, s ≠ .setOutage outage) :
    source.isRevoked (service.run start steps).1.store id = source.isRevoked start.store id := by
  have hhas : (service.run start steps).1.store.has (Revocation.Source.key space id) =
      start.store.has (Revocation.Source.key space id) := by
    rw [Bool.eq_iff_iff, has_run_iff]
    exact holdsSince_of_untouched fun s hs => ⟨(h s hs).1, (h s hs).2.1⟩
  have houtage : (service.run start steps).1.store.outage = start.store.outage := by
    rw [outage_run_iff]
    refine (holdsSince_of_untouched fun s hs => ⟨(h s hs).2.2 _, ?_⟩).mpr rfl
    rintro ⟨outage, hset⟩
    exact (h s hs).2.2 outage hset
  rw [hsource, Revocation.Source.isRevoked, Revocation.Source.isRevoked, hhas, houtage]

/-- **Revocation takes effect at once and only for its own number**, over any history of a service
whose source of revocations is a store. After the steps of the history:

* a token that verifies as a number is turned away as revoked, with 401, if the store is up and
  the key of the number has been added and not removed since, or was there from the start;
* it is turned away as not to be checked, with 503, if the store is down;
* otherwise it is let through;
* only a request that announces too long a body is answered with 413, whatever it brings.

So from a step that adds the key of a number to the next one that removes it, no reply to a step
that brings a token with that number admits. What the source says of a number changes with the
steps on its own key and on the outage only, and that key is the key of no other number. No step
that asks something of the service changes the store. -/
theorem revocation_takes_effect
    (hservice : assemble settings (some (.stored backend space)) = .ok service) (start : World)
    (steps : List Step) :
    (∀ raw who,
      service.gate.screen.verifier.verify (service.run start steps).1.now raw = .ok who →
      (OutageIs start.store none steps →
        Listed start.store (Revocation.Source.key space who.id) steps →
        service.TurnsAway (service.run start steps).1 raw (.revoked who.id) 401) ∧
      (∀ outage, OutageIs start.store (some outage) steps →
        service.TurnsAway (service.run start steps).1 raw (.unavailable (backend.fault outage))
          503) ∧
      (OutageIs start.store none steps →
        ¬Listed start.store (Revocation.Source.key space who.id) steps →
        service.LetsThrough (service.run start steps).1 raw who)) ∧
    (∀ fresh request, ¬WithinLimit request.headers →
      (service.handle (service.run start steps).1.now (service.run start steps).1.store fresh
        request).response.status = 413) ∧
    (∀ before between s after id,
      steps = before ++ .addKey (Revocation.Source.key space id) :: between ++ s :: after →
      .removeKey (Revocation.Source.key space id) ∉ between →
      ∀ raw who, s.Brings service.gate raw →
        service.gate.screen.verifier.verify (service.run start
          (before ++ .addKey (Revocation.Source.key space id) :: between)).1.now raw = .ok who →
        who.id = id →
        ∃ reply, (service.run start steps).2[
          (before ++ .addKey (Revocation.Source.key space id) :: between).length]? = some reply ∧
          ¬reply.Admits) ∧
    (∀ id, (∀ s ∈ steps, s ≠ .addKey (Revocation.Source.key space id) ∧
        s ≠ .removeKey (Revocation.Source.key space id) ∧ ∀ outage, s ≠ .setOutage outage) →
      service.gate.screen.source.isRevoked (service.run start steps).1.store id =
        service.gate.screen.source.isRevoked start.store id) ∧
    (∀ i j, Revocation.Source.key space i = Revocation.Source.key space j → i = j) ∧
    ∀ s : Step, s.Asks → ∀ world, (service.step world s).1.store = world.store := by
  have hsource := source_of_assemble hservice
  refine ⟨fun raw who hverify => ⟨fun hup hlisted => ?_, fun outage hdown => ?_,
    fun hup hlisted => ?_⟩, fun fresh request hlimit => ?_, ?_, fun id huntouched => ?_,
    fun i j => Revocation.Source.key_injective, fun s hasks world => ?_⟩
  · rw [← service.outage_run_iff] at hup
    rw [← service.has_run_iff] at hlisted
    exact turnsAway_of_has hsource hverify hup hlisted
  · rw [← service.outage_run_iff] at hdown
    exact turnsAway_of_outage hsource hverify hdown
  · rw [← service.outage_run_iff] at hup
    rw [← service.has_run_iff] at hlisted
    exact letsThrough_of_not_has hsource hverify hup hlisted
  · rw [(handle_of_not_withinLimit _ _ _ _ hlimit).status]
    rfl
  · rintro before between s after id rfl hremoved raw who hbrings hverify rfl
    refine ⟨_, service.reply_of_run _ _ _ _, not_admits_of_has hsource hverify ?_ hbrings⟩
    rw [service.has_run_iff]
    refine Or.inl ⟨before, _, between, rfl, rfl, ?_⟩
    rintro t ht rfl
    exact hremoved ht
  · exact isRevoked_of_untouched _ hsource start huntouched
  · cases s with
    | issue | pass | request | bareRequest => rfl
    | clock | addKey | removeKey | setOutage => cases hasks

/-- A service with the sample settings and a store as its source of revocations. -/
def sampleStoredService : Service :=
  sampleService (.stored .memory "auth:revoked")

/-- The identity of the sample request for a token. -/
def seven : Identity := ⟨7, "ada", NameSet.ofList ["role-user"]⟩

/-- There is a token of number 7 that is good at the sample service in the first second. -/
theorem exists_token_of_seven :
    ∃ raw, Text.IsVisible raw.toList ∧
      sampleStoredService.gate.screen.verifier.verify 0 raw = .ok seven := by
  obtain ⟨raw, hraw⟩ := @exists_issue_sampleIssuer 0 (by decide) 0 seven
  exact ⟨raw, Issuer.isVisible_of_issue hraw,
    verify_sampleVerifier hraw (by decide) (NameSet.roles_of_singleton .user)⟩

/-- A token of number 7 opens the sample service until the key of that number is added, and is
turned away with 401 by the very next request. -/
theorem revocation_takes_effect_on_seven :
    ∃ raw, sampleStoredService.LetsThrough ⟨0, .empty⟩ raw seven ∧
      (sampleStoredService.handle 0 (Revocation.Store.empty.add "auth:revoked:7") sampleFresh
        ⟨"GET", "/api/v1/me", sampleHeaders raw, []⟩).response.status = 401 := by
  obtain ⟨raw, hvisible, hverify⟩ := exists_token_of_seven
  have hservice : assemble sampleSettings (some (.stored .memory "auth:revoked")) =
      .ok sampleStoredService := assemble_sampleSettings rfl
  have hkey : Revocation.Source.key "auth:revoked" 7 = "auth:revoked:7" := by decide +kernel
  have hup : ∀ steps : List Step, (∀ s ∈ steps, ¬∃ other, s = .setOutage other) →
      OutageIs .empty none steps := fun steps hsteps => Or.inr ⟨rfl, hsteps⟩
  have hnever : ¬Listed .empty (Revocation.Source.key "auth:revoked" 7) [] := by
    rw [Listed, holdsSince_nil]
    decide
  have hbefore := ((revocation_takes_effect hservice ⟨0, .empty⟩ []).1 raw seven hverify).2.2
    (hup [] (by simp)) hnever
  have hafter := ((revocation_takes_effect hservice ⟨0, .empty⟩ [.addKey "auth:revoked:7"]).1
    raw seven hverify).1 (hup _ (by simp)) (Or.inl ⟨[], _, [], rfl, congrArg _ hkey.symm, by simp⟩)
  exact ⟨raw, hbefore, (hafter.http sampleFresh ⟨"GET", "/api/v1/me", sampleHeaders raw, []⟩
    (bringsToken_sample hvisible).1 (withinLimit_sampleHeaders raw)).1⟩

/-- A request with a revoked token that announces 70000 bytes is **refused for the length**: it is
not so that every request with a revoked token is answered with 401. -/
theorem not_every_revoked_token_unauthorized :
    assemble sampleSettings (some (.stored .memory "auth:revoked")) = .ok sampleStoredService ∧
      ¬∀ (steps : List Step) (raw : String) (who : Identity) (request : Request),
        OutageIs .empty none steps →
        Listed .empty (Revocation.Source.key "auth:revoked" who.id) steps →
        sampleStoredService.gate.screen.verifier.verify
          (sampleStoredService.run ⟨0, .empty⟩ steps).1.now raw = .ok who →
        BringsToken sampleSettings.headerName sampleSettings.scheme request.headers raw →
        (sampleStoredService.handle (sampleStoredService.run ⟨0, .empty⟩ steps).1.now
          (sampleStoredService.run ⟨0, .empty⟩ steps).1.store sampleFresh
            request).response.status = 401 := by
  refine ⟨assemble_sampleSettings rfl, fun hclaim => ?_⟩
  obtain ⟨raw, hvisible, hverify⟩ := exists_token_of_seven
  have hstatus := hclaim [.addKey (Revocation.Source.key "auth:revoked" seven.id)] raw seven
    ⟨"GET", "/api/v1/me", sampleLongHeaders raw, []⟩ (Or.inr ⟨rfl, by simp⟩)
    (Or.inl ⟨[], _, [], rfl, rfl, by simp⟩) hverify (bringsToken_sample hvisible).2
  rw [(handle_of_not_withinLimit _ _ _ _ (not_withinLimit_sampleLongHeaders raw)).status] at hstatus
  cases hstatus

end Service

end BearerGate
