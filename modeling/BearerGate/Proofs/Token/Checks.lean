import BearerGate.Proofs.Names
import BearerGate.Proofs.Service.Setup
import BearerGate.Proofs.Token.Parts

/-!
# Which Check on the Claims Decides

The checks on the claims of a token are made in a fixed order, and of those that fail the first
decides: it is the one that is reported, whatever is wrong with the claims behind it. A resolver of
grants has no part in this. It maps the texts that the token grants, or leaves them out, after the
checks on them have been passed; so two resolvers turn away the same claims for the same reason, and
admit the same ones, as the same number and user.

The last check is for the time of expiry. No token whose signed form is in order comes to it
without one, because the signed form is not in order without one.

## Main results

* `Claims.reports_identity`: the checks on the claims report the first that fails.
* `Claims.identity_resolvers`: two resolvers, one outcome.
* `Claims.identity_of_sameGrants`: neither the order of the grants matters nor how often they stand.
* `Claims.lacks_iff_isLeftOut`: what claims lack is absent from the payload, or null there.
* `Claims.identity_by_check`: these, of all claims.
-/

namespace BearerGate

/-! ### The checks on the claims -/

namespace Claims

variable {claims : Claims} {resolve : String → Option String} {now : Second} {leeway : Nat}

/-- A check on claims **fails** with a problem at a time. The number of the token is missing also if
it is blank. What is said of the form of a claim is said of one that is there. -/
def Fails (claims : Claims) (now : Second) (leeway : Nat) : TokenProblem → Prop
  | .missingClaim .tokenId =>
    ∀ text, claims.tokenId = some text → Text.isBlankText text.toList = true
  | .malformed .idNotInteger =>
    ∃ text, claims.tokenId = some text ∧ Text.readInt64 (Text.trim text.toList) = none
  | .missingClaim .subject => claims.subject = none
  | .missingClaim .grants => claims.grants = none
  | .malformed .grantsNotList =>
    ∃ value, claims.grants = some value ∧ ∀ items, value ≠ .list items
  | .malformed .grantNotText =>
    ∃ items, claims.grants = some (.list items) ∧ ∃ value ∈ items, ∀ text, value ≠ .text text
  | .missingClaim .issuedAt => claims.issuedAt = none
  | .malformed .issuedInFuture =>
    ∃ issued, claims.issuedAt = some issued ∧ (now : Int) + leeway < issued.toInt
  | .missingClaim .expires => claims.expires = none
  | _ => False

/-- The problems with claims, in the order in which they are looked for. -/
def checkingOrder : List TokenProblem :=
  [.missingClaim .tokenId, .malformed .idNotInteger, .missingClaim .subject,
    .missingClaim .grants, .malformed .grantsNotList, .malformed .grantNotText,
    .missingClaim .issuedAt, .malformed .issuedInFuture, .missingClaim .expires]

/-- A check that fails is one of those that are made. -/
theorem Fails.mem_checkingOrder {p : TokenProblem} (h : claims.Fails now leeway p) :
    p ∈ checkingOrder := by
  unfold Fails at h
  split at h
  all_goals first | exact h.elim | simp [checkingOrder]

/-- A claim that has to be there is reported if it is not. -/
theorem reports_require {α : Type} {claim : ClaimName} {value : Option α}
    (h : claims.Fails now leeway (.missingClaim claim) ↔ value = none) :
    Reports (claims.Fails now leeway) [.missingClaim claim] (require claim value) := by
  refine .single fun p => ?_
  rw [h]
  cases value <;> simp [require, eq_comm]

/-- The number of a token is missing when there is no text for it but a blank one. -/
theorem fails_tokenId_iff : claims.Fails now leeway (.missingClaim .tokenId) ↔
    claims.tokenId.filter (fun text => !Text.isBlankText text.toList) = none := by
  rw [Option.filter_eq_none_iff]
  simp [Fails]

/-- A number of a token that is there is reported if it does not read as one. -/
theorem reports_number {text : String} (h : claims.tokenId = some text)
    {f : Int64 → Except TokenProblem Identity} {row : List TokenProblem}
    (hf : ∀ id, Reports (claims.Fails now leeway) row (f id)) :
    Reports (claims.Fails now leeway) (.malformed .idNotInteger :: row)
      (match Text.readInt64 (Text.trim text.toList) with
        | some id => f id
        | none => .error (.malformed .idNotInteger)) := by
  have hfails : claims.Fails now leeway (.malformed .idNotInteger) ↔
      Text.readInt64 (Text.trim text.toList) = none := by simp [Fails, h]
  intro p
  rw [isFirst_cons_iff, hfails]
  cases Text.readInt64 (Text.trim text.toList) with
  | some id => simpa using hf id p
  | none => simp [eq_comm]

/-- A list of values is one of texts unless some value is none. -/
theorem textsOf?_eq_none_iff {items : List Json.Value} :
    textsOf? items = none ↔ ∃ value ∈ items, ∀ text, value ≠ .text text := by
  induction items with
  | nil => simp [textsOf?]
  | cons value items ih =>
      rw [List.exists_mem_cons_iff, ← ih]
      cases value with
      | text s => simp [textsOf?]
      | _ => simp [textsOf?]

/-- What is granted is reported if it is no list, or a list with a value that is no text. -/
theorem reports_grantsOf {value : Json.Value} (h : claims.grants = some value) :
    Reports (claims.Fails now leeway) [.malformed .grantsNotList, .malformed .grantNotText]
      (grantsOf resolve value) := by
  unfold grantsOf
  split
  · next items =>
    have hlist : ¬claims.Fails now leeway (.malformed .grantsNotList) := by simp [Fails, h]
    have hfails : claims.Fails now leeway (.malformed .grantNotText) ↔ textsOf? items = none := by
      simp [Fails, h, textsOf?_eq_none_iff]
    intro p
    rw [isFirst_cons_iff, isFirst_cons_iff, hfails]
    cases textsOf? items <;> simp [hlist, not_isFirst_nil, eq_comm]
  · next hlist =>
    have hfails : claims.Fails now leeway (.malformed .grantsNotList) := ⟨value, h, hlist⟩
    intro p
    simp [isFirst_cons_iff, hfails, eq_comm]

/-- The **checks on the claims** report the first that fails, whatever the resolver. -/
theorem reports_identity (claims : Claims) (resolve : String → Option String) (now : Second)
    (leeway : Nat) :
    Reports (claims.Fails now leeway) checkingOrder (claims.identity resolve now leeway) := by
  refine (reports_require fails_tokenId_iff).bind fun text htext => ?_
  rw [require_eq_ok_iff, Option.filter_eq_some_iff] at htext
  refine reports_number htext.1 fun id => ?_
  refine (reports_require Iff.rfl).bind fun username _ => ?_
  refine (reports_require Iff.rfl).bind fun value hvalue => ?_
  refine (reports_grantsOf (require_eq_ok_iff.mp hvalue)).bind fun grants _ => ?_
  refine (reports_require Iff.rfl).bind fun issued hissued => ?_
  rw [require_eq_ok_iff] at hissued
  refine .ite (by simp [Fails, hissued, latestIssue_lt_iff]) fun _ => ?_
  exact (reports_require Iff.rfl).bind fun expires _ => .ok _

/-! ### Resolvers and grants -/

/-- **Two resolvers** give claims one outcome: the same problem, or an identity with the same number
and user each, whose grants are what the one and the other makes of the same texts. -/
theorem identity_resolvers (claims : Claims) (resolve resolve' : String → Option String)
    (now : Second) (leeway : Nat) :
    (∃ p, claims.identity resolve now leeway = .error p ∧
      claims.identity resolve' now leeway = .error p) ∨
    ∃ id username, ∃ texts : List String, claims.grants = some (.list (texts.map .text)) ∧
      claims.identity resolve now leeway =
        .ok ⟨id, username, .ofList (texts.filterMap resolve)⟩ ∧
      claims.identity resolve' now leeway =
        .ok ⟨id, username, .ofList (texts.filterMap resolve')⟩ := by
  cases h : claims.identity resolve now leeway with
  | error p =>
      rw [reports_identity] at h
      exact Or.inl ⟨p, rfl, (reports_identity claims resolve' now leeway p).mpr h⟩
  | ok who =>
      obtain ⟨hid, husername, ⟨value, hvalue, hgrants⟩, hrest⟩ := identity_eq_ok_iff.mp h
      obtain ⟨texts, rfl, heq⟩ := grantsOf_eq_ok_iff.mp hgrants
      refine Or.inr ⟨who.id, who.username, texts, hvalue, by rw [← heq], ?_⟩
      exact identity_eq_ok_iff.mpr
        ⟨hid, husername, ⟨_, hvalue, grantsOf_eq_ok_iff.mpr ⟨texts, rfl, rfl⟩⟩, hrest⟩

/-- Lists with the same values grant the same. -/
theorem grantsOf_of_sameGrants {items items' : List Json.Value}
    (h : ∀ value, value ∈ items ↔ value ∈ items') {grants : NameSet}
    (hgrants : grantsOf resolve (.list items) = .ok grants) :
    grantsOf resolve (.list items') = .ok grants := by
  obtain ⟨texts, hlist, rfl⟩ := grantsOf_eq_ok_iff.mp hgrants
  obtain rfl := Json.Value.list.inj hlist
  cases htexts' : textsOf? items' with
  | none =>
      obtain ⟨value, hvalue, hnone⟩ := textsOf?_eq_none_iff.mp htexts'
      obtain ⟨text, -, rfl⟩ := List.mem_map.mp ((h value).mpr hvalue)
      exact absurd rfl (hnone text)
  | some texts' =>
      obtain rfl := textsOf?_eq_some_iff.mp htexts'
      have hsame : ∀ text, text ∈ texts ↔ text ∈ texts' := fun text => by
        simpa using h (.text text)
      refine grantsOf_eq_ok_iff.mpr ⟨texts', rfl, NameSet.ext_mem fun grant => ?_⟩
      simp only [NameSet.mem_ofList, List.mem_filterMap, hsame]

/-- Of the grants only **what they are** matters, neither their order nor how often they stand. -/
theorem identity_of_sameGrants {items items' : List Json.Value}
    (h : ∀ value, value ∈ items ↔ value ∈ items') :
    { claims with grants := some (.list items) }.identity resolve now leeway =
      { claims with grants := some (.list items') }.identity resolve now leeway := by
  have hfails : { claims with grants := some (.list items) }.Fails now leeway =
      { claims with grants := some (.list items') }.Fails now leeway := by
    funext p
    unfold Fails
    split <;> simp [h]
  cases hidentity : { claims with grants := some (.list items) }.identity resolve now leeway with
  | error p =>
      rw [reports_identity, hfails] at hidentity
      exact ((reports_identity _ resolve now leeway p).mpr hidentity).symm
  | ok who =>
      obtain ⟨hid, husername, ⟨value, hvalue, hgrants⟩, hrest⟩ := identity_eq_ok_iff.mp hidentity
      obtain rfl := Option.some.inj hvalue
      have hgrants' := grantsOf_of_sameGrants h hgrants
      symm
      exact identity_eq_ok_iff.mpr ⟨hid, husername, ⟨.list items', rfl, hgrants'⟩, hrest⟩

/-! ### Claims that are left out of a payload -/

/-- Claims **lack** one: nothing has been found for it. -/
def Lacks (claims : Claims) : ClaimName → Prop
  | .tokenId => claims.tokenId = none
  | .subject => claims.subject = none
  | .grants => claims.grants = none
  | .issuedAt => claims.issuedAt = none
  | .expires => claims.expires = none

/-- A claim is **left out** of members: none of them has its name, or the one that has is null. -/
def IsLeftOut (claim : ClaimName) (members : List Json.Member) : Prop :=
  Json.valuesNamed claim.text members = [] ∨ Json.valuesNamed claim.text members = [[.null]]

/-- What has been read of a payload lacks the claims that are left out of the members so far. -/
structure Partial.LacksLeftOut (p : Partial) (members : List Json.Member) : Prop where
  fresh : ∀ name ∈ known, name ∉ p.seen → Json.valuesNamed name members = []
  lacks : ∀ claim, p.claims.Lacks claim ↔ IsLeftOut claim members

/-- A field that is empty just if the members before one leave its claim out is so with that one
too. -/
theorem Fills.none_iff {α : Type} (claim : ClaimName) {spells : α → List Json.Token → Prop}
    {old new : Option α} {m : Json.Member} (h : Fills claim.text spells old new m)
    {members : List Json.Member} (hold : old = none ↔ IsLeftOut claim members)
    (hfresh : String.ofList m.1 = claim.text → Json.valuesNamed claim.text members = []) :
    new = none ↔ IsLeftOut claim (members ++ [m]) := by
  by_cases hname : String.ofList m.1 = claim.text
  · rw [(h.1 hname).1, IsLeftOut, Json.valuesNamed_concat_self hname, hfresh hname]
    simp
  · rw [h.2 hname, hold, IsLeftOut, IsLeftOut, Json.valuesNamed_concat_of_ne hname]

/-- Every member that is read keeps it so. -/
theorem keepsLacksLeftOut_member : Json.KeepsInvariant member Partial.LacksLeftOut := by
  rintro p members cs tokens ⟨after, seen⟩ rest hp h
  obtain ⟨value, hvalue, rfl, hnew, rfl, htakes⟩ := member_sound h
  refine ⟨value, hvalue, rfl, fresh_concat hp.fresh (cs, value), fun claim => ?_⟩
  have hold := hp.lacks claim
  have hfresh : String.ofList cs = claim.text → Json.valuesNamed claim.text members = [] := by
    intro hname
    have hknown : claim.text ∈ known := by cases claim <;> decide
    refine hp.fresh _ hknown ?_
    rw [← hname] at hknown ⊢
    exact hnew hknown
  cases claim with
  | tokenId => exact Fills.none_iff .tokenId htakes.tokenId hold hfresh
  | subject => exact Fills.none_iff .subject htakes.subject hold hfresh
  | grants => exact Fills.none_iff .grants htakes.grants hold hfresh
  | issuedAt => exact Fills.none_iff .issuedAt htakes.issuedAt hold hfresh
  | expires => exact Fills.none_iff .expires htakes.expires hold hfresh

/-- A payload from which a time of expiry is read is an object, and the claims that are **lacking**
are those that are left out of its members. -/
theorem lacks_iff_isLeftOut {bytes : Bytes} (h : read bytes = .ok claims)
    (hexpires : claims.expires.isSome = true) :
    ∃ members, Json.IsObject bytes members ∧
      ∀ claim, claims.Lacks claim ↔ IsLeftOut claim members := by
  have hstart : Partial.LacksLeftOut ⟨⟨none, none, none, none, none⟩, []⟩ [] := by
    refine ⟨fun _ _ _ => rfl, fun claim => ?_⟩
    cases claim <;> exact iff_of_true rfl (Or.inl rfl)
  obtain ⟨members, seen, hobject, hlacks⟩ :=
    read_invariant keepsLacksLeftOut_member hstart h hexpires
  exact ⟨members, hobject, hlacks.lacks⟩

end Claims

/-! ### All checks -/

/-- A verifier **hands over** the claims of a text to the checks on claims: the text is not too
long, and the token that it is has its signed form in order. -/
def Verifier.HandsOver (v : Verifier) (now : Second) (raw : String) (claims : Claims) : Prop :=
  Utf8.size raw.toList ≤ maxSize ∧ ∃ token, Compact.ofText? raw.toList = some token ∧
    v.verifiedClaims now token = .ok claims

namespace Verifier.HandsOver

variable {v : Verifier} {now : Second} {raw : String} {claims : Claims}

/-- What becomes of the text is what becomes of the claims. -/
theorem verify_eq (h : v.HandsOver now raw claims) :
    v.verify now raw = claims.identity v.resolve now v.leeway := by
  obtain ⟨hsize, token, htoken, hclaims⟩ := h
  unfold verify
  dsimp only
  rw [if_neg (by simp [not_isBlankText_of_ofText? htoken]), if_neg (by omega), htoken]
  simp only [hclaims]
  rfl

/-- Claims that are handed over have a time of expiry. -/
theorem isSome_expires (h : v.HandsOver now raw claims) : claims.expires.isSome = true := by
  obtain ⟨-, token, -, hclaims⟩ := h
  obtain ⟨-, -, -, expires, hexpires, -⟩ := verifiedClaims_eq_ok_iff.mp hclaims
  rw [hexpires]
  rfl

/-- Of claims that are handed over the last check does not fail. -/
theorem not_fails_expires (h : v.HandsOver now raw claims) (leeway : Nat) :
    ¬claims.Fails now leeway (.missingClaim .expires) := by
  intro hfails
  have hnone : claims.expires = none := hfails
  have hexpires := h.isSome_expires
  rw [hnone] at hexpires
  cases hexpires

/-- Claims that are handed over are those of the payload: they lack what is left out there. -/
theorem exists_payload (h : v.HandsOver now raw claims) :
    ∃ token payload members, Compact.ofText? raw.toList = some token ∧
      Compact.decodePart? token.payload = some payload ∧ Json.IsObject payload members ∧
      ∀ claim, claims.Lacks claim ↔ Claims.IsLeftOut claim members := by
  have hexpires := h.isSome_expires
  obtain ⟨-, token, htoken, hclaims⟩ := h
  obtain ⟨-, -, ⟨payload, hpayload, hread⟩, -⟩ := verifiedClaims_eq_ok_iff.mp hclaims
  obtain ⟨members, hobject, hlacks⟩ := Claims.lacks_iff_isLeftOut hread hexpires
  exact ⟨token, payload, members, htoken, hpayload, hobject, hlacks⟩

end Verifier.HandsOver

namespace Claims

/-- The **checks on claims**, whatever the claims, the time and the leeway.

* Under any resolver the problem is the first check that fails, in the order in which they are made,
  and there is an identity exactly when none fails.
* Two resolvers give the same problem, or the same number and user with what the one and the other
  makes of the same texts.
* Neither the order of the grants matters nor how often they stand.
* Claims that a verifier hands over lack what is left out of the payload, and that is never the time
  of expiry; so the last check does not fail. -/
theorem identity_by_check (claims : Claims) (now : Second) (leeway : Nat) :
    (∀ resolve p, claims.identity resolve now leeway = .error p ↔
      IsFirst (claims.Fails now leeway) checkingOrder p) ∧
    (∀ resolve, (∃ who, claims.identity resolve now leeway = .ok who) ↔
      ∀ p, ¬claims.Fails now leeway p) ∧
    (∀ resolve resolve',
      (∃ p, claims.identity resolve now leeway = .error p ∧
        claims.identity resolve' now leeway = .error p) ∨
      ∃ id username, ∃ texts : List String, claims.grants = some (.list (texts.map .text)) ∧
        claims.identity resolve now leeway =
          .ok ⟨id, username, .ofList (texts.filterMap resolve)⟩ ∧
        claims.identity resolve' now leeway =
          .ok ⟨id, username, .ofList (texts.filterMap resolve')⟩) ∧
    (∀ resolve items items', (∀ value, value ∈ items ↔ value ∈ items') →
      { claims with grants := some (.list items) }.identity resolve now leeway =
        { claims with grants := some (.list items') }.identity resolve now leeway) ∧
    ∀ (v : Verifier) (raw : String), v.HandsOver now raw claims →
      v.verify now raw = claims.identity v.resolve now v.leeway ∧
      (∃ token payload members, Compact.ofText? raw.toList = some token ∧
        Compact.decodePart? token.payload = some payload ∧ Json.IsObject payload members ∧
        ∀ claim, claims.Lacks claim ↔ IsLeftOut claim members) ∧
      ¬claims.Fails now leeway (.missingClaim .expires) ∧
      v.verify now raw ≠ .error (.missingClaim .expires) := by
  refine ⟨fun resolve p => reports_identity claims resolve now leeway p, fun resolve => ?_,
    fun resolve resolve' => identity_resolvers claims resolve resolve' now leeway,
    fun resolve items items' hsame => identity_of_sameGrants hsame,
    fun v raw hhands => ⟨hhands.verify_eq, hhands.exists_payload,
      hhands.not_fails_expires leeway, fun hverify => ?_⟩⟩
  · rw [(reports_identity claims resolve now leeway).exists_eq_ok_iff]
    exact ⟨fun h p hfails => h p hfails.mem_checkingOrder hfails, fun h p _ => h p⟩
  · rw [hhands.verify_eq, reports_identity] at hverify
    obtain ⟨-, -, -, hfails, -⟩ := hverify
    exact hhands.not_fails_expires v.leeway hfails

/-- A token that the sample issuer makes in second 100 is handed over then, and its claims have a
time of expiry. Were its grants two roles, it would not matter which of them comes first and whether
it comes again; and under a resolver that maps nothing it would stand for the same number. -/
theorem identity_by_check_of_sampleIssuer :
    ∃ raw claims, sampleVerifier.HandsOver 100 raw claims ∧
      sampleVerifier.verify 100 raw =
        claims.identity sampleVerifier.resolve 100 sampleVerifier.leeway ∧
      ¬claims.Fails 100 sampleVerifier.leeway (.missingClaim .expires) ∧
      { claims with grants := some (.list [.text "user", .text "admin", .text "user"]) }.identity
          Role.resolve 100 sampleVerifier.leeway =
        { claims with grants := some (.list [.text "admin", .text "user"]) }.identity
          Role.resolve 100 sampleVerifier.leeway ∧
      ∃ who, claims.identity (fun _ => none) 100 sampleVerifier.leeway = .ok who := by
  have hroles : ∀ value : Json.Value, value ∈ [.text "user", .text "admin", .text "user"] ↔
      value ∈ [.text "admin", .text "user"] := fun value => by
    simp only [List.mem_cons, List.not_mem_nil, or_false]
    tauto
  obtain ⟨raw, hissue⟩ := @exists_issue_sampleIssuer 100 (by decide) 0 ⟨7, "ada", .empty⟩
  have hverify := verify_sampleVerifier hissue (by decide) NameSet.roles_of_empty
  obtain ⟨hsize, token, htoken, claims, hclaims, hidentity⟩ :=
    Verifier.verify_eq_ok_iff.mp hverify
  have hhands : sampleVerifier.HandsOver 100 raw claims := ⟨hsize, token, htoken, hclaims⟩
  obtain ⟨-, hadmitted, -, hsame, hexpires⟩ := identity_by_check claims 100 sampleVerifier.leeway
  obtain ⟨hjudged, -, hlast, -⟩ := hexpires sampleVerifier raw hhands
  exact ⟨raw, claims, hhands, hjudged, hlast, hsame _ _ _ hroles,
    (hadmitted _).mpr ((hadmitted sampleVerifier.resolve).mp ⟨_, hidentity⟩)⟩

end Claims

end BearerGate
