import BearerGate.Proofs.Service.Setup

/-!
# The Window in Which a Token Is Good

An issued token is good from the second of its issue to that of its expiry, both included, and by
the leeway around. Before the window its issue lies in the future, after it the token has expired,
and inside it stands for the identity that it was issued for, with what the resolver makes of the
grants. The bounds are those of the whole numbers: within the range of a clock neither sum nor
difference that they are reckoned by runs over the end of a 64-bit word.

## Main results

* `reckonsInWords`: the bounds come out the same in words of 64 bits.
* `Verifier.window_of_issue`: what becomes of an issued token at any time.
-/

namespace BearerGate

/-! ### Words -/

/-- The bounds of a token are **reckoned in words** of 64 bits as they are in whole numbers: the
time of expiry that the issuer gives it, a sum; the earliest expiry that the verifier takes, a
difference; and the latest issue that it takes, a sum that stops at the last second. -/
structure ReckonsInWords (issuer : Issuer) (v : Verifier) (issuedAt now : Second) : Prop where
  expiry : ∃ expires, issuer.expiry? issuedAt = some expires ∧
    expires.toInt = (issuedAt + issuer.lifetime : Nat)
  earliest : (v.earliestExpiry now).toNat + v.leeway = now
  latest : (Claims.latestIssue now v.leeway).toInt =
    min ((now + v.leeway : Nat) : Int) Int64.maxValue.toInt

/-- Where the expiry fits and the clock has reached the leeway, **nothing wraps**. -/
theorem reckonsInWords {issuer : Issuer} {v : Verifier} {issuedAt now : Second}
    (hexpiry : issuedAt + issuer.lifetime ≤ Word.last) (hleeway : v.leeway ≤ now) :
    ReckonsInWords issuer v issuedAt now where
  expiry := by
    have hfits := Word.toInt_ofNat hexpiry
    exact ⟨_, Issuer.expiry?_eq_some_iff.mpr hfits, hfits⟩
  earliest := by
    rw [Verifier.toNat_earliestExpiry hleeway]
    omega
  latest := by
    rw [Claims.toInt_latestIssue, Word.toInt_maxValue, Int.natCast_add]

/-! ### Tokens -/

/-- **The window of an issued token.** With one algorithm and matching keys, for any identity, any
lifetime, any leeway and any resolver, and whatever is drawn for the signature: no token is issued
for want of a time of expiry exactly when the time of issue and the lifetime together pass the last
second of 64 bits with sign. A token that is issued, if it is short enough to be looked at, is
judged as follows at any time from the leeway on:

* it has expired when the expiry lies back by more than the leeway;
* its issue lies in the future when that is ahead by more than the leeway;
* at any other time it stands for the number and the name that it was issued for, and grants what
  the resolver makes of its grants, no more and no less.

The bounds are reckoned in words of 64 bits as they are here. -/
theorem Verifier.window_of_issue {issuer : Issuer} {v : Verifier}
    (halgorithm : issuer.algorithm = v.algorithm) (hkeys : issuer.key.Matches v.key)
    (issuedAt : Second) (draw : Nat) (who : Identity) :
    (issuer.issue issuedAt draw who = .error .lifetimeOverflow ↔
      Int64.maxValue.toInt < (issuedAt + issuer.lifetime : Nat)) ∧
    ∀ raw, issuer.issue issuedAt draw who = .ok raw → Utf8.size raw.toList ≤ 8192 →
      ∀ now : Second, v.leeway ≤ now →
        (issuedAt + issuer.lifetime + v.leeway < now → v.verify now raw = .error .expired) ∧
        (now + v.leeway < issuedAt → v.verify now raw = .error (.malformed .issuedInFuture) ∧
          Malformation.issuedInFuture.reason = "issued-at lies in the future") ∧
        (now ≤ issuedAt + issuer.lifetime + v.leeway → issuedAt ≤ now + v.leeway →
          ∃ grants, v.verify now raw = .ok ⟨who.id, who.username, grants⟩ ∧
            ∀ name, name ∈ grants ↔ ∃ grant ∈ who.grants, v.resolve grant = some name) ∧
        ReckonsInWords issuer v issuedAt now := by
  rw [Word.toInt_maxValue, Int.ofNat_lt]
  refine ⟨Issuer.issue_eq_lifetimeOverflow_iff, fun raw hissue hsize now hleeway => ?_⟩
  obtain ⟨expires, hexpires, -⟩ := Issuer.issue_eq_ok_iff.mp hissue
  have hlast := Word.toInt_le_last expires
  rw [verify_issued halgorithm hkeys hissue hsize hleeway]
  refine ⟨fun hlate => ?_, fun hearly => ?_, fun hlate hearly => ?_,
    reckonsInWords (by omega) hleeway⟩
  · rw [if_pos hlate]
  · rw [if_neg (by omega), if_pos hearly]
    exact ⟨rfl, rfl⟩
  · rw [if_neg (by omega), if_neg (by omega)]
    exact ⟨_, rfl, fun name => Identity.mem_grants_resolved⟩

/-- The verifier of the sample settings with half a minute of leeway. -/
def lenientVerifier : Verifier := { sampleVerifier with leeway := 30 }

/-- A token that the sample issuer makes in second 100 is good, by half a minute of leeway, from
second 70 to second 3730: in second 69 its issue lies in the future, and in second 3731 it has
expired. -/
theorem Verifier.window_of_sampleIssuer :
    ∃ raw, sampleIssuer.issue 100 0 ⟨7, "ada", NameSet.ofList ["role-user"]⟩ = .ok raw ∧
      lenientVerifier.verify 69 raw = .error (.malformed .issuedInFuture) ∧
      (∃ grants, lenientVerifier.verify 70 raw = .ok ⟨7, "ada", grants⟩ ∧ "role-user" ∈ grants) ∧
      (∃ grants, lenientVerifier.verify 3730 raw = .ok ⟨7, "ada", grants⟩ ∧
        "role-user" ∈ grants) ∧
      lenientVerifier.verify 3731 raw = .error .expired := by
  obtain ⟨raw, hissue⟩ := @exists_issue_sampleIssuer 100 (by decide) 0
    ⟨7, "ada", NameSet.ofList ["role-user"]⟩
  have hsize := Issuer.size_le_of_issue hissue (by decide) (NameSet.roles_of_singleton .user)
  have halgorithm : sampleIssuer.algorithm = lenientVerifier.algorithm := rfl
  have hkeys : sampleIssuer.key.Matches lenientVerifier.key := samplePair_matches
  have hwindow := (Verifier.window_of_issue halgorithm hkeys 100 0 _).2 raw hissue hsize
  have hgood : ∀ now : Second, 70 ≤ (now : Nat) → (now : Nat) ≤ 3730 →
      ∃ grants, lenientVerifier.verify now raw = .ok ⟨7, "ada", grants⟩ ∧
        "role-user" ∈ grants := by
    intro now hissued hexpires
    have hleeway : lenientVerifier.leeway ≤ now := Nat.le_trans (by decide) hissued
    obtain ⟨grants, hverify, hgrants⟩ := (hwindow now hleeway).2.2.1 hexpires
      (Nat.add_le_add_right hissued 30)
    exact ⟨grants, hverify, (hgrants _).mpr
      ⟨"role-user", NameSet.mem_ofList.mpr (List.mem_singleton.mpr rfl), Role.resolve_name .user⟩⟩
  have hlate := (hwindow 3731 (by decide)).1 (by decide)
  have hearly := ((hwindow 69 (by decide)).2.1 (by decide)).1
  exact ⟨raw, hissue, hearly, hgood 70 (by decide) (by decide), hgood 3730 (by decide) (by decide),
    hlate⟩

end BearerGate
