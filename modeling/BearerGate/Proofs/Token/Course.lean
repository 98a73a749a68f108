import Mathlib.Data.ENat.Basic
import BearerGate.Proofs.Service.Setup
import BearerGate.Proofs.Token.Verification

/-!
# The Course of a Verdict

Whatever a text is, the verdict on it runs through three stretches of time, in this order and each
of them possibly empty: it is refused for one reason, it stands for one identity, it has expired.
The clock is read twice on the way to a verdict, for the expiry and for the time of issue; all other
checks come out the same at any time. The clocks are those from the leeway on: before it the
earliest expiry that is taken is a difference that runs over the end of a word. The expiry is looked
at before the rest of the claims are, so claims that are not in order, or an issue that lies behind
the expiry, leave no second stretch; what is refused has expired in the end all the same.

Of a first stretch nothing but an issue that lies in the future is ever got over. Where the signed
form is not in order the first stretch does not end, which is what `⊤` as the start of the next one
says.

## Main results

* `Verifier.refused_or_timed`: the verdict on a text as a function of the time.
* `Verifier.exists_course`: every text takes a course.
* `Verifier.verdict_moves_forward`: what can become of a verdict, and what cannot.
-/

namespace BearerGate

/-! ### Courses -/

/-- A verdict **takes a course** from `start` on: it is the refusal for one problem before `first`,
one identity from then until `last`, and an expiry from `last` on. The problem is not that of an
expiry, and if anything comes between it and the expiry, it is that of an issue in the future. -/
structure TakesCourse (start : ℕ) (verdict : Second → Except TokenProblem Identity)
    (problem : TokenProblem) (who : Identity) (first last : ℕ∞) : Prop where
  ordered : first ≤ last
  before : ∀ now : Second, start ≤ now → now.toNat < first → verdict now = .error problem
  between : ∀ now : Second, start ≤ now → first ≤ now.toNat → now.toNat < last →
    verdict now = .ok who
  after : ∀ now : Second, start ≤ now → last ≤ now.toNat → verdict now = .error .expired
  unexpired : problem ≠ .expired
  early : 0 < first → first < last → problem = .malformed .issuedInFuture

namespace TakesCourse

variable {start : ℕ} {verdict : Second → Except TokenProblem Identity} {problem : TokenProblem}
  {who : Identity} {first last : ℕ∞} {now : Second}

/-- What is refused at any time for one problem takes a course that stays at its start. -/
theorem of_refused (hproblem : problem ≠ .expired) (h : ∀ now, verdict now = .error problem)
    (who : Identity) : TakesCourse start verdict problem who ⊤ ⊤ where
  ordered := le_rfl
  before now _ _ := h now
  between now _ hfirst _ := absurd hfirst (by simp)
  after now _ hlast := absurd hlast (by simp)
  unexpired := hproblem
  early _ hlt := absurd hlt (lt_irrefl _)

/-- What is refused for one problem until a last second takes a course without an identity. -/
theorem of_refused_until (hproblem : problem ≠ .expired) {lastGood : ℕ}
    (h : ∀ now : Second, start ≤ now →
      verdict now = if lastGood < now then .error .expired else .error problem)
    (who : Identity) :
    TakesCourse start verdict problem who (lastGood + 1 : ℕ) (lastGood + 1 : ℕ) where
  ordered := le_rfl
  before now hstart hnow := by
    rw [Nat.cast_lt] at hnow
    rw [h now hstart, if_neg (by omega)]
  between now _ hfirst hlast := absurd hlast (not_lt.mpr hfirst)
  after now hstart hnow := by
    rw [Nat.cast_le] at hnow
    rw [h now hstart, if_pos (by omega)]
  unexpired := hproblem
  early _ hlt := absurd hlt (lt_irrefl _)

/-- What stands for an identity from a first second to a last one takes a course in which what is
before lies in the future. The two need not be in order. -/
theorem of_window {firstGood lastGood : ℕ}
    (h : ∀ now : Second, start ≤ now → verdict now = if lastGood < now then .error .expired
      else if now < firstGood then .error (.malformed .issuedInFuture) else .ok who) :
    TakesCourse start verdict (.malformed .issuedInFuture) who
      (min firstGood (lastGood + 1) : ℕ) (lastGood + 1 : ℕ) where
  ordered := Nat.cast_le.mpr (Nat.min_le_right _ _)
  before now hstart hnow := by
    rw [Nat.cast_lt] at hnow
    rw [h now hstart, if_neg (by omega), if_pos (by omega)]
  between now hstart hfirst hlast := by
    rw [Nat.cast_le] at hfirst
    rw [Nat.cast_lt] at hlast
    rw [h now hstart, if_neg (by omega), if_neg (by omega)]
  after now hstart hnow := by
    rw [Nat.cast_le] at hnow
    rw [h now hstart, if_pos (by omega)]
  unexpired := by simp
  early _ _ := rfl

/-- An expiry is that of the last stretch. -/
theorem last_le_of_expired (h : TakesCourse start verdict problem who first last)
    (hstart : start ≤ now) (hnow : verdict now = .error .expired) : last ≤ now.toNat := by
  by_contra hlast
  rw [not_le] at hlast
  by_cases hfirst : first ≤ now.toNat
  · rw [h.between now hstart hfirst hlast] at hnow
    cases hnow
  · rw [h.before now hstart (not_le.mp hfirst), Except.error.injEq] at hnow
    exact h.unexpired hnow

/-- An identity is that of the second stretch. -/
theorem of_ok (h : TakesCourse start verdict problem who first last) {found : Identity}
    (hstart : start ≤ now) (hnow : verdict now = .ok found) :
    first ≤ now.toNat ∧ now.toNat < last ∧ found = who := by
  have hfirst : first ≤ now.toNat := by
    by_contra hfirst
    rw [h.before now hstart (not_le.mp hfirst)] at hnow
    cases hnow
  have hlast : now.toNat < last := by
    by_contra hlast
    rw [h.after now hstart (not_lt.mp hlast)] at hnow
    cases hnow
  rw [h.between now hstart hfirst hlast, Except.ok.injEq] at hnow
  exact ⟨hfirst, hlast, hnow.symm⟩

/-- A problem that is not that of an expiry is that of the first stretch. -/
theorem of_error (h : TakesCourse start verdict problem who first last) {found : TokenProblem}
    (hstart : start ≤ now) (hnow : verdict now = .error found) (hfound : found ≠ .expired) :
    now.toNat < first ∧ found = problem := by
  have hlast : now.toNat < last := by
    by_contra hlast
    rw [h.after now hstart (not_lt.mp hlast), Except.error.injEq] at hnow
    exact hfound hnow.symm
  have hfirst : now.toNat < first := by
    by_contra hfirst
    rw [h.between now hstart (not_lt.mp hfirst) hlast] at hnow
    cases hnow
  rw [h.before now hstart hfirst, Except.error.injEq] at hnow
  exact ⟨hfirst, hnow.symm⟩

end TakesCourse

/-! ### What depends on the time -/

/-- A verdict is **always the same refusal**, and not that of an expiry. -/
def AlwaysRefused {α : Type} (verdict : Second → Except TokenProblem α) : Prop :=
  ∃ problem, problem ≠ .expired ∧ ∀ now, verdict now = .error problem

/-- A verdict that starts with a check of **something other than the time** is always the same
refusal, or it is the verdict on what the check has found. -/
theorem alwaysRefused_or_exists {α β : Type} {verdict : Second → Except TokenProblem β}
    {check : Except TokenProblem α} {rest : Second → α → Except TokenProblem β}
    (h : ∀ now, verdict now = check >>= rest now) (hcheck : check ≠ .error .expired) :
    AlwaysRefused verdict ∨ ∃ a, check = .ok a ∧ ∀ now, verdict now = rest now a := by
  cases check with
  | error problem => exact Or.inl ⟨problem, fun heq => hcheck (by rw [heq]), h⟩
  | ok a => exact Or.inr ⟨a, rfl, h⟩

namespace Claims

/-- A claim that has to be there has not expired if it is not. -/
theorem require_ne_expired {α : Type} (claim : ClaimName) (value : Option α) :
    require claim value ≠ .error .expired := by
  cases value <;> simp [require]

/-- Grants that are not in order have not expired. -/
theorem grantsOf_ne_expired (resolve : String → Option String) (value : Json.Value) :
    grantsOf resolve value ≠ .error .expired := by
  intro h
  unfold grantsOf at h
  split at h
  · split at h <;> cases h
  · cases h

/-- The checks on claims that expire come out the same at any time, or they depend on **when the
token was issued** and on nothing else. -/
theorem refused_or_issued {claims : Claims} (hexpires : claims.expires.isSome = true)
    (resolve : String → Option String) (leeway : ℕ) :
    AlwaysRefused (fun now => claims.identity resolve now leeway) ∨
    ∃ who, ∃ issued : Int64, ∀ now : Second, claims.identity resolve now leeway =
      if (now : ℤ) + leeway < issued.toInt then .error (.malformed .issuedInFuture)
      else .ok who := by
  obtain hrefused | ⟨text, htext, hrest⟩ := alwaysRefused_or_exists
    (fun now => (rfl : claims.identity resolve now leeway = _))
    (require_ne_expired .tokenId (claims.tokenId.filter fun text => !Text.isBlankText text.toList))
  · exact Or.inl hrefused
  obtain ⟨htokenId, -⟩ := Option.filter_eq_some_iff.mp (require_eq_ok_iff.mp htext)
  cases hid : Text.readInt64 (Text.trim text.toList) with
  | none =>
      simp only [hid] at hrest
      exact Or.inl ⟨.malformed .idNotInteger, by simp, hrest⟩
  | some id =>
      simp only [hid] at hrest
      obtain hrefused | ⟨_, hsame, hrest⟩ := alwaysRefused_or_exists hrest (by simp)
      · exact Or.inl hrefused
      cases hsame
      obtain hrefused | ⟨username, hsubject, hrest⟩ := alwaysRefused_or_exists hrest
        (require_ne_expired .subject claims.subject)
      · exact Or.inl hrefused
      obtain hrefused | ⟨value, hvalue, hrest⟩ := alwaysRefused_or_exists hrest
        (require_ne_expired .grants claims.grants)
      · exact Or.inl hrefused
      obtain hrefused | ⟨grants, hgrants, hrest⟩ := alwaysRefused_or_exists hrest
        (grantsOf_ne_expired resolve value)
      · exact Or.inl hrefused
      obtain hrefused | ⟨issued, hissued, -⟩ := alwaysRefused_or_exists hrest
        (require_ne_expired .issuedAt claims.issuedAt)
      · exact Or.inl hrefused
      rw [require_eq_ok_iff] at hsubject hvalue hissued
      exact Or.inr ⟨⟨id, username, grants⟩, issued, fun now =>
        identity_of_wellFormed htokenId hid hsubject hvalue hgrants hissued hexpires⟩

end Claims

namespace Verifier

variable {v : Verifier}

/-- A part that cannot be decoded has not expired. -/
theorem part_ne_expired (encoded : List Char) : part encoded ≠ .error .expired := by
  rw [part]
  cases Compact.decodePart? encoded <;> simp

/-- A part that cannot be read has not expired. -/
theorem readPart_ne_expired {α : Type} (read : Bytes → Except Json.Problem α) (bytes : Bytes) :
    readPart read bytes ≠ .error .expired := by
  rw [readPart]
  cases read bytes <;> simp

/-- The checks on the expiry of claims come out the same at any time, or they depend on **when the
claims expire**, from the leeway on. -/
theorem checkExpiry_refused_or_expires (v : Verifier) (claims : Claims) :
    AlwaysRefused (fun now => v.checkExpiry now claims) ∨
    ∃ expires : ℕ, claims.expires.isSome = true ∧ ∀ now : Second, v.leeway ≤ now →
      v.checkExpiry now claims =
        if expires + v.leeway < now then .error .expired else .ok claims := by
  cases hkept : claims.expires.filter fun t => 0 ≤ t.toInt with
  | none =>
      refine Or.inl ⟨.missingClaim .expires, by simp, fun now => ?_⟩
      simp only [checkExpiry, hkept]
  | some expires =>
      obtain ⟨hexpires, hpos⟩ := Option.filter_eq_some_iff.mp hkept
      have hpos : 0 ≤ expires.toInt := of_decide_eq_true hpos
      refine Or.inr ⟨expires.toInt.toNat, by rw [hexpires]; rfl, fun now hnow => ?_⟩
      rw [checkExpiry_of_expires hexpires hpos hnow]
      exact if_congr (by omega) rfl rfl

/-- The checks on the signed form come out the same at any time, or they depend on **when the claims
expire** and on nothing else. -/
theorem verifiedClaims_refused_or_expires (v : Verifier) (token : Compact) :
    AlwaysRefused (fun now => v.verifiedClaims now token) ∨
    ∃ claims, ∃ expires : ℕ, claims.expires.isSome = true ∧ ∀ now : Second, v.leeway ≤ now →
      v.verifiedClaims now token =
        if expires + v.leeway < now then .error .expired else .ok claims := by
  obtain hrefused | ⟨header, -, hrest⟩ := alwaysRefused_or_exists
    (fun now => (rfl : v.verifiedClaims now token = _)) (part_ne_expired token.header)
  · exact Or.inl hrefused
  obtain hrefused | ⟨algorithm, -, hrest⟩ := alwaysRefused_or_exists hrest
    (readPart_ne_expired Header.read header)
  · exact Or.inl hrefused
  by_cases hother : algorithm ≠ v.algorithm
  · exact Or.inl ⟨.malformed .otherAlgorithm, by simp, fun now =>
      (hrest now).trans (if_pos hother)⟩
  simp only [if_neg hother] at hrest
  obtain hrefused | ⟨signature, -, hrest⟩ := alwaysRefused_or_exists hrest
    (part_ne_expired token.signature)
  · exact Or.inl hrefused
  by_cases hvalid : v.key.verify token.signedBytes signature = true
  · simp only [if_pos hvalid] at hrest
    obtain hrefused | ⟨payload, -, hrest⟩ := alwaysRefused_or_exists hrest
      (part_ne_expired token.payload)
    · exact Or.inl hrefused
    obtain hrefused | ⟨claims, -, hrest⟩ := alwaysRefused_or_exists hrest
      (readPart_ne_expired Claims.read payload)
    · exact Or.inl hrefused
    simp only [hrest]
    rcases v.checkExpiry_refused_or_expires claims with hrefused | hexpires
    · exact Or.inl hrefused
    · exact Or.inr ⟨claims, hexpires⟩
  · exact Or.inl ⟨.badSignature, by simp, fun now => (hrest now).trans (if_neg hvalid)⟩

/-- **The verdict on a text as a function of the time**: it is always the same refusal, or the text
has a last second, after which it has expired, as a clock from the leeway on finds. Until that
second it is refused for one reason, or judged by when it was issued. -/
theorem refused_or_timed (v : Verifier) (raw : String) :
    AlwaysRefused (fun now => v.verify now raw) ∨
    (∃ problem, ∃ lastGood : ℕ, problem ≠ .expired ∧ ∀ now : Second, v.leeway ≤ now →
      v.verify now raw = if lastGood < now then .error .expired else .error problem) ∨
    ∃ who, ∃ firstGood lastGood : ℕ, ∀ now : Second, v.leeway ≤ now → v.verify now raw =
      if lastGood < now then .error .expired
      else if now < firstGood then .error (.malformed .issuedInFuture) else .ok who := by
  by_cases hblank : Text.isBlankText raw.toList = true
  · refine Or.inl ⟨.empty, by simp, fun now => ?_⟩
    simp only [verify, if_pos hblank]
  by_cases hsize : maxSize < Utf8.size raw.toList
  · refine Or.inl ⟨.malformed .oversized, by simp, fun now => ?_⟩
    simp only [verify, if_neg hblank, if_pos hsize]
  cases htoken : Compact.ofText? raw.toList with
  | none =>
      refine Or.inl ⟨.malformed .tooFewParts, by simp, fun now => ?_⟩
      simp only [verify, if_neg hblank, if_neg hsize, htoken]
  | some token =>
      have hverify : ∀ now, v.verify now raw = v.verifiedClaims now token >>= fun claims =>
          claims.identity v.resolve now v.leeway := by
        intro now
        simp only [verify, if_neg hblank, if_neg hsize, htoken]
      simp only [hverify]
      rcases v.verifiedClaims_refused_or_expires token with
        ⟨problem, hproblem, hclaims⟩ | ⟨claims, expires, hexpires, hclaims⟩
      · exact Or.inl ⟨problem, hproblem, fun now => by simp only [hclaims]; rfl⟩
      -- the expiry is judged first, so that nothing else is seen of claims that have expired
      have hlate : ∀ now : Second, v.leeway ≤ now →
          (v.verifiedClaims now token >>= fun claims =>
            claims.identity v.resolve now v.leeway) =
              if expires + v.leeway < now then .error .expired
              else claims.identity v.resolve now v.leeway := by
        intro now hnow
        rw [hclaims now hnow]
        split <;> rfl
      rcases Claims.refused_or_issued hexpires v.resolve v.leeway with
        ⟨problem, hproblem, hidentity⟩ | ⟨who, issued, hidentity⟩
      · exact Or.inr (Or.inl ⟨problem, expires + v.leeway, hproblem, fun now hnow =>
          (hlate now hnow).trans (if_congr Iff.rfl rfl (hidentity now))⟩)
      · refine Or.inr (Or.inr ⟨who, (issued.toInt - v.leeway).toNat, expires + v.leeway,
          fun now hnow => ?_⟩)
        rw [hlate now hnow, hidentity]
        exact if_congr Iff.rfl rfl (if_congr (by omega) rfl rfl)

/-! ### The course of a verdict -/

/-- The verdict on a text **takes a course** from the leeway on, whatever the text is. -/
theorem exists_course (v : Verifier) (raw : String) : ∃ problem who first last,
    TakesCourse v.leeway (fun now => v.verify now raw) problem who first last := by
  -- an identity that no verdict of a course without a second stretch is about
  have nobody : Identity := ⟨0, "", .empty⟩
  rcases v.refused_or_timed raw with
    ⟨problem, hproblem, h⟩ | ⟨problem, lastGood, hproblem, h⟩ | ⟨who, firstGood, lastGood, h⟩
  · exact ⟨problem, nobody, ⊤, ⊤, .of_refused hproblem h nobody⟩
  · exact ⟨problem, nobody, _, _, .of_refused_until hproblem h nobody⟩
  · exact ⟨_, who, _, _, .of_window h⟩

/-- **A verdict moves through time in one direction only**, as clocks from the leeway on see it.
Whatever the text and whoever verifies it, the verdict takes a course: one refusal, then one
identity, then an expiry. So a token that has expired stays expired; one that has been accepted
stands for the same identity until it expires; and a text that is refused at some time, neither for
an expiry nor for an issue in the future, is accepted at no time, before or after. -/
theorem verdict_moves_forward (v : Verifier) (raw : String) :
    (∃ problem who first last,
      TakesCourse v.leeway (fun now => v.verify now raw) problem who first last) ∧
    (∀ now later : Second, v.leeway ≤ now → now.toNat ≤ later →
      v.verify now raw = .error .expired → v.verify later raw = .error .expired) ∧
    (∀ (now later : Second) (who : Identity), v.leeway ≤ now → now.toNat ≤ later →
      v.verify now raw = .ok who →
      v.verify later raw = .ok who ∨ v.verify later raw = .error .expired) ∧
    ∀ (now : Second) (problem : TokenProblem), v.leeway ≤ now →
      v.verify now raw = .error problem → problem ≠ .expired →
      problem ≠ .malformed .issuedInFuture →
      ∀ (other : Second) (who : Identity), v.leeway ≤ other → v.verify other raw ≠ .ok who := by
  obtain ⟨problem, who, first, last, hcourse⟩ := v.exists_course raw
  refine ⟨⟨problem, who, first, last, hcourse⟩, fun now later hleeway hle hnow => ?_,
    fun now later found hleeway hle hnow => ?_,
    fun now found hleeway hnow hexpired hfuture other someone hleeway' hother => ?_⟩
  · exact hcourse.after later (hleeway.trans hle)
      ((hcourse.last_le_of_expired hleeway hnow).trans (Nat.cast_le.mpr hle))
  · obtain ⟨hfirst, -, rfl⟩ := hcourse.of_ok hleeway hnow
    by_cases hlast : later.toNat < last
    · exact Or.inl (hcourse.between later (hleeway.trans hle)
        (hfirst.trans (Nat.cast_le.mpr hle)) hlast)
    · exact Or.inr (hcourse.after later (hleeway.trans hle) (not_lt.mp hlast))
  · obtain ⟨hbefore, rfl⟩ := hcourse.of_error hleeway hnow hexpired
    obtain ⟨hfirst, hlast, -⟩ := hcourse.of_ok hleeway' hother
    exact hfuture (hcourse.early (pos_of_gt hbefore) (hfirst.trans_lt hlast))

/-- None of the stretches has to be empty: a token that the sample issuer makes in second 100 lies
in the future in second 99, stands for its holder in second 100, and has expired from second 3701
on for all time. -/
theorem verdict_moves_forward_of_sampleIssuer :
    ∃ raw, sampleVerifier.verify 99 raw = .error (.malformed .issuedInFuture) ∧
      sampleVerifier.verify 100 raw = .ok ⟨7, "ada", .empty⟩ ∧
      ∀ later : Second, 3701 ≤ later.toNat →
        sampleVerifier.verify later raw = .error .expired := by
  obtain ⟨raw, hissue⟩ := @exists_issue_sampleIssuer 100 (by decide) 0 ⟨7, "ada", .empty⟩
  have hgood := verify_sampleVerifier hissue (by decide) NameSet.roles_of_empty
  have hsize := Issuer.size_le_of_issue hissue (by decide) NameSet.roles_of_empty
  have hkeys : sampleIssuer.key.Matches sampleVerifier.key := samplePair_matches
  have hjudged := fun now : Second => verify_issued rfl hkeys hissue hsize (Nat.zero_le now.toNat)
  have hexpired : sampleVerifier.verify 3701 raw = .error .expired := by
    rw [hjudged, if_pos (by decide)]
  refine ⟨raw, ?_, hgood, fun later hlater => ?_⟩
  · rw [hjudged, if_neg (by decide), if_pos (by decide)]
  · exact (verdict_moves_forward sampleVerifier raw).2.1 3701 later (Nat.zero_le _) hlater
      hexpired

end Verifier

end BearerGate
