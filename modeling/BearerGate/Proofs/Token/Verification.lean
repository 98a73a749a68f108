import BearerGate.Proofs.Outcome
import BearerGate.Proofs.Text.Padding
import BearerGate.Token.Verifier

/-!
# What a Verified Token Has Passed

A verifier answers with an identity only after a row of checks, each of which can turn the token
away. The lemmas of this module say, one function at a time, that an answer is given exactly when
all checks are passed, and what the answer is. Whatever is proved later of tokens that verify
starts from these equivalences and opens none of the functions again.

## Main results

* `Claims.identity_eq_ok_iff`: the checks on the claims, and the identity they yield.
* `Verifier.verifiedClaims_eq_ok_iff`: the checks on the signed form.
* `Verifier.verify_eq_ok_iff`: the checks on the text, with the two above behind them.
* `Verifier.Accepts`: a verifier, a token, its claims and the identity that it is accepted as.
* `Verifier.verify_of_signed`: what becomes of a token whose signed form is in order.
* `Verifier.exists_resolve_of_mem_grants`: what a verified token grants comes from the resolver.
-/

namespace BearerGate

/-! ### Claims -/

namespace Claims

/-- A claim that is required is there. -/
theorem require_eq_ok_iff {α : Type} {claim : ClaimName} {value : Option α} {a : α} :
    require claim value = .ok a ↔ value = some a := by
  cases value <;> simp [require]

/-- The texts of a list of values are all of it. -/
theorem textsOf?_eq_some_iff {items : List Json.Value} {texts : List String} :
    textsOf? items = some texts ↔ items = texts.map .text := by
  induction items generalizing texts with
  | nil => simp [textsOf?, eq_comm]
  | cons v items ih =>
      constructor
      · intro h
        unfold textsOf? at h
        split at h
        · next heq => cases heq
        · next heq =>
          cases heq
          obtain ⟨more, hmore, rfl⟩ := Option.map_eq_some_iff.mp h
          rw [ih.mp hmore, List.map_cons]
        · cases h
      · intro h
        cases texts with
        | nil => cases h
        | cons s texts =>
            rw [List.map_cons, List.cons.injEq] at h
            obtain ⟨rfl, hitems⟩ := h
            rw [textsOf?, ih.mpr hitems, Option.map_some]

/-- The names that a value grants: it has to be a list of texts, and the set holds what the
resolver makes of them. -/
theorem grantsOf_eq_ok_iff {resolve : String → Option String} {value : Json.Value}
    {grants : NameSet} :
    grantsOf resolve value = .ok grants ↔ ∃ texts : List String,
      value = .list (texts.map .text) ∧ grants = NameSet.ofList (texts.filterMap resolve) := by
  constructor
  · intro h
    unfold grantsOf at h
    split at h
    · next items =>
      split at h
      · next texts htexts =>
        cases h
        exact ⟨texts, by rw [textsOf?_eq_some_iff.mp htexts], rfl⟩
      · cases h
    · cases h
  · rintro ⟨texts, rfl, rfl⟩
    rw [grantsOf]
    simp only [textsOf?_eq_some_iff.mpr rfl]

/-- A text that reads as a number of a token is not blank. -/
theorem not_isBlankText_of_readInt64 {cs : List Char} {id : Int64}
    (h : Text.readInt64 (Text.trim cs) = some id) : Text.isBlankText cs = false := by
  cases hblank : Text.isBlankText cs with
  | false => rfl
  | true =>
      rw [Text.trim_of_isBlankText hblank] at h
      cases h

/-- The text of a number is kept when blank ones are left out. -/
theorem filter_tokenId_of_readInt64 {claims : Claims} {text : String} {id : Int64}
    (htext : claims.tokenId = some text)
    (hid : Text.readInt64 (Text.trim text.toList) = some id) :
    (claims.tokenId.filter fun text => !Text.isBlankText text.toList) = some text := by
  simp [htext, not_isBlankText_of_readInt64 hid]

/-- The latest issue that is taken is ahead **by the leeway**, or the last that there is. -/
theorem toInt_latestIssue (now : Second) (leeway : Nat) :
    (latestIssue now leeway).toInt = min ((now : Int) + leeway) Word.last := by
  rw [latestIssue]
  by_cases hleeway : leeway ≤ Word.last
  · have hword := Word.toInt_ofNat hleeway
    rw [Word.signed?, if_pos hleeway, Option.getD_some, Word.toInt_saturatingAdd (by omega),
      Second.toInt_signed, hword]
  · have hmax := Word.toInt_maxValue
    rw [Word.signed?, if_neg hleeway, Option.getD_none, Word.toInt_saturatingAdd (by omega),
      Second.toInt_signed, hmax]
    omega

/-- An issue lies in the future exactly when it is ahead **by more than the leeway**: no issue is
beyond the last second, where the sum stops. -/
theorem latestIssue_lt_iff {now : Second} {leeway : Nat} {issued : Int64} :
    latestIssue now leeway < issued ↔ (now : Int) + leeway < issued.toInt := by
  have hlast := Word.toInt_le_last issued
  rw [Int64.lt_iff_toInt_lt, toInt_latestIssue]
  omega

/-- The **checks on the claims**: an identity is given exactly when the number, the user, the
grants, the time of issue and the time of expiry are all there and in order, and it consists of
the first three. -/
theorem identity_eq_ok_iff {claims : Claims} {resolve : String → Option String}
    {now : Second} {leeway : Nat} {who : Identity} :
    claims.identity resolve now leeway = .ok who ↔
      (∃ text, claims.tokenId = some text ∧
        Text.readInt64 (Text.trim text.toList) = some who.id) ∧
      claims.subject = some who.username ∧
      (∃ value, claims.grants = some value ∧ grantsOf resolve value = .ok who.grants) ∧
      (∃ issued, claims.issuedAt = some issued ∧ issued.toInt ≤ (now : Int) + leeway) ∧
      claims.expires.isSome = true := by
  constructor
  · intro h
    obtain ⟨text, htext, h⟩ := bind_eq_ok_iff.mp h
    rw [require_eq_ok_iff] at htext
    obtain ⟨htokenId, -⟩ := Option.filter_eq_some_iff.mp htext
    dsimp only at h
    split at h
    · next id hid =>
      obtain ⟨_, hid', h⟩ := bind_eq_ok_iff.mp h
      cases hid'
      obtain ⟨username, husername, h⟩ := bind_eq_ok_iff.mp h
      obtain ⟨value, hvalue, h⟩ := bind_eq_ok_iff.mp h
      obtain ⟨grants, hgrants, h⟩ := bind_eq_ok_iff.mp h
      obtain ⟨issued, hissued, h⟩ := bind_eq_ok_iff.mp h
      rw [require_eq_ok_iff] at husername hvalue hissued
      split at h
      · cases h
      · next hfuture =>
        obtain ⟨expires, hexpires, h⟩ := bind_eq_ok_iff.mp h
        rw [require_eq_ok_iff] at hexpires
        cases h
        exact ⟨⟨text, htokenId, hid⟩, husername, ⟨value, hvalue, hgrants⟩,
          ⟨issued, hissued, by rw [latestIssue_lt_iff] at hfuture; omega⟩, by rw [hexpires]; rfl⟩
    · obtain ⟨_, h, -⟩ := bind_eq_ok_iff.mp h
      cases h
  · rintro ⟨⟨text, htext, hid⟩, husername, ⟨value, hvalue, hgrants⟩, ⟨issued, hissued, hle⟩,
      hexpires⟩
    obtain ⟨expires, hexpires⟩ := Option.isSome_iff_exists.mp hexpires
    have hkept := filter_tokenId_of_readInt64 htext hid
    refine bind_eq_ok_iff.mpr ⟨text, by rw [hkept]; rfl, ?_⟩
    dsimp only
    rw [hid]
    refine bind_eq_ok_iff.mpr ⟨who.id, rfl, ?_⟩
    refine bind_eq_ok_iff.mpr ⟨who.username, by rw [husername]; rfl, ?_⟩
    refine bind_eq_ok_iff.mpr ⟨value, by rw [hvalue]; rfl, ?_⟩
    refine bind_eq_ok_iff.mpr ⟨who.grants, hgrants, ?_⟩
    refine bind_eq_ok_iff.mpr ⟨issued, by rw [hissued]; rfl, ?_⟩
    rw [if_neg (by rw [latestIssue_lt_iff]; omega)]
    exact bind_eq_ok_iff.mpr ⟨expires, by rw [hexpires]; rfl, rfl⟩

/-- Claims that are all there and well formed are judged by **when the token was issued**. -/
theorem identity_of_wellFormed {claims : Claims} {resolve : String → Option String}
    {now : Second} {leeway : Nat} {text : String} {who : Identity} {value : Json.Value}
    {issued : Int64}
    (htext : claims.tokenId = some text)
    (hid : Text.readInt64 (Text.trim text.toList) = some who.id)
    (hsubject : claims.subject = some who.username) (hvalue : claims.grants = some value)
    (hgrants : grantsOf resolve value = .ok who.grants) (hissued : claims.issuedAt = some issued)
    (hexpires : claims.expires.isSome = true) :
    claims.identity resolve now leeway =
      if (now : Int) + leeway < issued.toInt then .error (.malformed .issuedInFuture)
      else .ok who := by
  split
  · next hfuture =>
    rw [identity, filter_tokenId_of_readInt64 htext hid, require]
    rw [← latestIssue_lt_iff] at hfuture
    simp only [bind, Except.bind, hid, hsubject, require, hvalue, hgrants, hissued, if_pos hfuture]
  · next hpast =>
    exact identity_eq_ok_iff.mpr ⟨⟨text, htext, hid⟩, hsubject, ⟨value, hvalue, hgrants⟩,
      ⟨issued, hissued, by omega⟩, hexpires⟩

end Claims

/-! ### The signed form -/

namespace Verifier

variable {v : Verifier} {now : Second} {who : Identity}

/-- The bytes of a part are those it is the encoded form of. -/
theorem part_eq_ok_iff {encoded : List Char} {bytes : Bytes} :
    part encoded = .ok bytes ↔ Compact.decodePart? encoded = some bytes := by
  rw [part]
  cases Compact.decodePart? encoded <;> simp

/-- A part is read as what the reader makes of its bytes. -/
theorem readPart_eq_ok_iff {α : Type} {read : Bytes → Except Json.Problem α} {bytes : Bytes}
    {a : α} : readPart read bytes = .ok a ↔ read bytes = .ok a := by
  rw [readPart]
  cases read bytes <;> simp

/-- The earliest expiry that is taken lies back **by the leeway**, if the clock has reached that. -/
theorem toNat_earliestExpiry (h : v.leeway ≤ now) :
    (v.earliestExpiry now).toNat = now - v.leeway := by
  have hleeway := Word.toNat_ofNat (Nat.le_trans h now.toNat_le)
  have hle : UInt64.ofNat v.leeway ≤ now.unsigned := by
    rw [UInt64.le_iff_toNat_le, hleeway, Second.toNat_unsigned]
    exact h
  rw [earliestExpiry, UInt64.toNat_sub_of_le _ _ hle, hleeway, Second.toNat_unsigned]

/-- From the leeway on, an expiry is taken exactly when it lies back **by no more than that**. -/
theorem earliestExpiry_le_iff {expires : Int64} (hpos : 0 ≤ expires.toInt) (h : v.leeway ≤ now) :
    v.earliestExpiry now ≤ expires.toUInt64 ↔ (now : Int) ≤ expires.toInt + v.leeway := by
  have hexpires := Word.toNat_toUInt64 hpos
  rw [UInt64.le_iff_toNat_le, toNat_earliestExpiry h]
  omega

/-- An expiry that is taken lies back by no more than the leeway **at any time**: before the leeway
none lies back further. -/
theorem le_of_earliestExpiry_le {expires : Int64} (hpos : 0 ≤ expires.toInt)
    (h : v.earliestExpiry now ≤ expires.toUInt64) : (now : Int) ≤ expires.toInt + v.leeway := by
  by_cases hleeway : v.leeway ≤ now
  · exact (earliestExpiry_le_iff hpos hleeway).mp h
  · omega

/-- Claims that expire, and not before the earliest expiry that is taken. -/
theorem checkExpiry_eq_ok_iff {claims claims' : Claims} :
    v.checkExpiry now claims = .ok claims' ↔ claims' = claims ∧
      ∃ expires, claims.expires = some expires ∧ 0 ≤ expires.toInt ∧
        v.earliestExpiry now ≤ expires.toUInt64 := by
  constructor
  · intro h
    rw [checkExpiry] at h
    split at h
    · cases h
    · next expires hexpires =>
      obtain ⟨hsome, hpos⟩ := Option.filter_eq_some_iff.mp hexpires
      split at h
      · cases h
      · next hle =>
        cases h
        exact ⟨rfl, expires, hsome, by simpa using hpos, UInt64.not_lt.mp hle⟩
  · rintro ⟨rfl, expires, hexpires, hpos, hle⟩
    rw [checkExpiry]
    rw [hexpires, Option.filter_some, if_pos (by simpa using hpos)]
    simp only
    rw [if_neg (UInt64.not_lt.mpr hle)]

/-- From the leeway on, claims that expire are judged by **when they do**. -/
theorem checkExpiry_of_expires {claims : Claims} {expires : Int64}
    (h : claims.expires = some expires) (hpos : 0 ≤ expires.toInt) (hleeway : v.leeway ≤ now) :
    v.checkExpiry now claims =
      if expires.toInt + v.leeway < now then .error .expired else .ok claims := by
  rw [checkExpiry]
  rw [h, Option.filter_some, if_pos (decide_eq_true hpos)]
  refine if_congr ?_ rfl rfl
  rw [← UInt64.not_le, earliestExpiry_le_iff hpos hleeway, Int.not_le]

/-- The **checks on the signed form**: the claims are given exactly when the header names the
verifier's algorithm, the signature is valid under its key over the text before it, and the
claims in the payload expire, and not before the earliest expiry that is taken. -/
theorem verifiedClaims_eq_ok_iff {token : Compact} {claims : Claims} :
    v.verifiedClaims now token = .ok claims ↔
      (∃ bytes, Compact.decodePart? token.header = some bytes ∧
        Header.read bytes = .ok v.algorithm) ∧
      (∃ signature, Compact.decodePart? token.signature = some signature ∧
        v.key.verify token.signedBytes signature = true) ∧
      (∃ bytes, Compact.decodePart? token.payload = some bytes ∧ Claims.read bytes = .ok claims) ∧
      ∃ expires, claims.expires = some expires ∧ 0 ≤ expires.toInt ∧
        v.earliestExpiry now ≤ expires.toUInt64 := by
  constructor
  · intro h
    obtain ⟨header, hheader, h⟩ := bind_eq_ok_iff.mp h
    obtain ⟨algorithm, halgorithm, h⟩ := bind_eq_ok_iff.mp h
    rw [part_eq_ok_iff] at hheader
    rw [readPart_eq_ok_iff] at halgorithm
    split at h
    · cases h
    · next hsame =>
      obtain rfl : algorithm = v.algorithm := Classical.not_not.mp hsame
      obtain ⟨signature, hsignature, h⟩ := bind_eq_ok_iff.mp h
      rw [part_eq_ok_iff] at hsignature
      split at h
      · next hvalid =>
        obtain ⟨payload, hpayload, h⟩ := bind_eq_ok_iff.mp h
        obtain ⟨found, hfound, h⟩ := bind_eq_ok_iff.mp h
        rw [part_eq_ok_iff] at hpayload
        rw [readPart_eq_ok_iff] at hfound
        obtain ⟨rfl, hexpiry⟩ := checkExpiry_eq_ok_iff.mp h
        exact ⟨⟨header, hheader, halgorithm⟩, ⟨signature, hsignature, hvalid⟩,
          ⟨payload, hpayload, hfound⟩, hexpiry⟩
      · cases h
  · rintro ⟨⟨header, hheader, halgorithm⟩, ⟨signature, hsignature, hvalid⟩,
      ⟨payload, hpayload, hread⟩, hexpiry⟩
    refine bind_eq_ok_iff.mpr ⟨header, part_eq_ok_iff.mpr hheader, ?_⟩
    refine bind_eq_ok_iff.mpr ⟨v.algorithm, readPart_eq_ok_iff.mpr halgorithm, ?_⟩
    rw [if_neg (Classical.not_not.mpr rfl)]
    refine bind_eq_ok_iff.mpr ⟨signature, part_eq_ok_iff.mpr hsignature, ?_⟩
    rw [if_pos hvalid]
    refine bind_eq_ok_iff.mpr ⟨payload, part_eq_ok_iff.mpr hpayload, ?_⟩
    exact bind_eq_ok_iff.mpr ⟨claims, readPart_eq_ok_iff.mpr hread,
      checkExpiry_eq_ok_iff.mpr ⟨rfl, hexpiry⟩⟩

/-! ### The text of a token -/

/-- A text that is cut into three parts is not blank: it holds a dot. -/
theorem not_isBlankText_of_ofText? {cs : List Char} {token : Compact}
    (h : Compact.ofText? cs = some token) : Text.isBlankText cs = false := by
  obtain ⟨rfl, -, -⟩ := Compact.text_of_ofText? h
  have hdot : Text.isBlank '.' = false := by decide
  simp [Compact.text, Text.isBlankText, hdot]

/-- The **checks on the text of a token**, with those on its parts behind them. -/
theorem verify_eq_ok_iff {raw : String} :
    v.verify now raw = .ok who ↔ Utf8.size raw.toList ≤ maxSize ∧
      ∃ token, Compact.ofText? raw.toList = some token ∧
        ∃ claims, v.verifiedClaims now token = .ok claims ∧
          claims.identity v.resolve now v.leeway = .ok who := by
  constructor
  · intro h
    unfold verify at h
    dsimp only at h
    split at h
    · cases h
    · split at h
      · cases h
      · next hsize =>
        split at h
        · cases h
        · next token htoken =>
          obtain ⟨claims, hclaims, hidentity⟩ := bind_eq_ok_iff.mp h
          exact ⟨by omega, token, htoken, claims, hclaims, hidentity⟩
  · rintro ⟨hsize, token, htoken, claims, hclaims, hidentity⟩
    unfold verify
    dsimp only
    rw [if_neg (by simp [not_isBlankText_of_ofText? htoken]), if_neg (by omega), htoken]
    exact bind_eq_ok_iff.mpr ⟨claims, hclaims, hidentity⟩

/-- A verifier **accepts a token with claims** as an identity: the claims are those of its signed
form. -/
def Accepts (v : Verifier) (now : Second) (raw : String) (claims : Claims) (who : Identity) :
    Prop :=
  v.verify now raw = .ok who ∧ ∃ token, Compact.ofText? raw.toList = some token ∧
    v.verifiedClaims now token = .ok claims

/-- The identity is what the **checks on the claims** yield. -/
theorem Accepts.identity {raw : String} {claims : Claims} (h : v.Accepts now raw claims who) :
    claims.identity v.resolve now v.leeway = .ok who := by
  obtain ⟨hverify, token, htoken, hclaims⟩ := h
  obtain ⟨-, token', htoken', claims', hclaims', hidentity⟩ := verify_eq_ok_iff.mp hverify
  rw [htoken, Option.some.injEq] at htoken'
  subst htoken'
  rw [hclaims, Except.ok.injEq] at hclaims'
  subst hclaims'
  exact hidentity

/-- A token whose **signed form is in order** is judged by what its claims say. -/
theorem verify_of_signed {raw : String} {token : Compact} {header signature payload : Bytes}
    {claims : Claims} (hsize : Utf8.size raw.toList ≤ maxSize)
    (htoken : Compact.ofText? raw.toList = some token)
    (hheader : Compact.decodePart? token.header = some header)
    (halgorithm : Header.read header = .ok v.algorithm)
    (hsignature : Compact.decodePart? token.signature = some signature)
    (hvalid : v.key.verify token.signedBytes signature = true)
    (hpayload : Compact.decodePart? token.payload = some payload)
    (hclaims : Claims.read payload = .ok claims) :
    v.verify now raw =
      (v.checkExpiry now claims).bind fun claims => claims.identity v.resolve now v.leeway := by
  rw [← part_eq_ok_iff] at hheader hsignature hpayload
  rw [← readPart_eq_ok_iff] at halgorithm hclaims
  unfold verify
  dsimp only
  rw [if_neg (by simp [not_isBlankText_of_ofText? htoken]), if_neg (by omega), htoken]
  simp only [verifiedClaims, bind, Except.bind, hheader, halgorithm, hsignature, hpayload,
    hclaims, hvalid, ne_eq, not_true_eq_false, if_false, if_true]

/-- The **claims behind a verified token**: they have expired by no more than the leeway, and they
have a list of texts as grants, of which the identity has what the resolver makes of them. -/
theorem claims_of_verify {raw : String} (h : v.verify now raw = .ok who) :
    ∃ (token : Compact) (claims : Claims) (expires : Int64) (texts : List String),
      Compact.ofText? raw.toList = some token ∧
      v.verifiedClaims now token = .ok claims ∧ claims.expires = some expires ∧
      (now : Int) ≤ expires.toInt + v.leeway ∧
      claims.grants = some (.list (texts.map .text)) ∧
      ∀ grant, grant ∈ who.grants ↔ ∃ text ∈ texts, v.resolve text = some grant := by
  obtain ⟨-, token, htoken, claims, hclaims, hidentity⟩ := verify_eq_ok_iff.mp h
  obtain ⟨-, -, -, expires, hexpires, hpos, hnow⟩ := verifiedClaims_eq_ok_iff.mp hclaims
  obtain ⟨-, -, ⟨value, hvalue, hgrants⟩, -, -⟩ := Claims.identity_eq_ok_iff.mp hidentity
  obtain ⟨texts, rfl, heq⟩ := Claims.grantsOf_eq_ok_iff.mp hgrants
  refine ⟨token, claims, expires, texts, htoken, hclaims, hexpires,
    le_of_earliestExpiry_le hpos hnow, hvalue, fun grant => ?_⟩
  rw [heq, NameSet.mem_ofList, List.mem_filterMap]

/-- Whatever a verified token grants is what the resolver makes of some text. -/
theorem exists_resolve_of_mem_grants {raw : String} (h : v.verify now raw = .ok who)
    {grant : String} (hgrant : grant ∈ who.grants) : ∃ text, v.resolve text = some grant := by
  obtain ⟨-, -, -, texts, -, -, -, -, -, hgrants⟩ := claims_of_verify h
  obtain ⟨text, -, htext⟩ := (hgrants grant).mp hgrant
  exact ⟨text, htext⟩

end Verifier

end BearerGate
