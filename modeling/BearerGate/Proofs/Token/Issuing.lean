import Mathlib.Data.List.Nodup
import BearerGate.Proofs.Key.Matching
import BearerGate.Proofs.Names
import BearerGate.Proofs.Text.Words
import BearerGate.Proofs.Token.Verification
import BearerGate.Proofs.Token.Writing

/-!
# Issued Tokens Verify

An issuer and a verifier agree if they use one algorithm and matching keys. What the one issues
the other accepts, at any time from the issue to the expiry and, give or take the leeway, a bit
around it, and as the identity that the token was issued for. The verifier looks only at tokens of
at most 8192 bytes; with a user name of at most 256 bytes and grants that are roles no token is
longer, even if every byte of the name has to be escaped and the signature is as long as any.

## Main results

* `Issuer.issue_eq_ok_iff`: the tokens that are issued.
* `Issuer.issue_eq_lifetimeOverflow_iff`: when there is no time of expiry.
* `Verifier.verify_issued`: what becomes of an issued token at any time.
* `Verifier.verify_of_issue`: an issued token verifies as the identity it was issued for.
* `Issuer.size_le_of_issue`, `Issuer.lt_size_of_issue`: which issued tokens are short enough to be
  looked at, by the size of the name.
-/

namespace BearerGate

open Json

/-! ### Numbers of tokens -/

/-- Trimming only takes away. -/
theorem Text.trim_sublist (cs : List Char) : (trim cs).Sublist cs := by
  have hstart : (trimStart cs).Sublist cs := List.dropWhile_sublist _
  have hend : (trimEnd (trimStart cs)).reverse.Sublist (trimStart cs).reverse := by
    rw [trimEnd, List.reverse_reverse]
    exact List.dropWhile_sublist _
  exact (List.reverse_sublist.mp hend).trans hstart

/-- A digit is not blank. -/
theorem Text.isBlank_of_isDigit {c : Char} (h : isDigit c = true) : isBlank c = false := by
  rw [isDigit_eq, Char.isDigit, Bool.and_eq_true, decide_eq_true_eq, decide_eq_true_eq] at h
  have hlow : 48 ≤ c.toNat := UInt32.le_iff_toNat_le.mp h.1
  have hhigh : c.toNat ≤ 57 := UInt32.le_iff_toNat_le.mp h.2
  simp only [isBlank, Bool.or_eq_false_iff, Bool.and_eq_false_iff, beq_eq_false_iff_ne,
    decide_eq_false_iff_not]
  omega

/-- All that is written of an integer is digits, a minus sign apart. -/
theorem Text.of_mem_writeInt64 {id : Int64} {c : Char} (h : c ∈ writeInt64 id) :
    c = '-' ∨ isDigit c = true := by
  unfold writeInt64 writeInt at h
  split at h
  · exact Or.inr (isDigit_of_mem_writeNat h)
  · rcases List.mem_cons.mp h with rfl | h
    · exact Or.inl rfl
    · exact Or.inr (isDigit_of_mem_writeNat h)

/-- The number of a token is read from its text, trimmed or not. -/
theorem Text.readInt64_trim_writeInt64 (id : Int64) :
    readInt64 (trim (writeInt64 id)) = some id := by
  have htrim : trim (writeInt64 id) = writeInt64 id := by
    refine trim_of_forall fun c hc => ?_
    rcases of_mem_writeInt64 hc with rfl | hdigit
    · decide
    · exact isBlank_of_isDigit hdigit
  rw [htrim, readInt64_writeInt64]

/-! ### Issuing -/

namespace Issuer

variable {issuer : Issuer} {now : Second} {draw : Nat} {who : Identity} {raw : String}

/-- A token **expires by the lifetime later**, if there is a second so late. -/
theorem expiry?_eq_some_iff {expires : Int64} :
    issuer.expiry? now = some expires ↔ expires.toInt = (now + issuer.lifetime : Nat) := by
  simp only [expiry?, Option.bind_eq_some_iff, Word.signed?_eq_some_iff,
    Word.checkedAdd_eq_some_iff, Second.toInt_signed]
  constructor
  · rintro ⟨lifetime, ⟨-, hlifetime⟩, hsum⟩
    omega
  · intro h
    have hlast := Word.toInt_le_last expires
    have hfits : issuer.lifetime ≤ Word.last := by omega
    have hlifetime := Word.toInt_ofNat hfits
    exact ⟨Int64.ofNat issuer.lifetime, ⟨hfits, hlifetime⟩, by omega⟩

/-- It does not expire exactly when **there is none**. -/
theorem expiry?_eq_none_iff :
    issuer.expiry? now = none ↔ Word.last < now + issuer.lifetime := by
  rw [Option.eq_none_iff_forall_ne_some]
  constructor
  · intro h
    by_contra hfits
    exact h (Int64.ofNat (now + issuer.lifetime)) <|
      expiry?_eq_some_iff.mpr (Word.toInt_ofNat (by omega))
  · intro h expires hexpires
    rw [expiry?_eq_some_iff] at hexpires
    have hlast := Word.toInt_le_last expires
    omega

/-- A token is **issued** exactly when its time of expiry fits and it can be signed, and then it
is the unsigned token with the signature over it. -/
theorem issue_eq_ok_iff : issuer.issue now draw who = .ok raw ↔
    ∃ expires : Int64, expires.toInt = (now + issuer.lifetime : Nat) ∧ ∃ signature,
      issuer.key.sign draw (issuer.unsigned now expires who).signedBytes = .ok signature ∧
      raw = String.ofList { issuer.unsigned now expires who with
        signature := Compact.encodePart signature }.text := by
  simp only [← expiry?_eq_some_iff]
  rw [issue]
  cases issuer.expiry? now with
  | none => simp
  | some expires =>
      simp only [Option.some.injEq, exists_eq_left']
      cases hsign : issuer.key.sign draw (issuer.unsigned now expires who).signedBytes with
      | error fault => simp
      | ok signature => simp [eq_comm]

/-- With a key that signs everything a token is issued **whenever its time of expiry fits**. -/
theorem exists_issue (hsigns : ∀ message, ∃ signature, issuer.key.sign draw message = .ok signature)
    (h : now + issuer.lifetime ≤ Word.last) (who : Identity) :
    ∃ raw, issuer.issue now draw who = .ok raw := by
  obtain ⟨signature, hsignature⟩ :=
    hsigns (issuer.unsigned now (Int64.ofNat (now + issuer.lifetime)) who).signedBytes
  exact ⟨_, issue_eq_ok_iff.mpr ⟨_, Word.toInt_ofNat h, signature, hsignature, rfl⟩⟩

/-- No token is issued for want of a time of expiry exactly when that **does not fit**: a fault of
the key is another one. -/
theorem issue_eq_lifetimeOverflow_iff :
    issuer.issue now draw who = .error .lifetimeOverflow ↔
      Word.last < now + issuer.lifetime := by
  rw [← expiry?_eq_none_iff, issue]
  cases issuer.expiry? now with
  | none => simp
  | some expires =>
      dsimp only
      split <;> simp

end Issuer

/-- The identity of a token as a resolver leaves it, with what it makes of the grants. -/
def Identity.resolved (who : Identity) (resolve : String → Option String) : Identity :=
  { who with grants := NameSet.ofList (who.grants.toList.filterMap resolve) }

/-- The grants that are left are those that the resolver makes of some grant. -/
theorem Identity.mem_grants_resolved {who : Identity} {resolve : String → Option String}
    {name : String} :
    name ∈ (who.resolved resolve).grants ↔ ∃ grant ∈ who.grants, resolve grant = some name := by
  rw [resolved, NameSet.mem_ofList, List.mem_filterMap]
  rfl

/-- An identity whose grants the resolver knows under their own names is left as it is. -/
theorem Identity.resolved_eq_self {who : Identity} {resolve : String → Option String}
    (h : ∀ grant ∈ who.grants, resolve grant = some grant) : who.resolved resolve = who := by
  have hgrants : (who.resolved resolve).grants = who.grants := by
    refine NameSet.ext_mem fun name => ?_
    rw [mem_grants_resolved]
    constructor
    · rintro ⟨grant, hgrant, hresolve⟩
      rw [h grant hgrant, Option.some.injEq] at hresolve
      exact hresolve ▸ hgrant
    · intro hname
      exact ⟨name, hname, h name hname⟩
  calc who.resolved resolve = { who with grants := (who.resolved resolve).grants } := rfl
    _ = who := by rw [hgrants]

/-- With one algorithm and matching keys, a token that is issued is judged by its **two times** from
the leeway on, first by the later one and then by the earlier one. -/
theorem Verifier.verify_issued {issuer : Issuer} {v : Verifier}
    (halgorithm : issuer.algorithm = v.algorithm) (hkeys : issuer.key.Matches v.key)
    {issuedAt : Second} {draw : Nat} {who : Identity} {raw : String}
    (hissue : issuer.issue issuedAt draw who = .ok raw) (hsize : Utf8.size raw.toList ≤ maxSize)
    {now : Second} (hleeway : v.leeway ≤ now) :
    v.verify now raw =
      if issuedAt + issuer.lifetime + v.leeway < now then .error .expired
      else if now + v.leeway < issuedAt then .error (.malformed .issuedInFuture)
      else .ok (who.resolved v.resolve) := by
  obtain ⟨expires, hexpires, signature, hsign, rfl⟩ := Issuer.issue_eq_ok_iff.mp hissue
  have hiat := issuedAt.toInt_signed
  have htoken : Compact.ofText? _ = some
      { issuer.unsigned issuedAt expires who with signature := Compact.encodePart signature } :=
    Compact.ofText?_text (Compact.dot_not_mem_encodePart _) (Compact.dot_not_mem_encodePart _)
  rw [← @String.toList_ofList (Compact.text _)] at htoken
  have hid : Text.readInt64 (Text.trim (String.ofList (Text.writeInt64 who.id)).toList) =
      some who.id := by
    rw [String.toList_ofList, Text.readInt64_trim_writeInt64]
  have hgrants : Claims.grantsOf v.resolve (.list (who.grants.toList.map .text)) =
      .ok (who.resolved v.resolve).grants :=
    Claims.grantsOf_eq_ok_iff.mpr ⟨who.grants.toList, rfl, rfl⟩
  rw [verify_of_signed hsize htoken (Compact.decodePart?_encodePart _)
    (halgorithm ▸ Header.read_render _) (Compact.decodePart?_encodePart _) (hkeys hsign)
    (Compact.decodePart?_encodePart _) (Claims.read_render who issuedAt.signed expires)]
  rw [checkExpiry_of_expires rfl (by omega) hleeway, hexpires]
  by_cases hlate : issuedAt + issuer.lifetime + v.leeway < now
  · rw [if_pos hlate, if_pos (by omega)]
    rfl
  · rw [if_neg hlate, if_neg (by omega), Except.bind,
      @Claims.identity_of_wellFormed _ _ _ _ _ (who.resolved v.resolve) _ _ rfl hid rfl rfl hgrants
        rfl rfl, hiat]
    by_cases hearly : now + v.leeway < issuedAt
    · rw [if_pos hearly, if_pos (by omega)]
    · rw [if_neg hearly, if_neg (by omega)]

/-- **What is issued verifies.** With one algorithm and matching keys, a token that is issued for
an identity verifies as that identity, from the issue to the expiry and by the leeway around, once
the clock has reached the leeway. -/
theorem Verifier.verify_of_issue {issuer : Issuer} {v : Verifier}
    (halgorithm : issuer.algorithm = v.algorithm) (hkeys : issuer.key.Matches v.key)
    {issuedAt now : Second} {draw : Nat} {who : Identity} {raw : String}
    (hissue : issuer.issue issuedAt draw who = .ok raw) (hsize : Utf8.size raw.toList ≤ maxSize)
    (hgrants : ∀ grant ∈ who.grants, v.resolve grant = some grant) (hleeway : v.leeway ≤ now)
    (hissued : (issuedAt : Nat) ≤ now + v.leeway)
    (hexpires : now ≤ issuedAt + issuer.lifetime + v.leeway) :
    v.verify now raw = .ok who := by
  rw [verify_issued halgorithm hkeys hissue hsize hleeway, if_neg (by omega), if_neg (by omega),
    Identity.resolved_eq_self hgrants]

/-! ### Characters -/

/-- An encoded part holds visible characters of ASCII only. -/
theorem Compact.isVisible_of_mem_encodePart {bytes : Bytes} {c : Char}
    (h : c ∈ encodePart bytes) : 0x21 ≤ c.toNat ∧ c.toNat ≤ 0x7E := by
  rcases Base64.mem_encode h with rfl | ⟨n, hn, rfl⟩
  · decide
  · have hdigit : ∀ n < 64, 0x21 ≤ (Base64.url.digit n).toNat ∧
        (Base64.url.digit n).toNat ≤ 0x7E := by decide
    exact hdigit n hn

/-- The text of a token whose parts are encoded is **visible**. -/
theorem Compact.isVisible_text {token : Compact} {header payload signature : Bytes}
    (hheader : encodePart header = token.header) (hpayload : encodePart payload = token.payload)
    (hsignature : encodePart signature = token.signature) : Text.IsVisible token.text := by
  rw [text, signedText, ← hheader, ← hpayload, ← hsignature]
  refine ⟨by simp, fun c hc => ?_⟩
  simp only [List.mem_append, List.mem_cons] at hc
  rcases hc with (hc | rfl | hc) | rfl | hc
  · exact isVisible_of_mem_encodePart hc
  · decide
  · exact isVisible_of_mem_encodePart hc
  · decide
  · exact isVisible_of_mem_encodePart hc

/-- An issued token is **visible**, so it can be the word of a header value. -/
theorem Issuer.isVisible_of_issue {issuer : Issuer} {now : Second} {draw : Nat} {who : Identity}
    {raw : String} (h : issuer.issue now draw who = .ok raw) : Text.IsVisible raw.toList := by
  obtain ⟨-, -, signature, -, rfl⟩ := issue_eq_ok_iff.mp h
  rw [String.toList_ofList]
  exact Compact.isVisible_text rfl rfl rfl

/-- A token that **verifies is visible**, whoever has made it. -/
theorem Verifier.isVisible_of_verify {v : Verifier} {now : Second} {raw : String} {who : Identity}
    (h : v.verify now raw = .ok who) : Text.IsVisible raw.toList := by
  obtain ⟨-, token, htoken, claims, hclaims, -⟩ := verify_eq_ok_iff.mp h
  obtain ⟨⟨header, hheader, -⟩, ⟨signature, hsignature, -⟩, ⟨payload, hpayload, -⟩, -⟩ :=
    verifiedClaims_eq_ok_iff.mp hclaims
  rw [← (Compact.text_of_ofText? htoken).1]
  exact Compact.isVisible_text (Base64.encode_of_decode? hheader)
    (Base64.encode_of_decode? hpayload) (Base64.encode_of_decode? hsignature)

/-! ### Sizes -/

/-- Bytes are encoded in **four characters for three bytes**, rounded up. -/
theorem Base64.length_encode_url (bytes : Bytes) :
    (encode url bytes).length = (4 * bytes.length + 2) / 3 := by
  have hpadding : ∀ n, url.padding n = [] := fun _ => rfl
  fun_induction encode url bytes with
  | case1 => rfl
  | case2 a n => simp [hpadding]
  | case3 a b n => simp [hpadding]
  | case4 a b c rest n ih =>
    simp only [List.length_cons]
    omega

/-- An encoded part takes one byte for each of its characters. -/
theorem Compact.size_encodePart (bytes : Bytes) :
    Utf8.size (encodePart bytes) = (4 * bytes.length + 2) / 3 := by
  rw [Utf8.size_of_ascii fun c hc =>
    Nat.lt_of_le_of_lt (isVisible_of_mem_encodePart hc).2 (by decide)]
  exact Base64.length_encode_url bytes

/-- A token takes what its parts take and two dots. -/
theorem Compact.size_text_encodePart (header payload signature : Bytes) :
    Utf8.size (text ⟨encodePart header, encodePart payload, encodePart signature⟩) =
      (4 * header.length + 2) / 3 + (4 * payload.length + 2) / 3 +
        (4 * signature.length + 2) / 3 + 2 := by
  rw [text, signedText, Utf8.size_append, Utf8.size_cons_of_lt (by decide), Utf8.size_append,
    Utf8.size_cons_of_lt (by decide)]
  simp only [size_encodePart]
  omega

/-- A natural number below a power of ten is written with no more digits than the exponent. -/
theorem Text.size_writeNat_le {n k : Nat} (hk : 0 < k) (h : n < 10 ^ k) :
    Utf8.size (writeNat n) ≤ k := by
  rw [Utf8.size_of_ascii fun c hc => toNat_lt_of_isDigit (isDigit_of_mem_writeNat hc)]
  exact (Nat.length_toDigits_le_iff (by decide) hk).mpr h

/-- A number of a token is written in at most twenty characters. -/
theorem Text.size_writeInt64_le (id : Int64) : Utf8.size (writeInt64 id) ≤ 20 := by
  have hhigh := Word.toInt_le_last id
  have hlow := Word.neg_last_le_toInt id
  rw [Word.last_eq] at hhigh hlow
  unfold writeInt64 writeInt
  split
  · next n hn =>
    rw [Int.ofNat_eq_natCast] at hn
    have hsize := @size_writeNat_le n 19 (by decide) (by omega)
    omega
  · next n hn =>
    have hsize := @size_writeNat_le (n + 1) 19 (by decide) (by omega)
    rw [Utf8.size_cons_of_lt (by decide)]
    omega

/-- An integer is written in JSON as anywhere else. -/
theorem Json.Number.text_ofInt (i : Int) : (ofInt i).text = Text.writeInt i := by
  cases i with
  | ofNat n => simp [text, ofInt, Text.writeInt]
  | negSucc n => simp [text, ofInt, Text.writeInt, Int.negSucc_lt_zero]

/-- The items of a list take what they take and a comma each. -/
theorem Json.Value.size_renderItems_le {items : List Value} {bound : Nat}
    (h : ∀ v ∈ items, Utf8.size v.render ≤ bound) :
    Utf8.size (Value.renderItems items) ≤ items.length * (bound + 1) := by
  induction items with
  | nil => exact Nat.zero_le _
  | cons v items ih =>
      have hv := h v List.mem_cons_self
      have hitems := ih fun w hw => h w (List.mem_cons_of_mem v hw)
      rw [List.length_cons, Nat.succ_mul]
      cases items with
      | nil =>
          rw [Value.renderItems]
          simp only [List.length_nil, Nat.zero_mul]
          omega
      | cons w items =>
          rw [Value.renderItems, Utf8.size_append, Utf8.size_cons_of_lt (by decide)]
          · omega
          · simp

/-- A set of one role is a set of roles. -/
theorem NameSet.roles_of_singleton (role : Role) :
    ∀ grant ∈ NameSet.ofList [role.name], ∃ found : Role, grant = found.name := by
  intro grant hgrant
  rw [mem_ofList, List.mem_singleton] at hgrant
  exact ⟨role, hgrant⟩

/-- So is the empty set. -/
theorem NameSet.roles_of_empty : ∀ grant ∈ NameSet.empty, ∃ role : Role, grant = role.name := by
  intro grant hgrant
  cases hgrant

/-- A set of roles has two members at most. -/
theorem NameSet.length_le_of_roles {grants : NameSet}
    (h : ∀ grant ∈ grants, ∃ role : Role, grant = role.name) : grants.toList.length ≤ 2 := by
  have hsubset : grants.toList ⊆ [Role.user.name, Role.admin.name] := by
    intro grant hgrant
    obtain ⟨role, rfl⟩ := h grant hgrant
    cases role <;> simp
  exact (grants.nodup.subperm hsubset).length_le

/-- A header takes at most 27 bytes. -/
theorem Header.size_render_le (a : Algorithm) : Utf8.size (render a) ≤ 27 := by
  cases a <;> decide +kernel

/-- A payload takes at most six times the bytes of the name and some 250 more. -/
theorem Claims.size_render_le {who : Identity}
    (hgrants : ∀ grant ∈ who.grants, ∃ role : Role, grant = role.name) (issuedAt expires : Int64) :
    Utf8.size (render who issuedAt expires) ≤ 6 * Utf8.size who.username.toList + 250 := by
  have hid := size_quote_le (Text.writeInt64 who.id)
  have hdigits := Text.size_writeInt64_le who.id
  have hname := size_quote_le who.username.toList
  have hroles : ∀ v ∈ who.grants.toList.map Value.text, Utf8.size v.render ≤ 12 := by
    intro v hv
    obtain ⟨grant, hgrant, rfl⟩ := List.mem_map.mp hv
    obtain ⟨role, rfl⟩ := hgrants grant hgrant
    cases role <;> decide +kernel
  have hitems := Value.size_renderItems_le hroles
  have hlength := NameSet.length_le_of_roles hgrants
  rw [List.length_map] at hitems
  have htime : ∀ t : Int64, Utf8.size (Value.int t.toInt).render ≤ 20 := fun t => by
    have htext : (Value.int t.toInt).render = Text.writeInt64 t := by
      simp only [Value.int, Value.render, Number.text_ofInt, Text.writeInt64]
    rw [htext]
    exact Text.size_writeInt64_le t
  have hiat := htime issuedAt
  have hexp := htime expires
  have hkeys : Utf8.size (quote "jti".toList) = 5 ∧ Utf8.size (quote "sub".toList) = 5 ∧
      Utf8.size (quote "grants".toList) = 8 ∧ Utf8.size (quote "iat".toList) = 5 ∧
      Utf8.size (quote "exp".toList) = 5 := by decide +kernel
  obtain ⟨hjtiKey, hsubKey, hgrantsKey, hiatKey, hexpKey⟩ := hkeys
  have hnil : Utf8.size [] = 0 := rfl
  rw [render, Value.render]
  simp (disch := decide) only [Value.renderMembers, Value.render, String.toList_ofList,
    List.cons_append, Utf8.size_append, Utf8.size_cons_of_lt]
  have hbound : (who.grants.toList.length * (12 + 1)) ≤ 26 := by omega
  omega

/-- An issued token is **short enough** to be looked at, if the name of the user has at most 256
bytes and the grants are roles. -/
theorem Issuer.size_le_of_issue {issuer : Issuer} {now : Second} {draw : Nat} {who : Identity}
    {raw : String} (h : issuer.issue now draw who = .ok raw)
    (hname : Utf8.size who.username.toList ≤ 256)
    (hgrants : ∀ grant ∈ who.grants, ∃ role : Role, grant = role.name) :
    Utf8.size raw.toList ≤ 8192 := by
  obtain ⟨expires, -, signature, hsign, rfl⟩ := issue_eq_ok_iff.mp h
  have hheader := Header.size_render_le issuer.algorithm
  have hpayload := Claims.size_render_le hgrants now.signed expires
  have hsignature := SigningKey.length_le_of_sign hsign
  rw [String.toList_ofList, unsigned, Compact.size_text_encodePart]
  unfold Utf8.size at hheader hpayload hname
  omega

/-- A payload takes no fewer than the bytes of the name. -/
theorem Claims.le_size_render (who : Identity) (issuedAt expires : Int64) :
    Utf8.size who.username.toList ≤ Utf8.size (render who issuedAt expires) := by
  have hname := le_size_quote who.username.toList
  rw [render, Value.render]
  simp (disch := decide) only [Value.renderMembers, Value.render, List.cons_append,
    Utf8.size_append, Utf8.size_cons_of_lt]
  omega

/-- A token for a name of 6144 bytes or more is **too long** to be looked at. -/
theorem Issuer.lt_size_of_issue {issuer : Issuer} {now : Second} {draw : Nat} {who : Identity}
    {raw : String} (h : issuer.issue now draw who = .ok raw)
    (hname : 6144 ≤ Utf8.size who.username.toList) : 8192 < Utf8.size raw.toList := by
  obtain ⟨expires, -, signature, -, rfl⟩ := issue_eq_ok_iff.mp h
  have hpayload := Claims.le_size_render who now.signed expires
  rw [String.toList_ofList, unsigned, Compact.size_text_encodePart]
  unfold Utf8.size at hname hpayload
  omega

end BearerGate
