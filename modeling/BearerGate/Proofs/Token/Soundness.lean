import BearerGate.Proofs.Service.Setup
import BearerGate.Proofs.Token.Parts
import BearerGate.Proofs.Token.Verification

/-!
# Verification Is Sound

Whatever a verifier accepts has been signed as it stands: the header, the payload and the
signature that were checked are the three parts of one text, the header names the algorithm of
the verifier and the key checks by that algorithm, and every claim that the identity is made of is
the value of the only member of its name in the signed payload.

## Main results

* `Compact.splitAt_of_decodePart?`: a text whose header can be decoded has three parts.
* `VerificationKey.scheme_of_load`: a key checks by the scheme of the algorithm it was loaded for.
* `Verifier.verify_sound`: what a token that verifies is.
-/

namespace BearerGate

open Json

/-! ### Three parts -/

/-- A part that can be decoded holds no dot. -/
theorem Compact.dot_not_mem_of_decodePart? {cs : List Char} {bytes : Bytes}
    (h : decodePart? cs = some bytes) : '.' ∉ cs := by
  rw [← Base64.encode_of_decode? h]
  exact dot_not_mem_encodePart bytes

/-- A text that is cut at its last two dots has **exactly three parts** if the first of them can
be decoded, because then it holds no further dot. -/
theorem Compact.splitAt_of_decodePart? {cs : List Char} {token : Compact} {bytes : Bytes}
    (h : ofText? cs = some token) (hheader : decodePart? token.header = some bytes) :
    Text.splitAt '.' cs = [token.header, token.payload, token.signature] := by
  obtain ⟨rfl, hpayload, hsignature⟩ := text_of_ofText? h
  have hfree : ∀ part : List Char, '.' ∉ part → ∀ c ∈ part, (c == '.') = false := by
    intro part hdot c hc
    rw [beq_eq_false_iff_ne]
    rintro rfl
    exact hdot hc
  have hheader := hfree _ (dot_not_mem_of_decodePart? hheader)
  rw [text, signedText, Text.splitAt, List.append_assoc, List.cons_append,
    Text.splitWhen_append_cons hheader (by rfl),
    Text.splitWhen_append_cons (hfree _ hpayload) (by rfl),
    Text.splitWhen_of_forall (hfree _ hsignature)]

/-! ### Keys -/

/-- An algorithm of a **shared secret**, which whoever can verify can sign with. -/
def Algorithm.IsSharedSecret (a : Algorithm) : Prop :=
  a = .hs256 ∨ a = .hs384 ∨ a = .hs512

/-- The scheme by which a key checks signatures. -/
def VerificationKey.scheme : VerificationKey → Scheme
  | .rsa padding digest _ => .rsa padding digest
  | .ecdsa curve _ => .ecdsa curve
  | .ed25519 _ => .ed25519

/-- A key checks **by the scheme of the algorithm** that it was loaded for. -/
theorem VerificationKey.scheme_of_load {algorithm : Algorithm} {material : String}
    {key : VerificationKey} (h : VerificationKey.load algorithm material = .ok key) :
    algorithm.scheme? = some key.scheme := by
  obtain ⟨⟨scheme, bytes⟩, hload, rfl⟩ := map_eq_ok_iff.mp h
  rw [Key.load] at hload
  split at hload
  · cases hload
  · next found hfound =>
    split at hload
    · cases hload
    · split at hload
      · cases hload
      · cases hload
        rw [hfound]
        cases scheme <;> rfl

/-- An algorithm with a scheme is none of a shared secret. -/
theorem Algorithm.not_isSharedSecret {algorithm : Algorithm} {scheme : Scheme}
    (h : algorithm.scheme? = some scheme) : ¬algorithm.IsSharedSecret := by
  rintro (rfl | rfl | rfl) <;> cases h

/-- An algorithm is told by its name. -/
theorem Algorithm.name_injective {a b : Algorithm} (h : a.name = b.name) : a = b := by
  have ha : ofName? a.name = some a := ofName?_eq_some_iff.mpr rfl
  rw [h, ofName?_eq_some_iff.mpr rfl] at ha
  exact (Option.some.inj ha).symm

/-! ### Tokens -/

/-- **Verification is sound.** A token that a loaded verifier accepts at a time, give or take the
leeway, is a text of at most 8192 bytes in exactly three parts, where

* the first part is base64url of a JSON object whose only member `alg` names the algorithm of the
  verifier, which is none of a shared secret, and no other algorithm;
* the third part is base64url of a signature that the loaded key accepts, by the scheme of that
  algorithm, over exactly the bytes of the text before the last dot;
* the second part is base64url of a JSON object that has expired by no more than the leeway and
  was issued no later than by the leeway from now, whose `jti` reads as the number of the identity
  once trimmed, whose `sub` is its name, and whose `grants` are texts only, of which the identity
  has exactly what the resolver makes of them. -/
theorem Verifier.verify_sound {algorithm : Algorithm} {material : String} {leeway : Nat}
    {resolve : String → Option String} {v : Verifier}
    (hload : Verifier.load algorithm material leeway resolve = .ok v) {now : Second} {raw : String}
    {who : Identity} (hverify : v.verify now raw = .ok who) :
    Utf8.size raw.toList ≤ 8192 ∧
    ∃ header payload signature : List Char,
      Text.splitAt '.' raw.toList = [header, payload, signature] ∧
      (∃ bytes members, Base64.decode? Base64.url header = some bytes ∧
        IsObject bytes members ∧
        (∀ a : Algorithm, valuesNamed "alg" members = [[.text (some a.name.toList)]] ↔
          a = algorithm) ∧
        ¬algorithm.IsSharedSecret) ∧
      (∃ key bytes, VerificationKey.load algorithm material = .ok key ∧
        algorithm.scheme? = some key.scheme ∧
        Base64.decode? Base64.url signature = some bytes ∧
        key.verify (Utf8.encode (header ++ '.' :: payload)) bytes = true) ∧
      ∃ bytes members, Base64.decode? Base64.url payload = some bytes ∧
        IsObject bytes members ∧
        (∃ (n : Number) (t : Int), valuesNamed "exp" members = [[.number n]] ∧
          n.int? = some t ∧ (now : Int) - leeway ≤ t) ∧
        (∃ (n : Number) (t : Int), valuesNamed "iat" members = [[.number n]] ∧
          n.int? = some t ∧ t ≤ (now : Int) + leeway) ∧
        (∃ jti : List Char, valuesNamed "jti" members = [[.text (some jti)]] ∧
          Text.readInt64 (Text.trim jti) = some who.id) ∧
        valuesNamed "sub" members = [[.text (some who.username.toList)]] ∧
        ∃ texts : List String, valuesNamed "grants" members = [textListTokens texts] ∧
          ∀ grant, grant ∈ who.grants ↔ ∃ text ∈ texts, resolve text = some grant := by
  obtain ⟨key, hkey, rfl⟩ := Verifier.load_eq_ok_iff.mp hload
  obtain ⟨hsize, token, htoken, claims, hclaims, hidentity⟩ := verify_eq_ok_iff.mp hverify
  obtain ⟨⟨header, hheader, hheaderRead⟩, ⟨signature, hsignature, hvalid⟩,
    ⟨payload, hpayload, hpayloadRead⟩, expires, hexpires, hpos, hnow⟩ :=
    verifiedClaims_eq_ok_iff.mp hclaims
  obtain ⟨⟨jti, hjti, hid⟩, hsub, ⟨value, hvalue, hgrants⟩, ⟨issued, hissued, hpast⟩, hsome⟩ :=
    Claims.identity_eq_ok_iff.mp hidentity
  obtain ⟨texts, rfl, hresolved⟩ := Claims.grantsOf_eq_ok_iff.mp hgrants
  have hscheme := VerificationKey.scheme_of_load hkey
  refine ⟨hsize, token.header, token.payload, token.signature,
    Compact.splitAt_of_decodePart? htoken hheader, ?_, ?_, ?_⟩
  · obtain ⟨members, hobject, halg⟩ := Header.read_sound hheaderRead
    refine ⟨header, members, hheader, hobject, fun a => ⟨fun ha => ?_, ?_⟩,
      Algorithm.not_isSharedSecret hscheme⟩
    · rw [halg] at ha
      refine (Algorithm.name_injective (String.toList_inj.mp ?_)).symm
      simpa using ha
    · rintro rfl
      exact halg
  · exact ⟨key, signature, hkey, hscheme, hsignature, hvalid⟩
  · obtain ⟨members, seen, hobject, hreflects⟩ := Claims.read_sound hpayloadRead hsome
    obtain ⟨_, rfl, hjtiNamed⟩ := hreflects.tokenId jti hjti
    obtain ⟨_, rfl, hsubNamed⟩ := hreflects.subject who.username hsub
    obtain ⟨_, rfl, hgrantsNamed⟩ := hreflects.grants _ hvalue
    obtain ⟨_, ⟨n, rfl, hn⟩, hiatNamed⟩ := hreflects.issuedAt issued hissued
    obtain ⟨_, ⟨m, rfl, hm⟩, hexpNamed⟩ := hreflects.expires expires hexpires
    refine ⟨payload, members, hpayload, hobject, ⟨m, expires.toInt, hexpNamed, hm, ?_⟩,
      ⟨n, issued.toInt, hiatNamed, hn, hpast⟩, ⟨jti.toList, hjtiNamed, hid⟩, hsubNamed,
      texts, ?_, ?_⟩
    · have hnow := le_of_earliestExpiry_le hpos hnow
      dsimp only at hnow
      omega
    · rw [hgrantsNamed, tokens_texts]
    · intro grant
      rw [hresolved, NameSet.mem_ofList, List.mem_filterMap]

/-- A token of the sample issuer is accepted, and so it is a short text in three parts. -/
theorem Verifier.verify_sound_of_sampleIssuer :
    ∃ raw who, sampleVerifier.verify 0 raw = .ok who ∧ Utf8.size raw.toList ≤ 8192 ∧
      ∃ header payload signature,
        Text.splitAt '.' raw.toList = [header, payload, signature] := by
  obtain ⟨raw, hissue⟩ := @exists_issue_sampleIssuer 0 (by decide) 0 ⟨7, "ada", .empty⟩
  have hverify := verify_sampleVerifier hissue (by decide) NameSet.roles_of_empty
  obtain ⟨hsize, header, payload, signature, hparts, -⟩ :=
    Verifier.verify_sound load_sampleVerifier hverify
  exact ⟨raw, _, hverify, hsize, header, payload, signature, hparts⟩

end BearerGate
