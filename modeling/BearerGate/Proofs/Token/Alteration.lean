import Mathlib.Data.List.TakeWhile
import BearerGate.Proofs.Service.Setup
import BearerGate.Proofs.Token.Soundness

/-!
# Altered Signatures

A token that is accepted is accepted with its signature only. Whatever else is put in its place, be
it other bytes, the same bytes in another spelling, or something that moves the dots at which the
text is cut, is refused before the claims are looked at. For this a key has to accept one signature
of a message at most. An RSA key of PKCS#1 v1.5 does; where signatures have a random part the
signer could make another one, and so could not be told from somebody who alters the text.

Base64 has one spelling, so other characters without a dot are other bytes or none; and with a dot
among them the text is cut further to the right, which leaves a dot in the header.

## Main results

* `VerificationKey.hasUniqueSignatures_rsa`: the keys of PKCS#1 v1.5 accept one signature of a
  message.
* `Compact.ofText?_withSignature`: where a text is cut that has something else for a signature.
* `Verifier.refuses_altered_signature`: what becomes of a token whose signature has been altered.
-/

namespace BearerGate

/-! ### Keys -/

namespace VerificationKey

/-- A key that accepts **one signature** of each message at most. -/
def HasUniqueSignatures (key : VerificationKey) : Prop :=
  ∀ message s t, key.verify message s = true → key.verify message t = true → s = t

/-- The public half of an RSA key, by PKCS#1 v1.5, **accepts one signature** of each message. -/
theorem hasUniqueSignatures_rsa {d : Digest} {key : Rsa.PrivateKey} (hkey : key.IsInverse) :
    HasUniqueSignatures (.rsa .pkcs1 d (some ⟨key.modulus, key.exponent⟩)) :=
  fun _ _ _ hs ht => Rsa.eq_of_verify_pkcs1 hkey hs ht

/-- No RSA key accepts the empty signature by PKCS#1 v1.5. -/
theorem ne_nil_of_verify_rsa {d : Digest} {key : Rsa.PublicKey} {message signature : Bytes}
    (h : verify (.rsa .pkcs1 d (some key)) message signature = true) : signature ≠ [] := by
  obtain ⟨-, hlength, -, hblock⟩ := Rsa.verify_pkcs1_eq_true_iff.mp h
  rintro rfl
  rw [← hlength] at hblock
  cases hblock

end VerificationKey

/-! ### Cutting -/

/-- A list has a last separator unless it has none. -/
theorem Text.cutLast_eq_none_iff {α : Type} [BEq α] [LawfulBEq α] {sep : α} {xs : List α} :
    cutLast sep xs = none ↔ sep ∉ xs := by
  rw [cutLast]
  split
  · next hnil =>
    rw [List.dropWhile_eq_nil_iff] at hnil
    refine iff_of_true rfl fun hmem => ?_
    simpa using hnil sep (List.mem_reverse.mpr hmem)
  · next last head hcons =>
    refine iff_of_false (by simp) fun hmem => ?_
    have hnil : xs.reverse.dropWhile (· != sep) = [] := by
      rw [List.dropWhile_eq_nil_iff]
      intro x hx
      rw [bne_iff_ne]
      rintro rfl
      exact hmem (List.mem_reverse.mp hx)
    rw [hnil] at hcons
    cases hcons

namespace Compact

/-- A token with something else for a signature. -/
def withSignature (token : Compact) (signature : List Char) : Compact :=
  { token with signature }

/-- The text of a token has two dots more than its parts. -/
theorem count_dot_text (token : Compact) :
    token.text.count '.' =
      token.header.count '.' + token.payload.count '.' + token.signature.count '.' + 2 := by
  simp only [text, signedText, List.count_append, List.count_cons_self]
  omega

/-- Whatever the parts of a token hold, its text can be cut. -/
theorem exists_ofText?_text (token : Compact) : ∃ t, ofText? token.text = some t := by
  have hdots := token.count_dot_text
  cases hcut : Text.cutLast '.' token.text with
  | none =>
      rw [Text.cutLast_eq_none_iff, ← List.count_eq_zero] at hcut
      omega
  | some pieces =>
      obtain ⟨signed, signature⟩ := pieces
      obtain ⟨htext, hfree⟩ := Text.eq_append_of_cutLast hcut
      rw [htext, List.count_append, List.count_cons_self, List.count_eq_zero.mpr hfree] at hdots
      cases hcut' : Text.cutLast '.' signed with
      | none =>
          rw [Text.cutLast_eq_none_iff, ← List.count_eq_zero] at hcut'
          omega
      | some parts =>
          refine ⟨⟨parts.1, parts.2, signature⟩, ?_⟩
          simp [ofText?, hcut, hcut']

/-- The text of a token is cut into its parts if the header that comes of it holds no dot: the two
dots that there are then are those between the parts. -/
theorem eq_of_ofText?_text {token t : Compact} (h : ofText? token.text = some t)
    (hheader : '.' ∉ t.header) : t = token := by
  obtain ⟨htext, hpayload, hsignature⟩ := text_of_ofText? h
  have hdots := token.count_dot_text
  rw [← htext, count_dot_text, List.count_eq_zero.mpr hheader, List.count_eq_zero.mpr hpayload,
    List.count_eq_zero.mpr hsignature] at hdots
  have hparts : ofText? token.text = some token :=
    ofText?_text (List.count_eq_zero.mp (by omega)) (List.count_eq_zero.mp (by omega))
  rw [h] at hparts
  exact Option.some.inj hparts

/-- The text of a token **with something else for a signature** is cut into that and the other two
parts, or into parts of which the header cannot be decoded. -/
theorem ofText?_withSignature (token : Compact) (signature : List Char) :
    ∃ t, ofText? (token.withSignature signature).text = some t ∧
      (t = token.withSignature signature ∨ decodePart? t.header = none) := by
  obtain ⟨t, ht⟩ := (token.withSignature signature).exists_ofText?_text
  refine ⟨t, ht, ?_⟩
  cases hheader : decodePart? t.header with
  | none => exact Or.inr rfl
  | some bytes => exact Or.inl (eq_of_ofText?_text ht (dot_not_mem_of_decodePart? hheader))

/-- A text stands for bytes exactly when it is the encoded form of some. -/
theorem decodePart?_eq_none_iff {cs : List Char} :
    decodePart? cs = none ↔ ∀ bytes, cs ≠ encodePart bytes := by
  constructor
  · rintro hnone bytes rfl
    rw [decodePart?_encodePart] at hnone
    cases hnone
  · intro hne
    cases hdecode : decodePart? cs with
    | none => rfl
    | some bytes => exact absurd (Base64.encode_of_decode? hdecode).symm (hne bytes)

end Compact

/-! ### Refusals before the claims -/

namespace Verifier

variable {v : Verifier} {now : Second} {token : Compact}

/-- A token whose header cannot be decoded is refused for that. -/
theorem verifiedClaims_of_header (h : Compact.decodePart? token.header = none) :
    v.verifiedClaims now token = .error (.malformed .notBase64) := by
  rw [verifiedClaims, part, h]
  rfl

/-- A token whose header is in order is refused if its signature cannot be decoded. -/
theorem verifiedClaims_of_signature {header : Bytes}
    (hheader : Compact.decodePart? token.header = some header)
    (halgorithm : Header.read header = .ok v.algorithm)
    (h : Compact.decodePart? token.signature = none) :
    v.verifiedClaims now token = .error (.malformed .notBase64) := by
  rw [← part_eq_ok_iff] at hheader
  rw [← readPart_eq_ok_iff] at halgorithm
  have hsignature : part token.signature = .error (.malformed .notBase64) := by rw [part, h]
  simp only [verifiedClaims, bind, Except.bind, hheader, halgorithm, hsignature, ne_eq,
    not_true_eq_false, if_false]

/-- A token whose header is in order is refused if its signature is not valid. -/
theorem verifiedClaims_of_not_verify {header signature : Bytes}
    (hheader : Compact.decodePart? token.header = some header)
    (halgorithm : Header.read header = .ok v.algorithm)
    (hsignature : Compact.decodePart? token.signature = some signature)
    (h : v.key.verify token.signedBytes signature = false) :
    v.verifiedClaims now token = .error .badSignature := by
  rw [← part_eq_ok_iff] at hheader hsignature
  rw [← readPart_eq_ok_iff] at halgorithm
  simp only [verifiedClaims, bind, Except.bind, hheader, halgorithm, hsignature, h, ne_eq,
    not_true_eq_false, Bool.false_eq_true, if_false]

/-- A text that can be cut is refused if it is too long, and otherwise for whatever is wrong with
the signed form. -/
theorem verify_of_verifiedClaims {cs : List Char} {problem : TokenProblem}
    (htoken : Compact.ofText? cs = some token)
    (h : v.verifiedClaims now token = .error problem) :
    v.verify now (String.ofList cs) =
      .error (if 8192 < Utf8.size cs then .malformed .oversized else problem) := by
  unfold verify
  dsimp only
  rw [String.toList_ofList, if_neg (by simp [not_isBlankText_of_ofText? htoken]), maxSize]
  split
  · rfl
  · rw [htoken]
    simp only [h]
    rfl

/-- A token that is accepted is short, is cut where its parts end, has a header for the verifier's
algorithm and a valid signature. -/
theorem signed_of_verify {who : Identity} (h : v.verify now (String.ofList token.text) = .ok who) :
    Utf8.size token.text ≤ 8192 ∧ Compact.ofText? token.text = some token ∧
      ∃ header signature, Compact.decodePart? token.header = some header ∧
        Header.read header = .ok v.algorithm ∧
        Compact.decodePart? token.signature = some signature ∧
        v.key.verify token.signedBytes signature = true := by
  obtain ⟨hsize, found, hfound, claims, hclaims, -⟩ := verify_eq_ok_iff.mp h
  obtain ⟨⟨header, hheader, halgorithm⟩, ⟨signature, hsignature, hvalid⟩, -⟩ :=
    verifiedClaims_eq_ok_iff.mp hclaims
  rw [String.toList_ofList] at hsize hfound
  obtain rfl := Compact.eq_of_ofText?_text hfound (Compact.dot_not_mem_of_decodePart? hheader)
  exact ⟨hsize, hfound, header, signature, hheader, halgorithm, hsignature, hvalid⟩

/-- **An altered signature is refused**, at any time. If a verifier whose key accepts one signature
of each message accepts a token at some time, and anything else is put in place of its signature,
the text is refused at every time: for its size if it is too long now, otherwise as badly signed if
what was put in is the base64url of some bytes, and as no base64url if it is not. So it is refused
before any claim is looked at. -/
theorem refuses_altered_signature (hunique : v.key.HasUniqueSignatures) {who : Identity}
    (hverify : v.verify now (String.ofList token.text) = .ok who) {altered : List Char}
    (hne : altered ≠ token.signature) (later : Second) :
    ∃ problem,
      v.verify later (String.ofList (token.withSignature altered).text) = .error problem ∧
      (problem = .badSignature ∨ problem = .malformed .notBase64 ∨
        problem = .malformed .oversized) ∧
      (problem = .malformed .oversized ↔ 8192 < Utf8.size (token.withSignature altered).text) ∧
      (problem = .badSignature ↔ Utf8.size (token.withSignature altered).text ≤ 8192 ∧
        ∃ bytes, altered = Compact.encodePart bytes) := by
  obtain ⟨-, hcut, header, signature, hheader, halgorithm, hsignature, hvalid⟩ :=
    signed_of_verify hverify
  obtain ⟨t, ht, hparts⟩ := token.ofText?_withSignature altered
  by_cases hencoded : ∃ bytes, altered = Compact.encodePart bytes
  · obtain ⟨bytes, rfl⟩ := hencoded
    have hdecode := Compact.decodePart?_encodePart bytes
    -- Other characters are other bytes, of which the key accepts those of the signature only.
    have hbytes : bytes ≠ signature := by
      rintro rfl
      exact hne (Base64.encode_of_decode? hsignature)
    have hinvalid : v.key.verify (token.withSignature (Compact.encodePart bytes)).signedBytes
        bytes = false := by
      rw [← Bool.not_eq_true]
      exact fun hvalid' => hbytes (hunique _ _ _ hvalid' hvalid)
    have hother : Compact.ofText? (token.withSignature (Compact.encodePart bytes)).text =
        some (token.withSignature (Compact.encodePart bytes)) :=
      Compact.ofText?_text (Compact.text_of_ofText? hcut).2.1 (Compact.dot_not_mem_encodePart _)
    have hrefused : v.verifiedClaims later (token.withSignature (Compact.encodePart bytes)) =
        .error .badSignature := verifiedClaims_of_not_verify hheader halgorithm hdecode hinvalid
    refine ⟨_, verify_of_verifiedClaims hother hrefused, ?_⟩
    split
    · next hlong => simp [hlong, Nat.not_le.mpr hlong]
    · next hshort => simp [hshort, Nat.not_lt.mp hshort]
  · have hdecode : Compact.decodePart? altered = none :=
      Compact.decodePart?_eq_none_iff.mpr fun bytes heq => hencoded ⟨bytes, heq⟩
    have hrefused : v.verifiedClaims later t = .error (.malformed .notBase64) := by
      rcases hparts with rfl | hdot
      · exact verifiedClaims_of_signature hheader halgorithm hdecode
      · exact verifiedClaims_of_header hdot
    refine ⟨_, verify_of_verifiedClaims ht hrefused, ?_⟩
    split
    · next hlong => simp [hlong, hencoded]
    · next hshort => simp [hshort, hencoded]

/-- A token of the sample issuer is accepted in second 100, and refused a day later without its
signature as well as with a dot for it: the first as badly signed, the second as no base64url. -/
theorem refuses_altered_signature_of_sampleIssuer :
    sampleVerifier.key.HasUniqueSignatures ∧ ∃ token : Compact,
      sampleVerifier.verify 100 (String.ofList token.text) = .ok ⟨7, "ada", .empty⟩ ∧
      [] ≠ token.signature ∧ ['.'] ≠ token.signature ∧
      sampleVerifier.verify 86500 (String.ofList (token.withSignature []).text) =
        .error .badSignature ∧
      sampleVerifier.verify 86500 (String.ofList (token.withSignature ['.']).text) =
        .error (.malformed .notBase64) := by
  have hunique : sampleVerifier.key.HasUniqueSignatures :=
    VerificationKey.hasUniqueSignatures_rsa sampleKey_isInverse
  obtain ⟨token, hverify⟩ : ∃ token : Compact,
      sampleVerifier.verify 100 (String.ofList token.text) = .ok ⟨7, "ada", .empty⟩ := by
    obtain ⟨raw, hissue⟩ := @exists_issue_sampleIssuer 100 (by decide) 0 ⟨7, "ada", .empty⟩
    have hverify := verify_sampleVerifier hissue (by decide) NameSet.roles_of_empty
    obtain ⟨_, -, _, -, rfl⟩ := Issuer.issue_eq_ok_iff.mp hissue
    exact ⟨_, hverify⟩
  obtain ⟨hsize, hcut, -, signature, -, -, hsignature, hvalid⟩ := signed_of_verify hverify
  have hnonempty : signature ≠ [] := VerificationKey.ne_nil_of_verify_rsa hvalid
  have hnil : [] ≠ token.signature := by
    intro heq
    rw [← heq] at hsignature
    exact hnonempty (Option.some.inj hsignature).symm
  have hdot : ['.'] ≠ token.signature := by
    intro heq
    exact (Compact.text_of_ofText? hcut).2.2 (heq ▸ List.mem_singleton_self '.')
  have hless : ∀ altered, Utf8.size altered ≤ 1 →
      Utf8.size (token.withSignature altered).text ≤ 8192 := by
    intro altered haltered
    have hone : 1 ≤ Utf8.size token.signature := by
      obtain ⟨c, cs, hcons⟩ := List.exists_cons_of_ne_nil (Ne.symm hnil)
      have hpos := List.length_pos_iff.mpr (String.utf8EncodeChar_ne_nil (c := c))
      rw [hcons, Utf8.size_cons]
      omega
    simp only [Compact.withSignature, Compact.text, Compact.signedText, Utf8.size_append,
      Utf8.size_cons] at hsize ⊢
    omega
  obtain ⟨first, hfirst, -, -, hbad⟩ := refuses_altered_signature hunique hverify hnil 86500
  obtain ⟨second, hsecond, hkind, hlong, hbad'⟩ :=
    refuses_altered_signature hunique hverify hdot 86500
  obtain rfl : first = .badSignature := hbad.mpr ⟨hless [] (by decide), [], rfl⟩
  obtain rfl : second = .malformed .notBase64 := by
    rcases hkind with rfl | rfl | rfl
    · obtain ⟨-, bytes, hbytes⟩ := hbad'.mp rfl
      exact absurd (hbytes ▸ List.mem_singleton_self '.') (Compact.dot_not_mem_encodePart bytes)
    · rfl
    · exact absurd (hlong.mp rfl) (Nat.not_lt.mpr (hless ['.'] (by decide)))
  exact ⟨hunique, token, hverify, hnil, hdot, hfirst, hsecond⟩

end Verifier

end BearerGate
