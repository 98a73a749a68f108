import BearerGate.Proofs.Token.Issuing
import BearerGate.Service.Setup

/-!
# What a Service Is Made Of

A service that has been set up has the parts that its settings name: the gate takes over the
header, the scheme and the optional routes, checks tokens with the key and the leeway of the
settings and resolves their grants to roles, and asks the source of revocations that it was
given; the issuer signs with the algorithm and for the lifetime of the settings.

## Main results

* `Service.buildGate_eq_ok_iff`: the gate of settings.
* `Service.buildIssuer_eq_ok_some`: the issuer of settings.
* `Service.assemble_eq_ok_iff`: the service of settings.
* `Service.assemble_sampleSettings`: the service of sample settings, with any source.
* `verify_sampleVerifier`: the tokens of its issuer are good at its gate.
-/

namespace BearerGate

/-- A verifier is loaded with its key, and has the rest as given. -/
theorem Verifier.load_eq_ok_iff {algorithm : Algorithm} {material : String} {leeway : Nat}
    {resolve : String → Option String} {v : Verifier} :
    Verifier.load algorithm material leeway resolve = .ok v ↔
      ∃ key, VerificationKey.load algorithm material = .ok key ∧
        v = ⟨algorithm, key, leeway, resolve⟩ := by
  rw [Verifier.load, map_eq_ok_iff]
  constructor
  · rintro ⟨key, hkey, rfl⟩
    exact ⟨key, hkey, rfl⟩
  · rintro ⟨key, hkey, rfl⟩
    exact ⟨key, hkey, rfl⟩

namespace Service

/-- The **gate of settings**: it is built exactly when the key loads and there is a source of
revocations that is no stand-in, and takes everything else over. -/
theorem buildGate_eq_ok_iff {settings : Settings} {source : Option Revocation.Source}
    {gate : Gate} :
    buildGate settings source = .ok gate ↔
      ∃ verifier checker,
        Verifier.load settings.algorithm settings.publicKey settings.leeway Role.resolve =
          .ok verifier ∧
        source = some checker ∧ checker.isPlaceholder = false ∧
        gate = ⟨settings.headerName, settings.scheme, settings.optionalRoutes,
          ⟨verifier, checker⟩⟩ := by
  rw [buildGate, buildScreen]
  rw [map_eq_ok_iff]
  constructor
  · rintro ⟨screen, hscreen, rfl⟩
    split at hscreen
    · cases hscreen
    · next verifier hverifier =>
      dsimp only at hscreen
      split at hscreen
      · cases hscreen
      · next hplaceholder =>
        cases hscreen
        cases source with
        | none => exact absurd rfl hplaceholder
        | some checker =>
            exact ⟨verifier, checker, hverifier, rfl, by simpa using hplaceholder, rfl⟩
  · rintro ⟨verifier, checker, hverifier, rfl, hplaceholder, rfl⟩
    refine ⟨⟨verifier, checker⟩, ?_, rfl⟩
    rw [hverifier]
    simp [hplaceholder]

/-- The **issuer of settings** that name a private key: it is loaded from that key. -/
theorem buildIssuer_eq_ok_some {settings : Settings} {issuer : Issuer}
    (h : buildIssuer settings = .ok (some issuer)) :
    ∃ material key, settings.privateKey = some material ∧
      SigningKey.load settings.algorithm material = .ok key ∧
      issuer = ⟨settings.algorithm, key, settings.lifetime⟩ := by
  rw [buildIssuer] at h
  split at h
  · cases h
  · next material hmaterial =>
    obtain ⟨loaded, hloaded, heq⟩ := map_eq_ok_iff.mp h
    cases heq
    obtain ⟨key, hkey, rfl⟩ := map_eq_ok_iff.mp hloaded
    exact ⟨material, key, hmaterial, hkey, rfl⟩

/-- The **service of settings** has their gate and their issuer. -/
theorem assemble_eq_ok_iff {settings : Settings} {source : Option Revocation.Source}
    {service : Service} :
    assemble settings source = .ok service ↔
      buildGate settings source = .ok service.gate ∧
        buildIssuer settings = .ok service.issuer := by
  rw [assemble]
  constructor
  · intro h
    split at h
    · cases h
    · next gate hgate =>
      split at h
      · cases h
      · next issuer hissuer =>
        cases h
        exact ⟨hgate, hissuer⟩
  · rintro ⟨hgate, hissuer⟩
    rw [hgate]
    simp only
    rw [hissuer]

end Service

/-! ### A service -/

/-- Settings with the sample keys, one optional route, and otherwise as by default. -/
def sampleSettings : Settings where
  port := Settings.defaultPort
  production := false
  publicKey := samplePublicText
  privateKey := some samplePrivateText
  algorithm := .rs256
  lifetime := Settings.defaultLifetime
  leeway := 0
  headerName := Settings.defaultHeaderName
  scheme := Settings.defaultScheme
  optionalRoutes := [⟨some "GET", [.literal "health"], "/health"⟩]
  revocation := .unset

/-- The verifier of the sample settings. -/
def sampleVerifier : Verifier :=
  ⟨.rs256, sampleVerificationKey, 0, Role.resolve⟩

/-- The issuer of the sample settings. -/
def sampleIssuer : Issuer :=
  ⟨.rs256, sampleSigningKey, Settings.defaultLifetime⟩

/-- The gate of the sample settings with a source of revocations. -/
def sampleGate (source : Revocation.Source) : Gate :=
  ⟨sampleSettings.headerName, sampleSettings.scheme, sampleSettings.optionalRoutes,
    ⟨sampleVerifier, source⟩⟩

/-- The service of the sample settings with a source of revocations. -/
def sampleService (source : Revocation.Source) : Service :=
  ⟨sampleGate source, some sampleIssuer⟩

/-- The verifier of the sample settings is loaded from their text. -/
theorem load_sampleVerifier :
    Verifier.load .rs256 samplePublicText 0 Role.resolve = .ok sampleVerifier :=
  Verifier.load_eq_ok_iff.mpr ⟨_, load_samplePublicText, rfl⟩

/-- The sample settings give their gate with any source that is no stand-in. -/
theorem buildGate_sampleSettings {source : Revocation.Source}
    (h : source.isPlaceholder = false) :
    Service.buildGate sampleSettings (some source) = .ok (sampleGate source) :=
  Service.buildGate_eq_ok_iff.mpr ⟨_, source, load_sampleVerifier, rfl, h, rfl⟩

/-- The sample settings give their **service** with any source that is no stand-in. -/
theorem Service.assemble_sampleSettings {source : Revocation.Source}
    (h : source.isPlaceholder = false) :
    assemble sampleSettings (some source) = .ok (sampleService source) := by
  refine assemble_eq_ok_iff.mpr ⟨buildGate_sampleSettings h, ?_⟩
  have hload : Issuer.load .rs256 samplePrivateText Settings.defaultLifetime =
      .ok sampleIssuer := by
    rw [Issuer.load, load_samplePrivateText]
    rfl
  simp only [buildIssuer, sampleSettings, hload]
  rfl

/-- The sample key signs every message. -/
theorem exists_sign_sampleSigningKey (draw : Nat) (message : Bytes) :
    ∃ signature, sampleSigningKey.sign draw message = .ok signature := by
  have husable : Rsa.isUsable sampleKey.modulus = true := by decide +kernel
  simp only [sampleSigningKey, SigningKey.sign, Rsa.sign, husable, if_true]
  exact ⟨_, rfl⟩

/-- The sample issuer makes a token for anyone, as long as the time of expiry fits. -/
theorem exists_issue_sampleIssuer {now : Second}
    (h : now + Settings.defaultLifetime ≤ Word.last) (draw : Nat) (who : Identity) :
    ∃ raw, sampleIssuer.issue now draw who = .ok raw := by
  have hsigns : ∀ message, ∃ signature, sampleIssuer.key.sign draw message = .ok signature := by
    rw [sampleIssuer]
    exact exists_sign_sampleSigningKey draw
  exact Issuer.exists_issue hsigns h who

/-- A token of the sample issuer for a short name and roles verifies in the second of its issue. -/
theorem verify_sampleVerifier {now : Second} {draw : Nat} {who : Identity} {raw : String}
    (hissue : sampleIssuer.issue now draw who = .ok raw)
    (hname : Utf8.size who.username.toList ≤ 256)
    (hgrants : ∀ grant ∈ who.grants, ∃ role : Role, grant = role.name) :
    sampleVerifier.verify now raw = .ok who := by
  have halgorithm : sampleIssuer.algorithm = sampleVerifier.algorithm := rfl
  have hkeys : sampleIssuer.key.Matches sampleVerifier.key := samplePair_matches
  have hsize := Issuer.size_le_of_issue hissue hname hgrants
  have hleeway : sampleVerifier.leeway ≤ now := Nat.zero_le _
  have hissued : (now : Nat) ≤ now + sampleVerifier.leeway := Nat.le_add_right _ _
  have hexpires : now ≤ now + sampleIssuer.lifetime + sampleVerifier.leeway := by omega
  refine Verifier.verify_of_issue halgorithm hkeys hissue hsize ?_ hleeway hissued hexpires
  intro grant hgrant
  obtain ⟨role, rfl⟩ := hgrants grant hgrant
  have hresolver : sampleVerifier.resolve = Role.resolve := by rw [sampleVerifier]
  rw [hresolver, Role.resolve_name]

/-- A token with **any claims of the right kinds**, as long as they are short, can be made with the
sample key; until its expiry its claims are verified. -/
theorem exists_token_of_members {jti sub : String} {names : List String} {iat exp : Int64}
    (hsize : Utf8.size (Json.Value.object
      (Claims.members jti sub names iat.toInt exp.toInt)).render ≤ 4096) (hpos : 0 ≤ exp.toInt) :
    ∃ token : Compact, Utf8.size token.text ≤ 8192 ∧ Compact.ofText? token.text = some token ∧
      ∀ now : Second, (now : Int) ≤ exp.toInt → sampleVerifier.verifiedClaims now token =
        .ok ⟨some jti, some sub, some (.list (names.map .text)), some iat, some exp⟩ := by
  obtain ⟨header, hheader⟩ : ∃ header, header = Utf8.encode (Header.render .rs256) := ⟨_, rfl⟩
  obtain ⟨payload, hpayload⟩ : ∃ payload, payload = Utf8.encode (Json.Value.object
    (Claims.members jti sub names iat.toInt exp.toInt)).render := ⟨_, rfl⟩
  obtain ⟨signature, hsign⟩ := exists_sign_sampleSigningKey 0
    (Compact.signedBytes ⟨Compact.encodePart header, Compact.encodePart payload, []⟩)
  have halgorithm : Header.read header = .ok .rs256 := hheader ▸ Header.read_render .rs256
  have hread := hpayload ▸ Claims.read_members jti sub names iat exp
  refine ⟨⟨Compact.encodePart header, Compact.encodePart payload, Compact.encodePart signature⟩, ?_,
    Compact.ofText?_text (Compact.dot_not_mem_encodePart _) (Compact.dot_not_mem_encodePart _),
    fun now hnow => ?_⟩
  · have hheaderSize := Header.size_render_le .rs256
    have hsignature := SigningKey.length_le_of_sign hsign
    unfold Utf8.size at hsize hheaderSize
    rw [← hheader] at hheaderSize
    rw [← hpayload] at hsize
    rw [Compact.size_text_encodePart]
    omega
  · exact Verifier.verifiedClaims_eq_ok_iff.mpr
      ⟨⟨header, Compact.decodePart?_encodePart _, halgorithm⟩,
        ⟨signature, Compact.decodePart?_encodePart _, samplePair_matches hsign⟩,
        ⟨payload, Compact.decodePart?_encodePart _, hread⟩, exp, rfl, hpos,
        (Verifier.earliestExpiry_le_iff hpos (Nat.zero_le _)).mpr
          (by simpa [sampleVerifier] using hnow)⟩

/-- Such a token is **accepted** until its expiry, as whoever the claims stand for. -/
theorem exists_accepts_sampleVerifier {jti sub : String} {names : List String} {iat exp : Int64}
    (hsize : Utf8.size (Json.Value.object
      (Claims.members jti sub names iat.toInt exp.toInt)).render ≤ 4096) (hpos : 0 ≤ exp.toInt) :
    ∃ raw, ∀ (now : Second) (who : Identity), (now : Int) ≤ exp.toInt →
      Claims.identity ⟨some jti, some sub, some (.list (names.map .text)), some iat, some exp⟩
        Role.resolve now 0 = .ok who →
      sampleVerifier.Accepts now raw
        ⟨some jti, some sub, some (.list (names.map .text)), some iat, some exp⟩ who := by
  obtain ⟨token, hshort, hcut, hclaims⟩ := exists_token_of_members hsize hpos
  rw [← @String.toList_ofList token.text] at hshort hcut
  refine ⟨String.ofList token.text, fun now who hnow hidentity => ?_⟩
  refine ⟨Verifier.verify_eq_ok_iff.mpr ⟨hshort, token, hcut, _, hclaims now hnow, ?_⟩, token, hcut,
    hclaims now hnow⟩
  simp only [sampleVerifier]
  exact hidentity

end BearerGate
