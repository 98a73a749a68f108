import BearerGate.Proofs.Service.Minting
import BearerGate.Proofs.Settings
import BearerGate.Proofs.Token.Soundness
import BearerGate.Startup

/-!
# Sound Startups

Before the service serves, its settings are read, the source of revocations is connected, the gate
is built and the issuer is loaded, in this order. A startup that gets to the end has a service of
which all parts agree with the variables: none of the stages falls back on something else. In
particular there is a source of revocations that is no stand-in. Where the backend is not named
there is none, and no choice of the other variables makes up for it; the stand-in itself would
accept no token.

## Main results

* `Startup.prepare_eq_ok_iff`: the four stages.
* `Startup.IsSound.of_prepare`: what a startup that gets to the end has made sure of.
* `Startup.startup_is_sound`: this, and what becomes of the startups without a backend.
-/

namespace BearerGate

/-! ### Stages -/

namespace Service

variable {reachable : String → Bool} {settings : Settings} {service : Service}

/-- The **service of settings** is assembled with the source that they are connected to. -/
theorem setUp_eq_ok_iff :
    setUp reachable settings = .ok service ↔ ∃ source,
      connect reachable settings.revocation = .ok source ∧
        assemble settings source = .ok service := by
  rw [setUp]
  cases connect reachable settings.revocation <;> simp

/-- A source **follows a setting**: it holds the numbers of the list, or asks the server, which has
to be reached. -/
inductive Follows (reachable : String → Bool) : RevocationSetting → Revocation.Source → Prop where
  | fixed (ids : List Int64) : Follows reachable (.fixed ids) (.fixed ids)
  | server {url : String} (space : String) : reachable url = true →
      Follows reachable (.server url space) (.stored .server space)

/-- A source is connected when it **follows the setting**. -/
theorem connect_eq_ok_some_iff {r : RevocationSetting} {source : Revocation.Source} :
    connect reachable r = .ok (some source) ↔ Follows reachable r source := by
  constructor
  · intro h
    cases r with
    | unset => cases h
    | fixed ids =>
        cases h
        exact .fixed ids
    | server url space =>
        rw [connect] at h
        split at h
        · next hreachable =>
          cases h
          exact .server space hreachable
        · cases h
  · intro h
    cases h with
    | fixed => rfl
    | server _ hreachable => rw [connect, if_pos hreachable]

/-- The issuer of a service that was assembled signs with the algorithm and for the lifetime of the
settings. -/
theorem issuer_of_assemble {source : Option Revocation.Source} {issuer : Issuer}
    (h : assemble settings source = .ok service) (hissuer : service.issuer = some issuer) :
    issuer.algorithm = settings.algorithm ∧ issuer.lifetime = settings.lifetime := by
  have hbuilt := (assemble_eq_ok_iff.mp h).2
  rw [hissuer] at hbuilt
  obtain ⟨material, key, -, -, rfl⟩ := buildIssuer_eq_ok_some hbuilt
  exact ⟨rfl, rfl⟩

end Service

/-- The stand-in for a source accepts **no token**, whoever verifies it. -/
theorem Screen.not_accepts_of_failClosed (verifier : Verifier) (now : Second)
    (store : Revocation.Store) (raw : String) (who : Identity) :
    Screen.check ⟨verifier, .failClosed⟩ now store raw ≠ .ok who := by
  rw [ne_eq, check_eq_ok_iff]
  rintro ⟨-, hkept⟩
  cases hkept

namespace Startup

open Settings (Environment)

variable {env : Environment} {reachable : String → Bool} {settings : Settings} {service : Service}

/-- A startup **gets to the end** when the settings are read, their source of revocations is
connected, and the service is assembled. -/
theorem prepare_eq_ok_iff :
    prepare env reachable = .ok (settings, service) ↔ settings.IsReadFrom env ∧ ∃ source,
      Service.connect reachable settings.revocation = .ok source ∧
        Service.assemble settings source = .ok service := by
  rw [← Settings.read_eq_ok_iff, ← Service.setUp_eq_ok_iff, prepare]
  constructor
  · intro h
    split at h
    · cases h
    · next found hread =>
      obtain ⟨built, hbuilt, heq⟩ := map_eq_ok_iff.mp h
      cases heq
      exact ⟨hread, hbuilt⟩
  · rintro ⟨hread, hsetUp⟩
    rw [hread]
    exact map_eq_ok_iff.mpr ⟨service, hsetUp, rfl⟩

/-! ### Sound startups -/

/-- The backend of revocations is **named**: the variable holds one of two words, blanks around it
and letter case apart. -/
def NamesBackend (env : Environment) : Prop :=
  ∃ text, Settings.Holds env .backend text ∧
    (Text.Spells "static".toList text.toList ∨ Text.Spells "valkey".toList text.toList)

/-- The backend of the variables is named if a source follows the setting that they give. -/
theorem NamesBackend.of_follows {r : RevocationSetting} (h : Settings.NamesSource env r)
    {source : Revocation.Source} (hfollows : Service.Follows reachable r source) :
    NamesBackend env := by
  cases h with
  | unset => cases hfollows
  | fixed htext hname => exact ⟨_, htext, Or.inl hname⟩
  | server htext hname => exact ⟨_, htext, Or.inr hname⟩

/-- A startup is **sound**: its settings are those of the variables; the backend of revocations is
named, and the source at the gate follows its setting and is no stand-in; the algorithm is one of
the nine that sign with one key and verify with another, and both the gate and the issuer go by it;
the key of the gate is loaded for it; there is an issuer exactly where there is a private key, and
its lifetime is that of the settings and not zero; and the gate takes everything else over. -/
structure IsSound (env : Environment) (reachable : String → Bool) (settings : Settings)
    (service : Service) : Prop where
  read : settings.IsReadFrom env
  backend : NamesBackend env
  source : Service.Follows reachable settings.revocation service.gate.screen.source
  wired : service.gate.screen.source ≠ .failClosed
  asymmetric : settings.algorithm ∈ [Algorithm.es256, .es384, .rs256, .rs384, .rs512, .ps256,
    .ps384, .ps512, .edDSA]
  verifies : service.gate.screen.verifier.algorithm = settings.algorithm
  key : ∃ material, Settings.Holds env .publicKey material ∧
    VerificationKey.load settings.algorithm material = .ok service.gate.screen.verifier.key
  issues : service.issuer.isSome = true ↔ ∃ material, Settings.Holds env .privateKey material
  issuer : ∀ issuer, service.issuer = some issuer → issuer.algorithm = settings.algorithm ∧
    issuer.lifetime = settings.lifetime ∧ 0 < issuer.lifetime
  leeway : service.gate.screen.verifier.leeway = settings.leeway
  headerName : service.gate.headerName = settings.headerName
  scheme : service.gate.scheme = settings.scheme
  optionalRoutes : service.gate.optionalRoutes = settings.optionalRoutes

/-- A startup that gets to the end **is sound**. -/
theorem IsSound.of_prepare (h : prepare env reachable = .ok (settings, service)) :
    IsSound env reachable settings service := by
  obtain ⟨hread, source, hconnect, hassemble⟩ := prepare_eq_ok_iff.mp h
  obtain ⟨verifier, checker, hload, rfl, hwired, hgate⟩ :=
    Service.buildGate_eq_ok_iff.mp (Service.assemble_eq_ok_iff.mp hassemble).1
  obtain ⟨key, hkey, rfl⟩ := Verifier.load_eq_ok_iff.mp hload
  have hfollows := Service.connect_eq_ok_some_iff.mp hconnect
  have hissuer : ∀ issuer, service.issuer = some issuer → issuer.algorithm = settings.algorithm ∧
      issuer.lifetime = settings.lifetime ∧ 0 < issuer.lifetime := by
    intro issuer hsome
    obtain ⟨halgorithm, hlifetime⟩ := Service.issuer_of_assemble hassemble hsome
    exact ⟨halgorithm, hlifetime, hlifetime ▸ hread.lifetime_pos⟩
  have hparts : service.gate.screen = ⟨⟨settings.algorithm, key, settings.leeway, Role.resolve⟩,
      checker⟩ := by rw [hgate]
  exact {
    read := hread
    backend := .of_follows hread.revocation hfollows
    source := by
      rw [hparts]
      exact hfollows
    wired := by
      rw [hparts]
      rintro rfl
      cases hwired
    asymmetric := hread.algorithm_mem
    verifies := by rw [hparts]
    key := ⟨settings.publicKey, hread.publicKey, by rw [hparts]; exact hkey⟩
    issues := by
      rw [Service.isSome_issuer_of_assemble hassemble, hread.privateKey, Option.isSome_iff_exists]
      simp only [Settings.value?_eq_some_iff]
    issuer := hissuer
    leeway := by rw [hparts]
    headerName := by rw [hgate]
    scheme := by rw [hgate]
    optionalRoutes := by rw [hgate] }

/-! ### Startups without a backend -/

/-- A startup **without a backend** does not get to the end, whatever the other variables hold. -/
theorem prepare_of_leftOut (h : Settings.LeftOut env .backend) (reachable : String → Bool)
    (settings : Settings) (service : Service) :
    prepare env reachable ≠ .ok (settings, service) := by
  intro hprepare
  obtain ⟨text, ⟨hheld, htext⟩, -⟩ := (IsSound.of_prepare hprepare).backend
  rw [h text hheld] at htext
  cases htext

/-! ### A startup -/

/-- The variables of a service with the sample keys and a list of revocations with nothing on it. -/
def sampleVariables (lifetime scheme : String) : Environment := fun name =>
  if name = "AUTH_PUBLIC_KEY" then some samplePublicText
  else if name = "AUTH_PRIVATE_KEY" then some samplePrivateText
  else if name = "AUTH_TOKEN_ALGORITHM" then some "RS256"
  else if name = "AUTH_TOKEN_LIFETIME_SECONDS" then some lifetime
  else if name = "AUTH_SCHEME" then some scheme
  else if name = "REVOCATION_BACKEND" then some " Static "
  else none

/-- The settings with the sample keys, a lifetime, a scheme and a list of revocations. -/
def sampleSettingsWith (lifetime : Nat) (scheme : String) : Settings :=
  { sampleSettings with lifetime, scheme, revocation := .fixed [] }

/-- The service of those settings. -/
def sampleServiceWith (lifetime : Nat) (scheme : String) : Service :=
  ⟨{ sampleGate (.fixed []) with scheme }, some { sampleIssuer with lifetime }⟩

/-- The sample variables hold the sample keys. -/
theorem holds_sampleKeys (lifetime scheme : String) :
    Settings.Holds (sampleVariables lifetime scheme) .publicKey samplePublicText ∧
      Settings.Holds (sampleVariables lifetime scheme) .privateKey samplePrivateText := by
  have hpublic : Text.isBlankText samplePublicChars = false := by decide +kernel
  have hprivate : Text.isBlankText samplePrivateChars = false := by decide +kernel
  refine ⟨⟨?_, ?_⟩, ?_, ?_⟩
  · simp [sampleVariables, Variable.name]
  · rw [samplePublicText, String.toList_ofList, hpublic]
  · simp [sampleVariables, Variable.name]
  · rw [samplePrivateText, String.toList_ofList, hprivate]

/-- The sample settings are read from the sample variables. -/
theorem isReadFrom_sampleVariables {text scheme : String} {lifetime : Nat}
    (htext : Text.isBlankText text.toList = false)
    (hlifetime : (Text.readUnsigned 64 (Text.trim text.toList)).filter (0 < ·) = some lifetime)
    (hscheme : Text.isBlankText scheme.toList = false)
    (hword : Settings.word? (Text.trim scheme.toList) = some scheme) :
    (sampleSettingsWith lifetime scheme).IsReadFrom (sampleVariables text scheme) := by
  have halgorithm : Settings.algorithm? (Text.trim "RS256".toList) = some .rs256 := by
    decide +kernel
  have hroutes : RoutePattern.parseList Settings.defaultOptionalRoutes =
      .ok sampleSettings.optionalRoutes := by rfl
  exact {
    port := .default fun text h => by cases h
    production := rfl
    publicKey := (holds_sampleKeys text scheme).1
    privateKey := (Settings.value?_eq_some_iff.mpr (holds_sampleKeys text scheme).2).symm
    algorithm := .text ⟨rfl, rfl⟩ halgorithm
    lifetime := .text ⟨rfl, htext⟩ hlifetime
    leeway := .default fun text h => by cases h
    headerName := .default fun text h => by cases h
    scheme := .text ⟨rfl, hscheme⟩ hword
    optionalRoutes := hroutes
    revocation := .fixed ⟨rfl, rfl⟩ ⟨[' '], "Static".toList, [' '], rfl, rfl, rfl, rfl⟩ rfl }

/-- With the sample variables a startup **gets to the end**, and has the sample service. -/
theorem prepare_sampleVariables {text scheme : String} {lifetime : Nat}
    (htext : Text.isBlankText text.toList = false)
    (hlifetime : (Text.readUnsigned 64 (Text.trim text.toList)).filter (0 < ·) = some lifetime)
    (hscheme : Text.isBlankText scheme.toList = false)
    (hword : Settings.word? (Text.trim scheme.toList) = some scheme)
    (reachable : String → Bool) :
    prepare (sampleVariables text scheme) reachable =
      .ok (sampleSettingsWith lifetime scheme, sampleServiceWith lifetime scheme) := by
  have hload : Issuer.load .rs256 samplePrivateText lifetime =
      .ok { sampleIssuer with lifetime } := by
    rw [Issuer.load, load_samplePrivateText]
    rfl
  have hgate : Service.buildGate (sampleSettingsWith lifetime scheme) (some (.fixed [])) =
      .ok { sampleGate (.fixed []) with scheme } :=
    Service.buildGate_eq_ok_iff.mpr ⟨_, _, load_sampleVerifier, rfl, rfl, rfl⟩
  have hissuer : Service.buildIssuer (sampleSettingsWith lifetime scheme) =
      .ok (some { sampleIssuer with lifetime }) := by
    simp only [Service.buildIssuer, sampleSettingsWith, sampleSettings, hload]
    rfl
  exact prepare_eq_ok_iff.mpr ⟨isReadFrom_sampleVariables htext hlifetime hscheme hword,
    some (.fixed []), rfl, Service.assemble_eq_ok_iff.mpr ⟨hgate, hissuer⟩⟩

/-! ### Soundness -/

/-- **Startup is sound.** Whatever the variables hold, and whichever servers can be reached: a
startup that gets to the end is sound. If the backend of revocations is absent or blank, no startup
gets to the end; and the source that stands in for a missing one would accept no token, whoever
verifies it, at any time and over any store. -/
theorem startup_is_sound (env : Environment) (reachable : String → Bool) :
    (∀ settings service, prepare env reachable = .ok (settings, service) →
      IsSound env reachable settings service) ∧
    (Settings.LeftOut env .backend → ∃ problem, prepare env reachable = .error problem) ∧
    ∀ verifier now store raw who, Screen.check ⟨verifier, .failClosed⟩ now store raw ≠ .ok who := by
  refine ⟨fun settings service => IsSound.of_prepare, fun hout => ?_,
    Screen.not_accepts_of_failClosed⟩
  cases hprepare : prepare env reachable with
  | error problem => exact ⟨problem, rfl⟩
  | ok pair => exact absurd hprepare (prepare_of_leftOut hout reachable pair.1 pair.2)

/-- With the sample variables the startup is sound; with a blank for the backend, and everything
else as before, it does not get to the end. -/
theorem startup_is_sound_sample :
    IsSound (sampleVariables "3600" "Bearer") (fun _ => false) (sampleSettingsWith 3600 "Bearer")
      (sampleServiceWith 3600 "Bearer") ∧
    ∃ problem, prepare (fun name => if name = "REVOCATION_BACKEND" then some " "
      else sampleVariables "3600" "Bearer" name) (fun _ => true) = .error problem := by
  have hprepare := @prepare_sampleVariables "3600" "Bearer" 3600 (by decide) (by decide +kernel)
    (by decide) (by decide +kernel) fun _ => false
  refine ⟨(startup_is_sound _ _).1 _ _ hprepare, (startup_is_sound _ _).2.1 fun text h => ?_⟩
  cases h
  rfl

end Startup

end BearerGate
