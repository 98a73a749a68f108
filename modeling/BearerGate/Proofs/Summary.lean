import BearerGate.Proofs.Settings.Faults
import BearerGate.Proofs.Text.Quoted
import BearerGate.Summary

/-!
# What Summaries Show

Summaries are read by people who look for a fault, and end up in logs. They show no key and no name
of a user: two sets of variables that differ in the keys only give settings with the same summary,
and gates with the same summary.

The address of a server is another matter. It may hold a user and a password, and a summary of
settings quotes it as it is. A quoted text can be read back, so the summary tells the whole address,
and two addresses that differ in the password only give two summaries. What is built from the
settings shows nothing of it any more.

## Main results

* `Summary.settings_eq_iff`: settings that differ in keys and in the source of revocations have the
  same summary exactly when their sources have.
* `Summary.revocation_server_inj`: the summary of a server tells its address.
* `Summary.shows_address_only`: of keys, addresses and users, what summaries show is the address.
* `Summary.not_every_summary_without_password`: so they show a password in it.
-/

namespace BearerGate

namespace Settings

variable {env env' : Environment} {v : Variable}

/-! ### Variables that hold secrets -/

/-- Environments that are the **same but for secrets**: they differ at most in the two keys, the
private one of which both hold or neither, and in the address of the server. -/
structure SameButSecrets (env env' : Environment) : Prop where
  others : ∀ name, name ≠ Variable.publicKey.name → name ≠ Variable.privateKey.name →
    name ≠ Variable.serverUrl.name → env name = env' name
  privateKey : LeftOut env .privateKey ↔ LeftOut env' .privateKey

/-- A variable that holds no secret is the same. -/
theorem SameButSecrets.same (h : SameButSecrets env env')
    (hv : v ∉ [Variable.publicKey, .privateKey, .serverUrl]) : env v.name = env' v.name := by
  cases v with
  | publicKey | privateKey | serverUrl => exact absurd hv (by decide)
  | _ => exact h.others _ (by decide) (by decide) (by decide)

/-- A variable that holds no secret holds the same text. -/
theorem SameButSecrets.holds {text : String} (h : SameButSecrets env env')
    (hv : v ∉ [Variable.publicKey, .privateKey, .serverUrl]) (hheld : Holds env' v text) :
    Holds env v text :=
  ⟨(h.same hv).trans hheld.1, hheld.2⟩

/-- A backend that is the one is not the other. -/
theorem not_isBackend_valkey {text : String} (h : Holds env .backend text)
    (hstatic : Text.Spells "static".toList text.toList) : ¬IsBackend env "valkey" := by
  rintro ⟨other, hother, hvalkey⟩
  obtain rfl := h.unique hother
  rw [← backendName_eq_iff isWord_static] at hstatic
  rw [← backendName_eq_iff isWord_valkey, hstatic] at hvalkey
  exact absurd hvalkey (by decide)

/-- Sources of revocations that are named by the same variables are the same, but for the addresses
if they are servers. -/
theorem NamesSource.eq_or_server {r r' : RevocationSetting} (h : NamesSource env r)
    (h' : NamesSource env' r') (hsame : SameButSecrets env env') :
    ¬IsBackend env "valkey" ∧ r = r' ∨
      IsBackend env "valkey" ∧ ∃ url url' space, r = .server url space ∧ r' = .server url' space ∧
        Holds env .serverUrl url ∧ Holds env' .serverUrl url' := by
  have hbackend : ∀ text, Holds env' .backend text → Holds env .backend text :=
    fun text => hsame.holds (by decide)
  have hids : value? env .staticIds = value? env' .staticIds := by
    rw [value?, value?, hsame.same (by decide)]
  have hspace : value? env .keySpace = value? env' .keySpace := by
    rw [value?, value?, hsame.same (by decide)]
  have hleft : LeftOut env' .backend → LeftOut env .backend := fun hout text htext =>
    hout text ((hsame.same (by decide)).symm.trans htext)
  cases h with
  | unset hout =>
      have hother : ¬IsBackend env "valkey" := by
        rintro ⟨text, hheld, -⟩
        exact hheld.not_leftOut hout
      refine Or.inl ⟨hother, ?_⟩
      cases h' with
      | unset => rfl
      | fixed hheld | server hheld => exact absurd hout (hbackend _ hheld).not_leftOut
  | fixed hheld hstatic hread =>
      refine Or.inl ⟨not_isBackend_valkey hheld hstatic, ?_⟩
      cases h' with
      | unset hout => exact absurd (hleft hout) hheld.not_leftOut
      | fixed _ _ hread' =>
          rw [hids, hread', Option.some.injEq] at hread
          rw [hread]
      | server hheld' hvalkey =>
          exact absurd ⟨_, hbackend _ hheld', hvalkey⟩ (not_isBackend_valkey hheld hstatic)
  | server hheld hvalkey hurl =>
      refine Or.inr ⟨⟨_, hheld, hvalkey⟩, ?_⟩
      cases h' with
      | unset hout => exact absurd (hleft hout) hheld.not_leftOut
      | fixed hheld' hstatic =>
          exact absurd ⟨_, hheld, hvalkey⟩ (not_isBackend_valkey (hbackend _ hheld') hstatic)
      | server _ _ hurl' => exact ⟨_, _, _, rfl, by rw [hspace], hurl, hurl'⟩

end Settings

namespace Summary

/-! ### Records -/

/-- The last of some texts stands at the end of them. -/
theorem exists_intercalate_concat (sep : String) (xs : List String) :
    ∃ lead, ∀ x, sep.intercalate (xs ++ [x]) = lead ++ x := by
  by_cases hxs : xs = []
  · exact ⟨"", fun x => by simp [hxs]⟩
  · refine ⟨sep.intercalate xs ++ sep, fun x => ?_⟩
    rw [String.intercalate_append_of_ne_nil hxs (by simp), String.intercalate_singleton]

/-- Records that differ in the last field at most are the same exactly when that is. -/
theorem record_concat_inj {name field value value' : String} {fields : List (String × String)} :
    record name (fields ++ [(field, value)]) false =
      record name (fields ++ [(field, value')]) false ↔ value = value' := by
  obtain ⟨lead, hlead⟩ := exists_intercalate_concat ", "
    (fields.map fun field => field.1 ++ ": " ++ field.2)
  have hrecord : ∀ value, record name (fields ++ [(field, value)]) false =
      name ++ " \x7b " ++ (lead ++ (field ++ ": " ++ value)) ++ " \x7d" := fun value => by
    simp only [record, List.map_append, List.map_cons, List.map_nil]
    rw [← hlead]
    rfl
  rw [hrecord, hrecord]
  simp

/-- The summary of a server quotes its address, and the rest depends on the key space only. -/
theorem exists_revocation_server (space : String) :
    ∃ lead rest, ∀ url, revocation (.server url space) = lead ++ (quoted url ++ rest) := by
  refine ⟨"Valkey" ++ " \x7b " ++ ("url" ++ ": "),
    ", " ++ ("key_prefix" ++ ": " ++ quoted space) ++ " \x7d", fun url => ?_⟩
  change "Valkey" ++ " \x7b " ++ ("url" ++ ": " ++ quoted url ++ ", " ++
    ("key_prefix" ++ ": " ++ quoted space)) ++ " \x7d" = _
  simp only [String.append_assoc]

/-- The **summary of a server tells its address**. -/
theorem revocation_server_inj {url url' space : String} :
    revocation (.server url space) = revocation (.server url' space) ↔ url = url' := by
  obtain ⟨lead, rest, hrest⟩ := exists_revocation_server space
  constructor
  · intro h
    rw [hrest, hrest, ← String.toList_inj] at h
    simp only [String.toList_append, List.append_cancel_left_eq, quoted, String.toList_ofList] at h
    exact String.toList_inj.mp (Text.quoted_append_inj h).1
  · rintro rfl
    rfl

/-! ### Settings -/

/-- Settings that differ in keys and in the source of revocations have the same summary **exactly
when their sources have**. -/
theorem settings_eq_iff {s s' : Settings} (hport : s.port = s'.port)
    (hproduction : s.production = s'.production)
    (hprivate : s.privateKey.isSome = s'.privateKey.isSome) (halgorithm : s.algorithm = s'.algorithm)
    (hlifetime : s.lifetime = s'.lifetime) (hleeway : s.leeway = s'.leeway)
    (hheader : s.headerName = s'.headerName) (hscheme : s.scheme = s'.scheme)
    (hroutes : s.optionalRoutes = s'.optionalRoutes) :
    settings s = settings s' ↔ revocation s.revocation = revocation s'.revocation := by
  rw [settings, settings, Settings.address, Settings.address, hport, hproduction, hprivate,
    halgorithm, hlifetime, hleeway, hheader, hscheme, hroutes]
  exact @record_concat_inj _ _ _ _ [_, _, _]

/-- **Of keys, addresses and users, what summaries show is the address.** Settings that are read from
variables that are the same but for secrets have the same summary exactly if there is no server or
its address is the same, the user and the password in it included. Gates that are built from them
have the same summary in any case; and the summary of an identity does not depend on the name of the
user, nor that of an issuer on its key. -/
theorem shows_address_only {env env' : Settings.Environment} {s s' : Settings}
    (hread : Settings.read env = .ok s) (hread' : Settings.read env' = .ok s')
    (hsame : Settings.SameButSecrets env env') :
    (settings s = settings s' ↔ (Settings.IsBackend env "valkey" →
      env Variable.serverUrl.name = env' Variable.serverUrl.name)) ∧
    (∀ source source' g g', Service.buildGate s source = .ok g →
      Service.buildGate s' source' = .ok g' → gate g = gate g') ∧
    (∀ who username, identity { who with username } = identity who) ∧
    ∀ i key, issuer { i with key } = issuer i := by
  rw [Settings.read_eq_ok_iff] at hread hread'
  have hheader := hread.headerName.unique hread'.headerName (hsame.same (by decide))
  have hscheme := hread.scheme.unique hread'.scheme (hsame.same (by decide))
  have hroutes : s.optionalRoutes = s'.optionalRoutes := by
    have hparsed := hread.optionalRoutes
    rw [hsame.same (v := .optionalRoutes) (by decide), hread'.optionalRoutes] at hparsed
    exact (Except.ok.inj hparsed).symm
  have hsettings : settings s = settings s' ↔ revocation s.revocation = revocation s'.revocation := by
    refine settings_eq_iff (hread.port.unique hread'.port (hsame.same (by decide))) ?_ ?_
      (hread.algorithm.unique hread'.algorithm (hsame.same (by decide)))
      (hread.lifetime.unique hread'.lifetime (hsame.same (by decide)))
      (hread.leeway.unique hread'.leeway (hsame.same (by decide))) hheader hscheme hroutes
    · rw [hread.production, hread'.production, Settings.value?, Settings.value?,
        hsame.same (by decide)]
    · rw [hread.privateKey, hread'.privateKey, Bool.eq_iff_iff, ← not_iff_not]
      simpa [Settings.value?_eq_none_iff] using hsame.privateKey
  refine ⟨hsettings.trans ?_, fun source source' g g' hg hg' => ?_, fun _ _ => rfl, fun _ _ => rfl⟩
  · rcases hread.revocation.eq_or_server hread'.revocation hsame with ⟨hother, hsources⟩ |
      ⟨hserver, url, url', space, hurl, hurl', hheld, hheld'⟩
    · rw [hsources]
      exact iff_of_true rfl fun hserver => absurd hserver hother
    · rw [hurl, hurl', revocation_server_inj, hheld.1, hheld'.1, Option.some.injEq]
      exact ⟨fun h _ => h, fun h => h hserver⟩
  · obtain ⟨verifier, checker, -, -, -, rfl⟩ := Service.buildGate_eq_ok_iff.mp hg
    obtain ⟨verifier', checker', -, -, -, rfl⟩ := Service.buildGate_eq_ok_iff.mp hg'
    rw [gate, gate]
    simp only [hheader, hscheme, hroutes]

/-- The sample variables with another private key. -/
def otherKeyVariables : Settings.Environment :=
  Settings.withText (Startup.sampleVariables "3600" "Bearer") .privateKey "another key"

/-- They are read as before, with the other key. -/
theorem isReadFrom_otherKeyVariables :
    { Startup.sampleSettingsWith 3600 "Bearer" with privateKey := some "another key" }.IsReadFrom
      otherKeyVariables := by
  have halgorithm : Settings.algorithm? (Text.trim "RS256".toList) = some .rs256 := by
    decide +kernel
  have hlifetime : (Text.readUnsigned 64 (Text.trim "3600".toList)).filter (0 < ·) = some 3600 := by
    decide +kernel
  have hscheme : Settings.word? (Text.trim "Bearer".toList) = some "Bearer" := by decide +kernel
  have hpublic := (Startup.holds_sampleKeys "3600" "Bearer").1
  have hprivate : Settings.Holds otherKeyVariables .privateKey "another key" := ⟨rfl, by decide⟩
  exact {
    port := .default fun text h => by cases h
    production := rfl
    publicKey := hpublic.withText (by decide) "another key"
    privateKey := (Settings.value?_eq_some_iff.mpr hprivate).symm
    algorithm := .text ⟨rfl, rfl⟩ halgorithm
    lifetime := .text ⟨rfl, rfl⟩ hlifetime
    leeway := .default fun text h => by cases h
    headerName := .default fun text h => by cases h
    scheme := .text ⟨rfl, rfl⟩ hscheme
    optionalRoutes := rfl
    revocation := .fixed ⟨rfl, rfl⟩ ⟨[' '], "Static".toList, [' '], rfl, rfl, rfl, rfl⟩ rfl }

/-- The variables of a key and of the address of a server. -/
def serverVariables (url : String) : Settings.Environment := fun name =>
  if name = "AUTH_PUBLIC_KEY" then some "key"
  else if name = "REVOCATION_BACKEND" then some "valkey"
  else if name = "REVOCATION_VALKEY_URL" then some url
  else none

/-- The settings that are read from them. -/
def serverSettings (url : String) : Settings :=
  { sampleSettings with
    publicKey := "key"
    privateKey := none
    algorithm := .rs512
    revocation := .server url Settings.defaultKeySpace }

/-- Settings of two addresses have two summaries. -/
theorem settings_serverSettings_inj {url url' : String} :
    settings (serverSettings url) = settings (serverSettings url') ↔ url = url' := by
  have h := @settings_eq_iff (serverSettings url) (serverSettings url')
    rfl rfl rfl rfl rfl rfl rfl rfl rfl
  rw [h]
  exact revocation_server_inj

/-- Variables of two addresses are the same but for secrets. -/
theorem sameButSecrets_serverVariables (url url' : String) :
    Settings.SameButSecrets (serverVariables url) (serverVariables url') where
  others name _ _ hurl := by
    have hurl : name ≠ "REVOCATION_VALKEY_URL" := hurl
    simp only [serverVariables, hurl, if_false]
  privateKey := iff_of_true (fun _ h => by cases h) fun _ h => by cases h

/-- They are the sample variables but for secrets. -/
theorem sameButSecrets_otherKeyVariables :
    Settings.SameButSecrets (Startup.sampleVariables "3600" "Bearer") otherKeyVariables where
  others name _ hprivate _ := (Settings.withText_of_ne hprivate).symm
  privateKey := by
    have hold := (Startup.holds_sampleKeys "3600" "Bearer").2
    have hnew : Settings.Holds otherKeyVariables .privateKey "another key" := ⟨rfl, by decide⟩
    exact iff_of_false hold.not_leftOut hnew.not_leftOut

/-- With another private key the settings have the same summary, and so have the gates; with another
address of the server the settings have another one. -/
theorem shows_address_only_sample :
    (∃ s s', Settings.read (Startup.sampleVariables "3600" "Bearer") = .ok s ∧
      Settings.read otherKeyVariables = .ok s' ∧ settings s = settings s' ∧
      ∃ g g', Service.buildGate s (some (.fixed [])) = .ok g ∧
        Service.buildGate s' (some (.fixed [7])) = .ok g' ∧ gate g = gate g') ∧
    ∃ s s', Settings.read (serverVariables "redis://h") = .ok s ∧
      Settings.read (serverVariables "redis://i") = .ok s' ∧ settings s ≠ settings s' := by
  constructor
  · have hread := Settings.read_eq_ok_iff.mpr (@Startup.isReadFrom_sampleVariables "3600" "Bearer"
      3600 (by decide) (by decide +kernel) (by decide) (by decide +kernel))
    have hread' := Settings.read_eq_ok_iff.mpr isReadFrom_otherKeyVariables
    have hg : Service.buildGate (Startup.sampleSettingsWith 3600 "Bearer") (some (.fixed [])) =
        .ok (sampleGate (.fixed [])) :=
      Service.buildGate_eq_ok_iff.mpr ⟨_, _, load_sampleVerifier, rfl, rfl, rfl⟩
    have hg' : Service.buildGate { Startup.sampleSettingsWith 3600 "Bearer" with
        privateKey := some "another key" } (some (.fixed [7])) = .ok (sampleGate (.fixed [7])) :=
      Service.buildGate_eq_ok_iff.mpr ⟨_, _, load_sampleVerifier, rfl, rfl, rfl⟩
    have haddress : Startup.sampleVariables "3600" "Bearer" Variable.serverUrl.name =
        otherKeyVariables Variable.serverUrl.name :=
      (Settings.withText_of_ne (by decide)).symm
    obtain ⟨hsettings, hgates, -, -⟩ :=
      shows_address_only hread hread' sameButSecrets_otherKeyVariables
    exact ⟨_, _, hread, hread', hsettings.mpr fun _ => haddress,
      _, _, hg, hg', hgates _ _ _ _ hg hg'⟩
  · have hread : Settings.read (serverVariables "redis://h") = .ok (serverSettings "redis://h") :=
      rfl
    have hread' : Settings.read (serverVariables "redis://i") = .ok (serverSettings "redis://i") :=
      rfl
    have hbackend : Settings.IsBackend (serverVariables "redis://h") "valkey" :=
      ⟨"valkey", ⟨rfl, rfl⟩, [], "valkey".toList, [], rfl, rfl, rfl, rfl⟩
    obtain ⟨hsettings, -⟩ := shows_address_only hread hread' (sameButSecrets_serverVariables _ _)
    exact ⟨_, _, hread, hread', fun h => absurd (hsettings.mp h hbackend) (by decide)⟩

/-- **Not every summary is without a password.** Two environments that differ in the password in the
address of the server only give settings with two summaries. -/
theorem not_every_summary_without_password :
    (∀ name, name ≠ Variable.serverUrl.name →
      serverVariables "redis://svc:secret-a@h" name =
        serverVariables "redis://svc:secret-b@h" name) ∧
    ∃ s s', Settings.read (serverVariables "redis://svc:secret-a@h") = .ok s ∧
      Settings.read (serverVariables "redis://svc:secret-b@h") = .ok s' ∧
      settings s ≠ settings s' := by
  refine ⟨fun name hurl => ?_, serverSettings _, serverSettings _, rfl, rfl, fun h => ?_⟩
  · have hurl : name ≠ "REVOCATION_VALKEY_URL" := hurl
    simp only [serverVariables, hurl, if_false]
  · exact absurd (settings_serverSettings_inj.mp h) (by decide)

end Summary

end BearerGate
