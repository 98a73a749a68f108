import BearerGate.Proofs.Outcome
import BearerGate.Proofs.Text.Ascii
import BearerGate.Proofs.Text.Padding
import BearerGate.Proofs.Text.Words
import BearerGate.Settings

/-!
# What Settings Are Read From

Settings are read from variables one by one, and each of them can make the reading fail. The lemmas
of this module say of each variable what it has to hold for its part of the settings, and put
together they say what all of the variables have to hold. Whatever is proved of settings that were
read starts from there.

## Main results

* `Settings.readOr_eq_ok_iff`, `Settings.need_eq_ok_iff`: a variable that may be left out, and one
  that may not.
* `Settings.readRevocation_eq_ok_iff`: the variables that name a source of revocations.
* `Settings.read_eq_ok_iff`: all variables, and the settings that are read from them.
* `Settings.IsReadFrom.algorithm_mem`, `Settings.IsReadFrom.lifetime_pos`: what settings have
  whatever they are read from.
-/

namespace BearerGate

/-! ### Padded words -/

namespace Text

/-- A text that **spells a word** with blanks around it, where letter case does not count. -/
def Spells (word cs : List Char) : Prop :=
  ∃ lead body tail, cs = lead ++ body ++ tail ∧ isBlankText lead = true ∧
    isBlankText tail = true ∧ body.map Http.lowerChar = word

/-- Whether a character is blank does not depend on its letter case. -/
theorem isBlank_lowerChar (c : Char) : isBlank (Http.lowerChar c) = isBlank c := by
  rw [Http.lowerChar]
  split
  · next h =>
    have hlow : 65 ≤ c.toNat := UInt32.le_iff_toNat_le.mp h.1
    have hhigh : c.toNat ≤ 90 := UInt32.le_iff_toNat_le.mp h.2
    have hlower : (Char.ofNat (c.toNat + 32)).toNat = c.toNat + 32 :=
      Utf8.toNat_charOfNat (by omega)
    have hletter : ∀ n : Nat, 65 ≤ n → n ≤ 122 → ∀ d : Char, d.toNat = n → isBlank d = false := by
      rintro n hn hn' d rfl
      simp only [isBlank, Bool.or_eq_false_iff, Bool.and_eq_false_iff, beq_eq_false_iff_ne,
        decide_eq_false_iff_not]
      omega
    rw [hletter _ (by omega) (by omega) _ hlower, hletter _ hlow (by omega) c rfl]
  · rfl

/-- A text is trimmed to a word, letter case apart, exactly when it spells it. -/
theorem map_trim_eq_iff_spells {word cs : List Char} (hword : IsWord word) :
    (trim cs).map Http.lowerChar = word ↔ Spells word cs := by
  constructor
  · intro h
    obtain ⟨lead, tail, hcs, hlead, htail⟩ := pads_trim cs
    exact ⟨lead, trim cs, tail, hcs, hlead, htail, h⟩
  · rintro ⟨lead, body, tail, rfl, hlead, htail, rfl⟩
    have hbody : ∀ c ∈ body, isBlank c = false := by
      intro c hc
      rw [← isBlank_lowerChar]
      exact hword.2 _ (List.mem_map_of_mem hc)
    have hpads : Pads body (lead ++ body ++ tail) := ⟨lead, tail, rfl, hlead, htail⟩
    rw [hpads.trim_eq, trim_of_forall hbody]

end Text

namespace Settings

variable {env : Environment} {v : Variable}

/-! ### Variables -/

/-- A variable **holds a text** that is not blank. -/
def Holds (env : Environment) (v : Variable) (text : String) : Prop :=
  env v.name = some text ∧ Text.isBlankText text.toList = false

/-- A variable is **left out**: it is absent or blank. -/
def LeftOut (env : Environment) (v : Variable) : Prop :=
  ∀ text, env v.name = some text → Text.isBlankText text.toList = true

/-- The value of a variable is the text that it holds. -/
theorem value?_eq_some_iff {text : String} : value? env v = some text ↔ Holds env v text := by
  rw [value?, Option.filter_eq_some_iff, Holds, Bool.not_eq_true']

/-- A variable has no value exactly when it is left out. -/
theorem value?_eq_none_iff : value? env v = none ↔ LeftOut env v := by
  rw [value?, Option.filter_eq_none_iff, LeftOut]
  simp

/-- A variable that holds a text is not left out. -/
theorem Holds.not_leftOut {text : String} (h : Holds env v text) : ¬LeftOut env v := by
  intro hout
  have hblank := hout text h.1
  rw [h.2] at hblank
  cases hblank

/-- A variable holds one text. -/
theorem Holds.unique {text text' : String} (h : Holds env v text) (h' : Holds env v text') :
    text = text' :=
  Option.some.inj (h.1.symm.trans h'.1)

/-- A part of the settings **comes from a variable**: it is what a reader makes of the trimmed text
in the variable, or a default if that is left out. -/
inductive ComesFrom {α : Type} (env : Environment) (v : Variable) (default : α)
    (read : List Char → Option α) : α → Prop where
  | default : LeftOut env v → ComesFrom env v default read default
  | text {text : String} {a : α} : Holds env v text → read (Text.trim text.toList) = some a →
      ComesFrom env v default read a

/-- A part of the settings **has a property** if the default has it, and so has all that the reader
makes of texts. -/
theorem ComesFrom.imp {α : Type} {default a : α} {read : List Char → Option α}
    (h : ComesFrom env v default read a) (p : α → Prop) (hdefault : p default)
    (hread : ∀ cs b, read cs = some b → p b) : p a := by
  cases h with
  | default => exact hdefault
  | text _ htext => exact hread _ _ htext

/-- A part of the settings that may be left out is read when it **comes from the variable**. -/
theorem readOr_eq_ok_iff {α : Type} {default a : α} {read : List Char → Option α} :
    readOr env v default read = .ok a ↔ ComesFrom env v default read a := by
  constructor
  · intro h
    rw [readOr] at h
    split at h
    · next hnone =>
      cases h
      exact .default (value?_eq_none_iff.mp hnone)
    · next text htext =>
      split at h
      · next hread =>
        cases h
        exact .text (value?_eq_some_iff.mp htext) hread
      · cases h
  · rintro (hout | ⟨htext, hread⟩)
    · rw [readOr, value?_eq_none_iff.mpr hout]
    · rw [readOr, value?_eq_some_iff.mpr htext]
      simp only [hread]

/-- A part of the settings is told by its variable. -/
theorem ComesFrom.unique {env' : Environment} {α : Type} {default a b : α}
    {read : List Char → Option α} (h : ComesFrom env v default read a)
    (h' : ComesFrom env' v default read b) (hsame : env v.name = env' v.name) : a = b := by
  rw [← readOr_eq_ok_iff, readOr, value?, hsame] at h
  rw [← readOr_eq_ok_iff, readOr, value?] at h'
  exact Except.ok.inj (h.symm.trans h')

/-- A part of the settings comes from any variables that hold the same there. -/
theorem ComesFrom.congr {env' : Environment} {α : Type} {default a : α}
    {read : List Char → Option α} (h : ComesFrom env v default read a)
    (hsame : env' v.name = env v.name) : ComesFrom env' v default read a := by
  rw [← readOr_eq_ok_iff, readOr, value?] at h ⊢
  rwa [hsame]

/-- A part of the settings that has to be there is the text that the variable holds. -/
theorem need_eq_ok_iff {text : String} : need env v = .ok text ↔ Holds env v text := by
  rw [← value?_eq_some_iff, need]
  cases value? env v <;> simp

/-! ### Sources of revocations -/

/-- The variables **name a source** of revocations: none, the numbers of a list, or a server. -/
inductive NamesSource (env : Environment) : RevocationSetting → Prop where
  | unset : LeftOut env .backend → NamesSource env .unset
  | fixed {text : String} {ids : List Int64} : Holds env .backend text →
      Text.Spells "static".toList text.toList →
      ids? (Text.entries ((value? env .staticIds).getD "").toList) = some ids →
      NamesSource env (.fixed ids)
  | server {text url : String} : Holds env .backend text →
      Text.Spells "valkey".toList text.toList → Holds env .serverUrl url →
      NamesSource env (.server url ((value? env .keySpace).getD defaultKeySpace))

/-- The name of a backend, as it counts, is a word that the text spells. -/
theorem backendName_eq_iff {text word : String} (hword : Text.IsWord word.toList) :
    String.ofList ((Text.trim text.toList).map Http.lowerChar) = word ↔
      Text.Spells word.toList text.toList := by
  rw [← Text.map_trim_eq_iff_spells hword]
  constructor
  · rintro rfl
    rw [String.toList_ofList]
  · intro h
    rw [h, String.ofList_toList]

/-- The name of the backend that is a list is a word. -/
theorem isWord_static : Text.IsWord "static".toList := ⟨by decide, by simp [Text.isBlank]⟩

/-- The name of the backend that is a server is a word. -/
theorem isWord_valkey : Text.IsWord "valkey".toList := ⟨by decide, by simp [Text.isBlank]⟩

/-- The source of revocations is read when the variables **name it**. -/
theorem readRevocation_eq_ok_iff {r : RevocationSetting} :
    readRevocation env = .ok r ↔ NamesSource env r := by
  constructor
  · intro h
    rw [readRevocation] at h
    split at h
    · next hnone =>
      cases h
      exact .unset (value?_eq_none_iff.mp hnone)
    · next text htext =>
      rw [value?_eq_some_iff] at htext
      dsimp only at h
      split at h
      · next hname =>
        split at h
        · next hids =>
          cases h
          exact .fixed htext ((backendName_eq_iff isWord_static).mp hname) hids
        · cases h
      · split at h
        · next hname =>
          obtain ⟨url, hurl, h⟩ := bind_eq_ok_iff.mp h
          cases h
          exact .server htext ((backendName_eq_iff isWord_valkey).mp hname) (need_eq_ok_iff.mp hurl)
        · cases h
  · rintro (hout | ⟨htext, hname, hids⟩ | ⟨htext, hname, hurl⟩)
    · rw [readRevocation, value?_eq_none_iff.mpr hout]
    · rw [← backendName_eq_iff isWord_static] at hname
      rw [readRevocation, value?_eq_some_iff.mpr htext]
      simp only [hname, if_true, hids]
    · rw [← backendName_eq_iff isWord_valkey] at hname
      rw [readRevocation, value?_eq_some_iff.mpr htext]
      have hother : ¬"valkey" = "static" := by decide
      simp only [hname, hother, if_true, if_false, need_eq_ok_iff.mpr hurl]
      rfl

/-! ### Settings -/

/-- Settings that are **read from variables**, each part of them from its own. -/
structure IsReadFrom (env : Environment) (s : Settings) : Prop where
  port : ComesFrom env .port defaultPort (Text.readUnsigned 16) s.port
  production : s.production = isProduction (value? env .mode)
  publicKey : Holds env .publicKey s.publicKey
  privateKey : s.privateKey = value? env .privateKey
  algorithm : ComesFrom env .algorithm defaultAlgorithm algorithm? s.algorithm
  lifetime : ComesFrom env .lifetime defaultLifetime
    (fun cs => (Text.readUnsigned 64 cs).filter (0 < ·)) s.lifetime
  leeway : ComesFrom env .leeway 0 (Text.readUnsigned 64) s.leeway
  headerName : ComesFrom env .headerName defaultHeaderName Http.headerName? s.headerName
  scheme : ComesFrom env .scheme defaultScheme word? s.scheme
  optionalRoutes : RoutePattern.parseList
    ((env Variable.optionalRoutes.name).getD defaultOptionalRoutes) = .ok s.optionalRoutes
  revocation : NamesSource env s.revocation

/-- A variable that a source of revocations is read from. -/
def IsForSource : Variable → Prop
  | .backend | .staticIds | .serverUrl | .keySpace => True
  | _ => False

/-- Settings are read with **another source** of revocations where that is named, and all else is
held as before. -/
theorem IsReadFrom.of_namesSource {env' : Environment} {s : Settings} (h : s.IsReadFrom env)
    {revocation : RevocationSetting} (hsource : NamesSource env' revocation)
    (hsame : ∀ v, ¬IsForSource v → env' v.name = env v.name) :
    { s with revocation }.IsReadFrom env' where
  port := h.port.congr (hsame _ id)
  production := by
    rw [value?, hsame _ id]
    exact h.production
  publicKey := ⟨(hsame _ id).trans h.publicKey.1, h.publicKey.2⟩
  privateKey := by
    rw [value?, hsame _ id]
    exact h.privateKey
  algorithm := h.algorithm.congr (hsame _ id)
  lifetime := h.lifetime.congr (hsame _ id)
  leeway := h.leeway.congr (hsame _ id)
  headerName := h.headerName.congr (hsame _ id)
  scheme := h.scheme.congr (hsame _ id)
  optionalRoutes := by
    rw [hsame _ id]
    exact h.optionalRoutes
  revocation := hsource

/-- The optional routes are those of the list. -/
theorem readOptionalRoutes_eq_ok_iff {routes : List RoutePattern} :
    readOptionalRoutes env = .ok routes ↔ RoutePattern.parseList
      ((env Variable.optionalRoutes.name).getD defaultOptionalRoutes) = .ok routes := by
  rw [readOptionalRoutes]
  cases RoutePattern.parseList ((env Variable.optionalRoutes.name).getD defaultOptionalRoutes) <;>
    simp

/-- Settings are **read from the variables** when each part of them is. -/
theorem read_eq_ok_iff {s : Settings} : read env = .ok s ↔ IsReadFrom env s := by
  constructor
  · intro h
    obtain ⟨port, hport, h⟩ := bind_eq_ok_iff.mp h
    obtain ⟨publicKey, hpublic, h⟩ := bind_eq_ok_iff.mp h
    obtain ⟨algorithm, halgorithm, h⟩ := bind_eq_ok_iff.mp h
    obtain ⟨lifetime, hlifetime, h⟩ := bind_eq_ok_iff.mp h
    obtain ⟨leeway, hleeway, h⟩ := bind_eq_ok_iff.mp h
    obtain ⟨headerName, hheader, h⟩ := bind_eq_ok_iff.mp h
    obtain ⟨scheme, hscheme, h⟩ := bind_eq_ok_iff.mp h
    obtain ⟨routes, hroutes, h⟩ := bind_eq_ok_iff.mp h
    obtain ⟨revocation, hrevocation, h⟩ := bind_eq_ok_iff.mp h
    cases h
    exact ⟨readOr_eq_ok_iff.mp hport, rfl, need_eq_ok_iff.mp hpublic, rfl,
      readOr_eq_ok_iff.mp halgorithm, readOr_eq_ok_iff.mp hlifetime, readOr_eq_ok_iff.mp hleeway,
      readOr_eq_ok_iff.mp hheader, readOr_eq_ok_iff.mp hscheme,
      readOptionalRoutes_eq_ok_iff.mp hroutes, readRevocation_eq_ok_iff.mp hrevocation⟩
  · intro h
    refine bind_eq_ok_iff.mpr ⟨_, readOr_eq_ok_iff.mpr h.port, ?_⟩
    refine bind_eq_ok_iff.mpr ⟨_, need_eq_ok_iff.mpr h.publicKey, ?_⟩
    refine bind_eq_ok_iff.mpr ⟨_, readOr_eq_ok_iff.mpr h.algorithm, ?_⟩
    refine bind_eq_ok_iff.mpr ⟨_, readOr_eq_ok_iff.mpr h.lifetime, ?_⟩
    refine bind_eq_ok_iff.mpr ⟨_, readOr_eq_ok_iff.mpr h.leeway, ?_⟩
    refine bind_eq_ok_iff.mpr ⟨_, readOr_eq_ok_iff.mpr h.headerName, ?_⟩
    refine bind_eq_ok_iff.mpr ⟨_, readOr_eq_ok_iff.mpr h.scheme, ?_⟩
    refine bind_eq_ok_iff.mpr ⟨_, readOptionalRoutes_eq_ok_iff.mpr h.optionalRoutes, ?_⟩
    refine bind_eq_ok_iff.mpr ⟨_, readRevocation_eq_ok_iff.mpr h.revocation, ?_⟩
    rw [← h.production, ← h.privateKey]

/-! ### What settings have -/

namespace IsReadFrom

variable {s : Settings}

/-- The algorithm of settings is **one of the nine** that sign with one key and verify with
another. -/
theorem algorithm_mem (h : IsReadFrom env s) :
    s.algorithm ∈ [Algorithm.es256, .es384, .rs256, .rs384, .rs512, .ps256, .ps384, .ps512,
      .edDSA] := by
  have hasymmetric : s.algorithm.isAsymmetric = true :=
    h.algorithm.imp (·.isAsymmetric = true) rfl fun _ _ hread =>
      (Option.filter_eq_some_iff.mp hread).2
  cases halgorithm : s.algorithm with
  | hs256 | hs384 | hs512 =>
      rw [halgorithm] at hasymmetric
      cases hasymmetric
  | es256 | es384 | rs256 | rs384 | rs512 | ps256 | ps384 | ps512 | edDSA => decide

/-- The lifetime of tokens is **no zero**. -/
theorem lifetime_pos (h : IsReadFrom env s) : 0 < s.lifetime :=
  h.lifetime.imp (0 < ·) (by decide) fun _ _ hread =>
    of_decide_eq_true (Option.filter_eq_some_iff.mp hread).2

end IsReadFrom

end Settings

end BearerGate
