import BearerGate.Proofs.Settings.Faults

/-!
# Padded Variables

Blanks around the values of variables do not count: numbers, names and lists are read as if they
were not there, and if the values cannot be read, the same variable is at fault. This holds of ten
variables, for any choice of blanks around their values and around the entries of the two lists,
but for one of them: the mode is taken as it stands, so that no padded mode is that of production.

## Main results

* `Settings.read_of_padded`: what is read from padded variables, but for the mode.
* `Settings.padding_changes_mode_only`: this, and what becomes of the mode.
* `Settings.not_every_padding_harmless`: a padded mode does select another one.
-/

namespace BearerGate

namespace Settings

variable {env env' : Environment} {v : Variable}

/-! ### Padding -/

/-- A text **pads another one in a variable**: keys, addresses and the key space stand as they are;
in a list each entry may be padded; and any other text may be padded as a whole. -/
def PadsIn (v : Variable) (text padded : String) : Prop :=
  match v with
  | .publicKey | .privateKey | .serverUrl | .keySpace => padded = text
  | .optionalRoutes | .staticIds => Text.PadsEntries text.toList padded.toList
  | .port | .mode | .algorithm | .lifetime | .leeway | .headerName | .scheme | .backend =>
    Text.Pads text.toList padded.toList

/-- An environment **pads another one**: it has the same variables, and pads the text in each. -/
def Padded (env env' : Environment) : Prop :=
  ∀ v : Variable, Option.Rel (PadsIn v) (env v.name) (env' v.name)

/-- The variables that may be padded. -/
def paddable : List Variable :=
  [.port, .mode, .algorithm, .lifetime, .leeway, .headerName, .scheme, .optionalRoutes, .backend,
    .staticIds]

/-- A text in one of these may be **padded as a whole**, also in a list. -/
theorem PadsIn.of_pads {text padded : String} (hv : v ∈ paddable)
    (h : Text.Pads text.toList padded.toList) : PadsIn v text padded := by
  cases v with
  | publicKey | privateKey | serverUrl | keySpace => exact absurd hv (by decide)
  | optionalRoutes | staticIds => exact h.padsEntries
  | port | mode | algorithm | lifetime | leeway | headerName | scheme | backend => exact h

/-- Every text pads itself, with nothing. -/
theorem PadsIn.refl (v : Variable) (text : String) : PadsIn v text text := by
  cases v with
  | publicKey | privateKey | serverUrl | keySpace => rfl
  | optionalRoutes | staticIds => exact (Text.Pads.refl text.toList).padsEntries
  | port | mode | algorithm | lifetime | leeway | headerName | scheme | backend =>
      exact Text.Pads.refl text.toList

/-- What is the same in two environments is padded with nothing. -/
theorem rel_of_eq (h : env' v.name = env v.name) :
    Option.Rel (PadsIn v) (env v.name) (env' v.name) := by
  rw [h]
  cases env v.name with
  | none => exact .none
  | some text => exact .some (PadsIn.refl v text)

/-- Every environment pads itself, with nothing. -/
theorem Padded.refl (env : Environment) : Padded env env := fun _ => rel_of_eq rfl

/-! ### Readers -/

/-- What a reader makes of a variable depends on its trimmed value only. -/
theorem readOr_eq_map {α : Type} (env : Environment) (v : Variable) (default : α)
    (reader : List Char → Option α) :
    readOr env v default reader =
      match (value? env v).map fun text => Text.trim text.toList with
      | none => .ok default
      | some cs => match reader cs with
        | some a => .ok a
        | none => .error (.invalid v) := by
  rw [readOr]
  cases value? env v <;> rfl

/-- Padding a text does not change its **trimmed value**. -/
theorem map_trim_value? (h : Option.Rel (fun text padded : String =>
      Text.Pads text.toList padded.toList) (env v.name) (env' v.name)) :
    ((value? env' v).map fun text => Text.trim text.toList) =
      (value? env v).map fun text => Text.trim text.toList := by
  rw [value?, value?]
  revert h
  generalize env v.name = text
  generalize env' v.name = padded
  intro h
  cases h with
  | none => rfl
  | some hpads =>
      rw [Option.filter_some, Option.filter_some, hpads.isBlankText_eq]
      split
      · rw [Option.map_some, Option.map_some, hpads.trim_eq]
      · rfl

/-- Padding a text does not change what a reader makes of it. -/
theorem readOr_of_pads {α : Type} (h : Option.Rel (fun text padded : String =>
      Text.Pads text.toList padded.toList) (env v.name) (env' v.name)) (default : α)
    (reader : List Char → Option α) :
    readOr env' v default reader = readOr env v default reader := by
  rw [readOr_eq_map, readOr_eq_map, map_trim_value? h]

/-- What is not padded is the same value. -/
theorem value?_of_eq (h : Option.Rel (fun text padded : String => padded = text) (env v.name)
    (env' v.name)) : value? env' v = value? env v := by
  rw [value?, value?]
  revert h
  generalize env v.name = text
  generalize env' v.name = padded
  intro h
  cases h with
  | none => rfl
  | some heq => rw [heq]

/-- The entries of a list are those of its text, blank or not. -/
theorem entries_value? (env : Environment) (v : Variable) :
    Text.entries ((value? env v).getD "").toList = Text.entries ((env v.name).getD "").toList := by
  rw [value?]
  cases env v.name with
  | none => rfl
  | some text =>
      rw [Option.filter_some]
      split
      · rfl
      · next hblank =>
        rw [Bool.not_eq_true, Bool.not_eq_false', Text.isBlankText, List.all_eq_true] at hblank
        rw [Option.getD_some, Text.entries_of_commas fun c hc => Or.inr (hblank c hc)]
        rfl

/-- Padding the entries of a list does not change them. -/
theorem entries_getD (h : Option.Rel (fun text padded : String =>
      Text.PadsEntries text.toList padded.toList) (env v.name) (env' v.name)) (default : String) :
    Text.entries ((env' v.name).getD default).toList =
      Text.entries ((env v.name).getD default).toList := by
  revert h
  generalize env v.name = text
  generalize env' v.name = padded
  intro h
  cases h with
  | none => rfl
  | some hpads => exact hpads.entries_eq

/-- The source of revocations depends on the trimmed backend, on the entries of the list, and on the
values that belong to a server. -/
theorem readRevocation_of_padded (h : Padded env env') :
    readRevocation env' = readRevocation env := by
  have hbackend : ((value? env' .backend).map fun text => Text.trim text.toList) =
      (value? env .backend).map fun text => Text.trim text.toList := map_trim_value? (h .backend)
  have hids : Text.entries ((value? env' .staticIds).getD "").toList =
      Text.entries ((value? env .staticIds).getD "").toList := by
    rw [entries_value?, entries_value?, entries_getD (h .staticIds)]
  rw [readRevocation, readRevocation, hids, need, need, value?_of_eq (h .serverUrl),
    value?_of_eq (h .keySpace)]
  cases htext : value? env .backend with
  | none =>
      rw [htext, Option.map_none, Option.map_eq_none_iff] at hbackend
      rw [hbackend]
  | some text =>
      rw [htext, Option.map_some, Option.map_eq_some_iff] at hbackend
      obtain ⟨padded, hpadded, htrim⟩ := hbackend
      rw [hpadded]
      dsimp only
      rw [htrim]

/-! ### Settings -/

/-- From padded variables **the same is read**, or the same problem reported, but for the mode,
which is that of the text as it stands. -/
theorem read_of_padded (h : Padded env env') :
    read env' = (read env).map fun settings =>
      { settings with production := isProduction (value? env' .mode) } := by
  have hroutes : readOptionalRoutes env' = readOptionalRoutes env := by
    rw [readOptionalRoutes, readOptionalRoutes, RoutePattern.parseList, RoutePattern.parseList,
      entries_getD (h .optionalRoutes)]
  have hpublic : need env' .publicKey = need env .publicKey := by
    rw [need, need, value?_of_eq (h .publicKey)]
  have hmap : ∀ (f : Settings → Settings) (x : Except Problem Settings), x.map f = f <$> x :=
    fun _ _ => rfl
  rw [hmap, read, read, readOr_of_pads (h .port), hpublic, readOr_of_pads (h .algorithm),
    readOr_of_pads (h .lifetime), readOr_of_pads (h .leeway), readOr_of_pads (h .headerName),
    readOr_of_pads (h .scheme), hroutes, readRevocation_of_padded h, value?_of_eq (h .privateKey)]
  -- The readers are the same on both sides now, and only the settings at the end differ.
  simp only [map_bind]
  rfl

/-! ### The mode -/

/-- No mode of production has a blank in it. -/
theorem isBlank_of_isProduction {text : String} (h : isProduction (some text) = true) {c : Char}
    (hc : c ∈ text.toList) : Text.isBlank c = false := by
  have hwords : ∀ word ∈ ["production", "prod"],
      String.ofList (text.toList.map Http.lowerChar) = word → Text.isBlank c = false := by
    rintro word hword rfl
    have hlower : ∀ d ∈ text.toList.map Http.lowerChar, Text.isBlank d = false := by
      have hletters : (["production", "prod"].all fun word => word.toList.all fun d =>
          !Text.isBlank d) = true := by decide
      intro d hd
      have hletter := List.all_eq_true.mp (List.all_eq_true.mp hletters _ hword) d
      rw [String.toList_ofList, Bool.not_eq_true'] at hletter
      exact hletter hd
    rw [← Text.isBlank_lowerChar]
    exact hlower _ (List.mem_map_of_mem hc)
  simp only [isProduction, Bool.or_eq_true, decide_eq_true_eq] at h
  rcases h with h | h
  · exact hwords _ (by simp) h
  · exact hwords _ (by simp) h

/-- A mode with blanks around it is **not that of production**, whatever it spells. -/
theorem isProduction_of_trim_ne {text : String} (h : Text.trim text.toList ≠ text.toList) :
    isProduction (some text) = false := by
  cases hproduction : isProduction (some text) with
  | false => rfl
  | true =>
      exact absurd (Text.trim_of_forall fun c hc => isBlank_of_isProduction hproduction hc) h

/-- **Padding changes nothing but the mode.** Whatever blanks are put around the values of variables
and around the entries of lists: the same problem is reported, or the same settings are read but for
the mode. Unless the mode is padded too, that is the same as well; and if the mode is padded, it is
not that of production, whichever it was. -/
theorem padding_changes_mode_only (h : Padded env env') :
    (read env' = (read env).map fun settings =>
      { settings with production := isProduction (value? env' .mode) }) ∧
    (env' Variable.mode.name = env Variable.mode.name → read env' = read env) ∧
    ∀ text, env' Variable.mode.name = some text → Text.trim text.toList ≠ text.toList →
      ∀ settings, read env' = .ok settings → settings.production = false := by
  refine ⟨read_of_padded h, fun hmode => ?_, fun text htext hpadded settings hread => ?_⟩
  · have hself := read_of_padded (Padded.refl env)
    rw [read_of_padded h, value?, hmode, ← value?, ← hself]
  · rw [(read_eq_ok_iff.mp hread).production]
    cases hvalue : value? env' .mode with
    | none => rfl
    | some value =>
        obtain ⟨hvalue, -⟩ := value?_eq_some_iff.mp hvalue
        rw [htext, Option.some.injEq] at hvalue
        rw [← hvalue]
        exact isProduction_of_trim_ne hpadded

/-- A few variables: a key, a mode and a list of routes. -/
def fewVariables (mode routes : String) : Environment :=
  withText (withText (withText (fun _ => none) .publicKey "key") .mode mode) .optionalRoutes routes

/-- A few variables are padded where the mode and the routes are. -/
theorem padded_fewVariables {mode mode' routes routes' : String}
    (hmode : PadsIn .mode mode mode') (hroutes : PadsIn .optionalRoutes routes routes') :
    Padded (fewVariables mode routes) (fewVariables mode' routes') := by
  intro v
  cases v with
  | mode => exact .some hmode
  | optionalRoutes => exact .some hroutes
  | port | publicKey | privateKey | algorithm | lifetime | leeway | headerName | scheme | backend
  | staticIds | serverUrl | keySpace => exact rel_of_eq rfl

/-- A blank in front of the mode pads it. -/
theorem padsIn_mode (mode : String) : PadsIn .mode mode (" " ++ mode) := by
  refine PadsIn.of_pads (by decide) ⟨[' '], [], ?_, rfl, rfl⟩
  rw [String.toList_append, List.append_nil]
  rfl

/-- Blanks around two routes change nothing; blanks in front of the mode take it out of
production. -/
theorem padding_changes_mode_only_two_routes :
    read (fewVariables "Production" " GET /health ,\tPOST /auth/tokens") =
      read (fewVariables "Production" "GET /health,POST /auth/tokens") ∧
    ∃ settings, read (fewVariables " Production" "GET /health") = .ok settings ∧
      settings.production = false := by
  have hroutes : PadsIn .optionalRoutes "GET /health,POST /auth/tokens"
      " GET /health ,\tPOST /auth/tokens" := by
    have hplain : Text.splitAt ',' "GET /health,POST /auth/tokens".toList =
        ["GET /health".toList, "POST /auth/tokens".toList] := by decide
    have hpadded : Text.splitAt ',' " GET /health ,\tPOST /auth/tokens".toList =
        [" GET /health ".toList, "\tPOST /auth/tokens".toList] := by decide
    rw [PadsIn, Text.PadsEntries, hplain, hpadded]
    exact .cons ⟨[' '], [' '], rfl, rfl, rfl⟩ (.cons ⟨['\t'], [], rfl, rfl, rfl⟩ .nil)
  have hread : ∃ settings, read (fewVariables " Production" "GET /health") = .ok settings :=
    ⟨_, rfl⟩
  obtain ⟨settings, hsettings⟩ := hread
  have hsame := padded_fewVariables (PadsIn.refl .mode "Production") hroutes
  have hpadded := padded_fewVariables (padsIn_mode "Production")
    (PadsIn.refl .optionalRoutes "GET /health")
  exact ⟨(padding_changes_mode_only hsame).2.1 rfl, settings, hsettings,
    (padding_changes_mode_only hpadded).2.2 " Production" rfl (by decide) settings hsettings⟩

/-- **Not every padding is harmless.** A blank in front of the mode selects another one. -/
theorem not_every_padding_harmless :
    Padded (fewVariables "production" "GET /health") (fewVariables " production" "GET /health") ∧
    (∃ settings, read (fewVariables "production" "GET /health") = .ok settings ∧
      settings.production = true) ∧
    ∃ settings, read (fewVariables " production" "GET /health") = .ok settings ∧
      settings.production = false :=
  ⟨padded_fewVariables (padsIn_mode "production") (PadsIn.refl .optionalRoutes "GET /health"),
    ⟨_, rfl, rfl⟩, _, rfl, rfl⟩

end Settings

end BearerGate
