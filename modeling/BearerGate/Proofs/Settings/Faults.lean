import BearerGate.Proofs.Startup
import BearerGate.Proofs.Text.Padding

/-!
# Variables That Matter and Variables at Fault

What is read from an environment depends on fourteen variables, and on some of them only now and
then: the list of revoked numbers is not looked at unless the backend is that list, and the address
and the key space of a server are not looked at unless the backend is a server. A blank text is the
same as none, but for the optional routes, where it is an empty list.

Each variable can be at fault in one way. Of the variables at fault the one that is read first
decides: it is the one that is named, and what the others hold makes no difference any more.

## Main results

* `Settings.read_congr`: environments that say the same with the variables that matter.
* `Settings.read_eq_error_iff`: the problem is that of the first variable at fault.
* `Gate.isClosed_of_noRoutes`: a gate without optional routes lets nobody through without a token.
* `Settings.read_by_variable`: these three, of any environment.
-/

namespace BearerGate

/-! ### Gates without optional routes -/

/-- A gate that is **closed**: a request without credentials is always turned away for the want of
them, and whoever is let through has brought a token that verifies. -/
structure Gate.IsClosed (gate : Gate) : Prop where
  missing : ∀ now store head, LacksCredentials gate.headerName head.headers →
    (gate.pass now store head).verdict = .error .missingCredentials
  bearer : ∀ now store head caller, (gate.pass now store head).verdict = .ok caller →
    ∃ raw who, BringsToken gate.headerName gate.scheme head.headers raw ∧
      gate.screen.verifier.verify now raw = .ok who

/-- A gate **without optional routes** is closed. -/
theorem Gate.isClosed_of_noRoutes {gate : Gate} (h : gate.optionalRoutes = []) :
    gate.IsClosed where
  missing now store head hlacks := by
    rw [pass_of_lacksCredentials hlacks, withoutCredentials, isOptional, h]
    rfl
  bearer now store head caller hverdict := by
    rcases verdict_eq_ok_iff.mp hverdict with ⟨-, ⟨route, hroute, -⟩, -⟩ |
      ⟨raw, who, hbrings, hverify, -, -⟩
    · rw [h] at hroute
      cases hroute
    · exact ⟨raw, who, hbrings, hverify⟩

namespace Settings

variable {env env' : Environment} {v : Variable}

/-! ### Variables that matter -/

/-- The backend of revocations **is a word**: its variable spells it. -/
def IsBackend (env : Environment) (word : String) : Prop :=
  ∃ text, Holds env .backend text ∧ Text.Spells word.toList text.toList

/-- A variable **matters**: the list of revoked numbers where the backend is that list, what
belongs to a server where the backend is a server, and any other variable in any case. -/
def Matters (env : Environment) : Variable → Prop
  | .staticIds => IsBackend env "static"
  | .serverUrl | .keySpace => IsBackend env "valkey"
  | _ => True

/-- Environments **say the same** with a variable: they hold one text in it or none both; or, if it
is not the one of the optional routes, nothing but blanks both. -/
def SaysSame (env env' : Environment) (v : Variable) : Prop :=
  env v.name = env' v.name ∨ v ≠ .optionalRoutes ∧ LeftOut env v ∧ LeftOut env' v

/-- Where environments say the same, the value is the same. -/
theorem SaysSame.value? (h : SaysSame env env' v) : value? env v = value? env' v := by
  rcases h with h | ⟨-, hout, hout'⟩
  · rw [Settings.value?, Settings.value?, h]
  · rw [value?_eq_none_iff.mpr hout, value?_eq_none_iff.mpr hout']

/-- The backend is a word exactly when its value is trimmed to the word, letter case apart. -/
theorem isBackend_iff {text word : String} (hword : Text.IsWord word.toList)
    (htext : Settings.value? env .backend = some text) :
    IsBackend env word ↔ String.ofList ((Text.trim text.toList).map Http.lowerChar) = word := by
  rw [backendName_eq_iff hword]
  constructor
  · rintro ⟨other, hother, hspells⟩
    rw [← value?_eq_some_iff, htext, Option.some.injEq] at hother
    rw [hother]
    exact hspells
  · exact fun hspells => ⟨text, value?_eq_some_iff.mp htext, hspells⟩

/-- No backend is a word where its variable is left out. -/
theorem not_isBackend_of_value? {word : String} (h : Settings.value? env .backend = none) :
    ¬IsBackend env word := by
  rintro ⟨text, htext, -⟩
  rw [← value?_eq_some_iff, h] at htext
  cases htext

/-- The source of revocations depends on the variables that matter. -/
theorem readRevocation_congr (h : ∀ v, Matters env v → SaysSame env env' v) :
    readRevocation env = readRevocation env' := by
  rw [readRevocation, readRevocation, ← (h .backend trivial).value?]
  cases htext : value? env .backend with
  | none => rfl
  | some text =>
      dsimp only
      split
      · next hname =>
        rw [(h .staticIds ((isBackend_iff isWord_static htext).mpr hname)).value?]
      · split
        · next hname =>
          have hserver := (isBackend_iff isWord_valkey htext).mpr hname
          rw [need, need, (h .serverUrl hserver).value?, (h .keySpace hserver).value?]
        · rfl

/-- What is read depends on **the variables that matter**, and a blank text is as good as none. -/
theorem read_congr (h : ∀ v, Matters env v → SaysSame env env' v) : read env = read env' := by
  have hroutes : env Variable.optionalRoutes.name = env' Variable.optionalRoutes.name := by
    rcases h .optionalRoutes trivial with h | ⟨hne, -⟩
    · exact h
    · exact absurd rfl hne
  have hreadOr : ∀ {α : Type} (v : Variable) (default : α) (reader : List Char → Option α),
      Matters env v → readOr env v default reader = readOr env' v default reader := by
    intro α v default reader hv
    rw [readOr, readOr, (h v hv).value?]
  rw [read, read, hreadOr .port _ _ trivial, need, need, (h .publicKey trivial).value?,
    hreadOr .algorithm _ _ trivial, hreadOr .lifetime _ _ trivial, hreadOr .leeway _ _ trivial,
    hreadOr .headerName _ _ trivial, hreadOr .scheme _ _ trivial, readOptionalRoutes,
    readOptionalRoutes, hroutes, readRevocation_congr h, (h .mode trivial).value?,
    (h .privateKey trivial).value?]

/-! ### Variables at fault -/

/-- A variable **is garbled**: it holds a text of which its reader makes nothing. -/
def Garbled {α : Type} (env : Environment) (v : Variable) (reader : List Char → Option α) : Prop :=
  ∃ text, Holds env v text ∧ reader (Text.trim text.toList) = none

/-- A variable **is at fault**: it is garbled, it is a list with an entry that is garbled, or it is
left out and has to be there. What belongs to a backend is at fault only where that is the backend,
and the mode, the private key and the key space never are. -/
def AtFault (env : Environment) : Variable → Prop
  | .port => Garbled env .port (Text.readUnsigned 16)
  | .publicKey => LeftOut env .publicKey
  | .algorithm => Garbled env .algorithm algorithm?
  | .lifetime => Garbled env .lifetime fun cs => (Text.readUnsigned 64 cs).filter (0 < ·)
  | .leeway => Garbled env .leeway (Text.readUnsigned 64)
  | .headerName => Garbled env .headerName Http.headerName?
  | .scheme => Garbled env .scheme word?
  | .optionalRoutes => ∃ text, env Variable.optionalRoutes.name = some text ∧
      ∃ problem, RoutePattern.parseList text = .error problem
  | .backend => (∃ text, Holds env .backend text) ∧ ¬IsBackend env "static" ∧
      ¬IsBackend env "valkey"
  | .staticIds => IsBackend env "static" ∧
      ∃ text, Holds env .staticIds text ∧ ids? (Text.entries text.toList) = none
  | .serverUrl => IsBackend env "valkey" ∧ LeftOut env .serverUrl
  | .mode | .privateKey | .keySpace => False

/-- The problem with a variable at fault: two of them have to be there. -/
def problemWith : Variable → Problem
  | .publicKey => .missing .publicKey
  | .serverUrl => .missing .serverUrl
  | v => .invalid v

/-- The variables that can be at fault, in the order in which they are read. -/
def readingOrder : List Variable :=
  [.port, .publicKey, .algorithm, .lifetime, .leeway, .headerName, .scheme, .optionalRoutes,
    .backend, .staticIds, .serverUrl]

/-- A problem is **the first** with some variables: it is that with one of them, which is at fault,
and none of those before it are. -/
def IsFirstProblem (env : Environment) (vs : List Variable) (p : Problem) : Prop :=
  ∃ before v after, vs = before ++ v :: after ∧ AtFault env v ∧ p = problemWith v ∧
    ∀ u ∈ before, ¬AtFault env u

/-- The first problem is that with the first of the variables at fault. -/
theorem isFirstProblem_iff {vs : List Variable} {p : Problem} :
    IsFirstProblem env vs p ↔ ∃ v, IsFirst (AtFault env) vs v ∧ p = problemWith v := by
  constructor
  · rintro ⟨before, v, after, hvs, hfault, hp, hbefore⟩
    exact ⟨v, ⟨before, after, hvs, hfault, hbefore⟩, hp⟩
  · rintro ⟨v, ⟨before, after, hvs, hfault, hbefore⟩, hp⟩
    exact ⟨before, v, after, hvs, hfault, hp, hbefore⟩

/-- The first problem is that with the first variable, if this is at fault, and otherwise the first
with the others. -/
theorem isFirstProblem_cons_iff {vs : List Variable} {p : Problem} :
    IsFirstProblem env (v :: vs) p ↔
      AtFault env v ∧ p = problemWith v ∨ ¬AtFault env v ∧ IsFirstProblem env vs p := by
  simp only [isFirstProblem_iff, isFirst_cons_iff, or_and_right, exists_or, and_assoc,
    exists_and_left, exists_eq_left]

/-- There is no first problem with no variables. -/
theorem not_isFirstProblem_nil {p : Problem} : ¬IsFirstProblem env [] p := by
  simp [isFirstProblem_iff, not_isFirst_nil]

/-- The part that a variable is read into **fails with a variable** that is at fault, and with no
other problem. -/
def FailsWith {α : Type} (env : Environment) (v : Variable) (x : Except Problem α) : Prop :=
  ∀ p, x = .error p ↔ AtFault env v ∧ p = problemWith v

/-- Reading in a row fails with the **first problem**: that of the first part, or if this is read,
that of what follows. -/
theorem FailsWith.bind {α β : Type} {x : Except Problem α} {f : α → Except Problem β}
    {vs : List Variable} {p : Problem} (hx : FailsWith env v x)
    (hf : ∀ a, x = .ok a → (f a = .error p ↔ IsFirstProblem env vs p)) :
    (x >>= f) = .error p ↔ IsFirstProblem env (v :: vs) p := by
  rw [isFirstProblem_cons_iff]
  cases x with
  | ok a =>
      have hsound : ¬AtFault env v := fun hfault => by cases (hx _).mpr ⟨hfault, rfl⟩
      simp only [hsound, false_and, not_false_eq_true, true_and, false_or]
      exact hf a rfl
  | error q =>
      obtain ⟨hfault, rfl⟩ := (hx q).mp rfl
      simp only [hfault, true_and, not_true_eq_false, false_and, or_false]
      exact ⟨fun h => (Except.error.inj h).symm, fun h => congrArg Except.error h.symm⟩

/-- A part that may be left out fails when its variable is garbled. -/
theorem readOr_eq_error_iff {α : Type} {default : α} {reader : List Char → Option α}
    {p : Problem} :
    readOr env v default reader = .error p ↔ Garbled env v reader ∧ p = .invalid v := by
  rw [readOr]
  simp only [Garbled, ← value?_eq_some_iff]
  cases value? env v with
  | none => simp
  | some text =>
      simp only [Option.some.injEq, exists_eq_left']
      cases reader (Text.trim text.toList) with
      | none => simp [eq_comm]
      | some a => simp

/-- A part that has to be there fails when its variable is left out. -/
theorem need_eq_error_iff {p : Problem} :
    need env v = .error p ↔ LeftOut env v ∧ p = .missing v := by
  rw [need, ← value?_eq_none_iff]
  cases value? env v <;> simp [eq_comm]

/-- The optional routes fail when one of the entries is no pattern. -/
theorem failsWith_readOptionalRoutes :
    FailsWith env .optionalRoutes (readOptionalRoutes env) := by
  obtain ⟨routes, hdefault⟩ : ∃ routes, RoutePattern.parseList defaultOptionalRoutes =
      .ok routes := ⟨_, rfl⟩
  intro p
  change readOptionalRoutes env = .error p ↔ (∃ text, env Variable.optionalRoutes.name = some text ∧
    ∃ problem, RoutePattern.parseList text = .error problem) ∧ p = .invalid .optionalRoutes
  rw [readOptionalRoutes]
  cases env Variable.optionalRoutes.name with
  | none => simp [hdefault]
  | some text =>
      simp only [Option.getD_some, Option.some.injEq, exists_eq_left']
      cases RoutePattern.parseList text <;> simp [eq_comm]

/-- The source of revocations fails with what is wrong with the backend, or with what belongs to
it. -/
theorem readRevocation_eq_error_iff {p : Problem} :
    readRevocation env = .error p ↔
      IsFirstProblem env [.backend, .staticIds, .serverUrl] p := by
  simp only [isFirstProblem_cons_iff, not_isFirstProblem_nil, and_false, or_false, AtFault,
    problemWith, ← value?_eq_some_iff, ← value?_eq_none_iff]
  rw [readRevocation]
  cases htext : value? env .backend with
  | none => simp [not_isBackend_of_value? htext]
  | some text =>
      -- There is one backend at most, so at most one of the variables behind it can be at fault.
      have hstatic := isBackend_iff isWord_static htext
      have hvalkey := isBackend_iff isWord_valkey htext
      dsimp only
      split
      · next hname =>
        have hother : ¬IsBackend env "valkey" := by
          rw [hvalkey, hname]
          decide
        simp only [hstatic.mpr hname, hother]
        cases value? env .staticIds with
        | none => simp [Text.entries_of_commas, ids?]
        | some list => cases hids : ids? (Text.entries list.toList) <;> simp [hids, eq_comm]
      · next hname =>
        have hother : ¬IsBackend env "static" := fun h => hname (hstatic.mp h)
        split
        · next hname =>
          simp only [hother, hvalkey.mpr hname, need]
          cases value? env .serverUrl <;> simp [bind, Except.bind, eq_comm]
        · next hname =>
          have hother' : ¬IsBackend env "valkey" := fun h => hname (hvalkey.mp h)
          simp [hother, hother', eq_comm]

/-- Settings are not read exactly when some variable is at fault, and what is reported is the
problem with **the first of them** in the order in which they are read. -/
theorem read_eq_error_iff {p : Problem} :
    read env = .error p ↔ IsFirstProblem env readingOrder p := by
  refine FailsWith.bind (fun p => readOr_eq_error_iff) fun port _ => ?_
  refine FailsWith.bind (fun p => need_eq_error_iff) fun publicKey _ => ?_
  refine FailsWith.bind (fun p => readOr_eq_error_iff) fun algorithm _ => ?_
  refine FailsWith.bind (fun p => readOr_eq_error_iff) fun lifetime _ => ?_
  refine FailsWith.bind (fun p => readOr_eq_error_iff) fun leeway _ => ?_
  refine FailsWith.bind (fun p => readOr_eq_error_iff) fun headerName _ => ?_
  refine FailsWith.bind (fun p => readOr_eq_error_iff) fun scheme _ => ?_
  refine FailsWith.bind failsWith_readOptionalRoutes fun routes _ => ?_
  rw [← readRevocation_eq_error_iff]
  cases readRevocation env <;> simp [bind, Except.bind]

/-! ### Reading by variable -/

/-- A list of optional routes that is **blanks and commas** is not at fault, and no route is read
from it. -/
theorem parseList_of_commas {text : String}
    (h : ∀ c ∈ text.toList, c = ',' ∨ Text.isBlank c = true) :
    RoutePattern.parseList text = .ok [] := by
  rw [RoutePattern.parseList, Text.entries_of_commas h]
  rfl

/-- **Settings are read variable by variable**, from any environment.

* Nothing counts but what the variables that matter hold, and a blank text is as good as none but
  for the optional routes.
* If these are blanks and commas, there are none: the variable is not at fault, and the gate of
  settings that are read so lets nobody through who brings no token.
* Reading fails exactly when some variable is at fault, and what is reported is the problem with the
  first of them. -/
theorem read_by_variable (env : Environment) :
    (∀ env', (∀ v, Matters env v → SaysSame env env' v) → read env = read env') ∧
    (∀ text, env Variable.optionalRoutes.name = some text →
      (∀ c ∈ text.toList, c = ',' ∨ Text.isBlank c = true) →
      ¬AtFault env .optionalRoutes ∧
      ∀ settings, read env = .ok settings → settings.optionalRoutes = [] ∧
        ∀ source gate, Service.buildGate settings source = .ok gate → gate.IsClosed) ∧
    ∀ p, read env = .error p ↔ IsFirstProblem env readingOrder p := by
  refine ⟨fun env' => read_congr, fun text htext hcommas => ⟨?_, fun settings hread => ?_⟩,
    fun p => read_eq_error_iff⟩
  · rintro ⟨other, hother, problem, hproblem⟩
    rw [htext, Option.some.injEq] at hother
    rw [← hother, parseList_of_commas hcommas] at hproblem
    cases hproblem
  · have hroutes := (read_eq_ok_iff.mp hread).optionalRoutes
    rw [htext, Option.getD_some, parseList_of_commas hcommas, Except.ok.injEq] at hroutes
    refine ⟨hroutes.symm, fun source gate hgate => Gate.isClosed_of_noRoutes ?_⟩
    obtain ⟨verifier, checker, -, -, -, rfl⟩ := Service.buildGate_eq_ok_iff.mp hgate
    exact hroutes.symm

/-- The environment with another text in a variable. -/
def withText (env : Environment) (v : Variable) (text : String) : Environment := fun name =>
  if name = v.name then some text else env name

/-- Another text in a variable makes no difference to any other name. -/
theorem withText_of_ne {name text : String} (h : name ≠ v.name) :
    withText env v text name = env name :=
  if_neg h

/-- The other variables hold what they held. -/
theorem Holds.withText {w : Variable} {held : String} (h : Holds env w held)
    (hne : w.name ≠ v.name) (text : String) : Holds (Settings.withText env v text) w held :=
  ⟨(withText_of_ne hne).trans h.1, h.2⟩

/-- With blanks and a comma for the optional routes the sample variables are read as before, without
a route. -/
theorem isReadFrom_sampleVariables_noRoutes :
    { Startup.sampleSettingsWith 3600 "Bearer" with optionalRoutes := [] }.IsReadFrom
      (withText (Startup.sampleVariables "3600" "Bearer") .optionalRoutes " , ") := by
  have halgorithm : algorithm? (Text.trim "RS256".toList) = some .rs256 := by decide +kernel
  have hlifetime : (Text.readUnsigned 64 (Text.trim "3600".toList)).filter (0 < ·) = some 3600 := by
    decide +kernel
  have hscheme : word? (Text.trim "Bearer".toList) = some "Bearer" := by decide +kernel
  obtain ⟨hpublic, hprivate⟩ := Startup.holds_sampleKeys "3600" "Bearer"
  exact {
    port := .default fun text h => by cases h
    production := rfl
    publicKey := hpublic.withText (by decide) " , "
    privateKey := (value?_eq_some_iff.mpr (hprivate.withText (by decide) " , ")).symm
    algorithm := .text ⟨rfl, rfl⟩ halgorithm
    lifetime := .text ⟨rfl, rfl⟩ hlifetime
    leeway := .default fun text h => by cases h
    headerName := .default fun text h => by cases h
    scheme := .text ⟨rfl, rfl⟩ hscheme
    optionalRoutes := rfl
    revocation := .fixed ⟨rfl, rfl⟩ ⟨[' '], "Static".toList, [' '], rfl, rfl, rfl, rfl⟩ rfl }

/-- A blank port and the address of a server make no difference to the sample variables; with blanks
and a comma for the optional routes the gate is closed; and where the public key is missing and the
scheme is two words, it is the key that is named. -/
theorem read_by_variable_sample :
    read (Startup.sampleVariables "3600" "Bearer") =
      read (withText (withText (Startup.sampleVariables "3600" "Bearer") .port "\t")
        .serverUrl "redis://localhost") ∧
    (∃ settings gate,
      read (withText (Startup.sampleVariables "3600" "Bearer") .optionalRoutes " , ") =
        .ok settings ∧
      Service.buildGate settings (some (.fixed [])) = .ok gate ∧ gate.IsClosed) ∧
    read (withText (fun _ => none) .scheme "Two Words") = .error (.missing .publicKey) := by
  have hstatic : Holds (Startup.sampleVariables "3600" "Bearer") .backend " Static " :=
    ⟨rfl, by decide⟩
  have hbackend : ¬IsBackend (Startup.sampleVariables "3600" "Bearer") "valkey" := by
    rw [isBackend_iff isWord_valkey (value?_eq_some_iff.mpr hstatic)]
    decide
  refine ⟨(read_by_variable _).1 _ fun v hv => ?_, ?_, ?_⟩
  · cases v with
    | serverUrl => exact absurd hv hbackend
    | port =>
        refine Or.inr ⟨by decide, fun text htext => ?_, fun text htext => ?_⟩
        · cases htext
        · cases htext
          decide
    | mode | publicKey | privateKey | algorithm | lifetime | leeway | headerName | scheme
    | optionalRoutes | backend | staticIds | keySpace =>
        exact Or.inl ((if_neg (by decide)).trans (if_neg (by decide))).symm
  · have hroutes : (withText (Startup.sampleVariables "3600" "Bearer") .optionalRoutes " , ")
        Variable.optionalRoutes.name = some " , " := rfl
    have hread := read_eq_ok_iff.mpr isReadFrom_sampleVariables_noRoutes
    have hgate : Service.buildGate
        { Startup.sampleSettingsWith 3600 "Bearer" with optionalRoutes := [] }
        (some (.fixed [])) = .ok { sampleGate (.fixed []) with optionalRoutes := [] } :=
      Service.buildGate_eq_ok_iff.mpr ⟨_, _, load_sampleVerifier, rfl, rfl, rfl⟩
    have hcommas : (" , ".toList.all fun c => c = ',' ∨ Text.isBlank c = true) = true := by decide
    obtain ⟨-, hclosed⟩ := (read_by_variable _).2.1 _ hroutes fun c hc =>
      of_decide_eq_true (List.all_eq_true.mp hcommas c hc)
    exact ⟨_, _, hread, hgate, (hclosed _ hread).2 _ _ hgate⟩
  · refine ((read_by_variable _).2.2 _).mpr
      ⟨[.port], .publicKey, _, rfl, fun text htext => ?_, rfl, fun v hv => ?_⟩
    · cases htext
    · rw [List.mem_singleton.mp hv]
      rintro ⟨text, ⟨htext, -⟩, -⟩
      cases htext

end Settings

end BearerGate
