import BearerGate.Proofs.Service.Revocation
import BearerGate.Proofs.Settings.Faults
import BearerGate.Proofs.Startup

/-!
# Services That Share a Store

Several services may ask one store, each under a space of its own, and whoever revokes tokens for
one of them adds keys of its space. A space may hold colons and digits, and still no key is that of
two numbers or of two spaces. So what is done for one service is not seen by the other, and what is
done for one number is not seen by tokens of another.

Both follow from one argument. Some keys are called foreign. Two worlds agree but for them if they
have the same time, the same outage and the same other keys; every step keeps it so, a step on a
foreign key does so on its own, and a service replies the same in both unless it has to ask for a
foreign key.

## Main results

* `Service.reply_congr`: what a reply depends on.
* `World.AgreesBut.run`: steps on foreign keys may be left out of a history.
* `Service.runBoth_left`, `Service.runBoth_right`: each of two services replies as it does alone.
* `Startup.keepsTo_of_prepare`: a service that was started keeps to the space of its variables.
* `Startup.spaces_do_not_mix`: this for services that were started, and for numbers.
-/

namespace BearerGate

open Revocation (Store)

/-! ### Keys of a space -/

namespace Revocation.Source

/-- A key **of a space**: that of some number. -/
def IsKeyOf (space key : String) : Prop :=
  ∃ id, key = Source.key space id

/-- A source **keeps to a space** if it asks a store for keys of that space only. -/
def KeepsTo (source : Source) (space : String) : Prop :=
  ∀ id, ∀ key ∈ source.lookups id, key = Source.key space id

/-- No key is **of two spaces**. -/
theorem IsKeyOf.unique {space other key : String} (h : IsKeyOf space key)
    (h' : IsKeyOf other key) : space = other := by
  obtain ⟨i, rfl⟩ := h
  obtain ⟨j, h'⟩ := h'
  exact (key_inj.mp h').1

/-- A source that asks a store **keeps to its space**. -/
theorem keepsTo_stored (backend : Backend) (space : String) :
    (Source.stored backend space).KeepsTo space :=
  fun _ _ hkey => List.mem_singleton.mp hkey

/-- What a source says of a number depends on **how the store is down**, and on the keys that it is
asked for. -/
theorem isRevoked_congr (source : Source) {store store' : Store} {id : Int64}
    (houtage : store.outage = store'.outage)
    (hkeys : ∀ key ∈ source.lookups id, store.has key = store'.has key) :
    source.isRevoked store id = source.isRevoked store' id := by
  cases source with
  | failClosed | fixed => rfl
  | stored backend space =>
      rw [isRevoked, isRevoked, houtage, hkeys _ List.mem_cons_self]

end Revocation.Source

/-! ### What a reply depends on -/

/-- The headers that a step **brings before the gate**: those of a request have its number. -/
def Step.headersAtGate? : Step → Option Http.Headers
  | .pass head => some head.headers
  | .request fresh r => some (Service.numbered fresh r).1.headers
  | _ => none

/-- A step **concerns a number** if it brings a token of that number before the gate. -/
def Step.Concerns (gate : Gate) (now : Second) (id : Int64) (s : Step) : Prop :=
  ∃ headers raw who, s.headersAtGate? = some headers ∧
    BringsToken gate.headerName gate.scheme headers raw ∧
    gate.screen.verifier.verify now raw = .ok who ∧ who.id = id

/-- The passage through a gate depends on what is known of the number **that the request brings**,
and on nothing else that is in the store. -/
theorem Gate.pass_congr_store {gate : Gate} {now : Second} {store store' : Store}
    {head : RequestHead}
    (h : ∀ raw who, BringsToken gate.headerName gate.scheme head.headers raw →
      gate.screen.verifier.verify now raw = .ok who →
      gate.screen.source.isRevoked store who.id = gate.screen.source.isRevoked store' who.id) :
    gate.pass now store head = gate.pass now store' head := by
  have hprovide : ∀ raw, BringsToken gate.headerName gate.scheme head.headers raw →
      gate.screen.provider now store [] raw = gate.screen.provider now store' [] raw := by
    intro raw hbrings
    rw [Screen.provider, Screen.provider, Screen.run, Screen.run]
    cases hverify : gate.screen.verifier.verify now raw with
    | error problem => rfl
    | ok who => simp only [h raw who hbrings hverify]
  rw [pass, pass, attempt_congr_provider hprovide]

namespace Service

/-- A **reply depends** on the time, and on what is known of the number that the step concerns. -/
theorem reply_congr (service : Service) {world world' : World} {s : Step} (hasks : s.Asks)
    (hnow : world.now = world'.now)
    (h : ∀ id, s.Concerns service.gate world.now id →
      service.gate.screen.source.isRevoked world.store id =
        service.gate.screen.source.isRevoked world'.store id) :
    service.reply world s = service.reply world' s := by
  obtain ⟨now, store⟩ := world
  obtain ⟨now', store'⟩ := world'
  obtain rfl : now = now' := hnow
  cases s with
  | issue draw who => rfl
  | bareRequest request => rfl
  | pass head =>
      have hpass := Gate.pass_congr_store fun raw who hbrings hverify =>
        h who.id ⟨_, raw, who, rfl, hbrings, hverify, rfl⟩
      rw [reply, reply, hpass]
  | request fresh request =>
      have hpass := @Gate.pass_congr_store service.gate now store store'
        (headOf (numbered fresh request).1) fun raw who hbrings hverify =>
          h who.id ⟨_, raw, who, rfl, hbrings, hverify, rfl⟩
      have hguarded : ∀ limit, service.guarded now store fresh (numbered fresh request).1 limit =
          service.guarded now store' fresh (numbered fresh request).1 limit := by
        intro limit
        rw [guarded, guarded, hpass]
      simp only [reply, handle, limited, hguarded]
  | clock | addKey | removeKey | setOutage => cases hasks

end Service

/-! ### Foreign keys -/

/-- A step that **works on** one of some keys: it adds or removes it. -/
def Step.WorksOn (foreign : String → Prop) : Step → Prop
  | .addKey key | .removeKey key => foreign key
  | _ => False

namespace Step.WorksOn

variable {p q : String → Prop} {s : Step}

instance [DecidablePred p] : DecidablePred (WorksOn p)
  | .addKey key | .removeKey key => inferInstanceAs (Decidable (p key))
  | .clock _ | .setOutage _ | .issue _ _ | .pass _ | .request _ _ | .bareRequest _ =>
    inferInstanceAs (Decidable False)

/-- A step works on more keys as well. -/
theorem imp (h : s.WorksOn p) (hpq : ∀ key, p key → q key) : s.WorksOn q := by
  cases s with
  | addKey key | removeKey key => exact hpq key h
  | clock | setOutage | issue | pass | request | bareRequest => cases h

/-- A step works on one key. -/
theorem exists_key (h : s.WorksOn p) (h' : s.WorksOn q) : ∃ key, p key ∧ q key := by
  cases s with
  | addKey key | removeKey key => exact ⟨key, h, h'⟩
  | clock | setOutage | issue | pass | request | bareRequest => cases h

/-- A step that works on a key asks nothing. -/
theorem not_asks (h : s.WorksOn p) : ¬s.Asks := by
  cases s with
  | issue | pass | request | bareRequest => cases h
  | clock | addKey | removeKey | setOutage => exact id

end Step.WorksOn

/-- Two worlds that **agree but for** some keys. -/
structure World.AgreesBut (foreign : String → Prop) (world world' : World) : Prop where
  now : world.now = world'.now
  outage : world.store.outage = world'.store.outage
  has : ∀ key, ¬foreign key → world.store.has key = world'.store.has key

namespace World.AgreesBut

variable {foreign : String → Prop} {world world' : World}

/-- A world agrees with itself. -/
theorem refl (foreign : String → Prop) (world : World) : AgreesBut foreign world world :=
  ⟨rfl, rfl, fun _ _ => rfl⟩

/-- Worlds **keep agreeing** when the same step is taken in both. -/
theorem step (h : AgreesBut foreign world world') (s : Step) :
    AgreesBut foreign (Service.worldAfter world s) (Service.worldAfter world' s) := by
  cases s with
  | clock now => exact ⟨rfl, h.outage, h.has⟩
  | setOutage outage => exact ⟨h.now, rfl, h.has⟩
  | addKey key =>
      refine ⟨h.now, ?_, fun other hother => ?_⟩
      · simp only [Service.worldAfter, Store.outage_add, h.outage]
      · simp only [Service.worldAfter, Store.has_add, h.has other hother]
  | removeKey key =>
      refine ⟨h.now, h.outage, fun other hother => ?_⟩
      simp only [Service.worldAfter, Store.has_remove, h.has other hother]
  | issue | pass | request | bareRequest => exact h

/-- Worlds keep agreeing when a step **on a foreign key** is taken in one of them. -/
theorem step_left (h : AgreesBut foreign world world') {s : Step} (hs : s.WorksOn foreign) :
    AgreesBut foreign (Service.worldAfter world s) world' := by
  have hne : ∀ {key other}, foreign key → ¬foreign other → other ≠ key := by
    rintro key other hkey hother rfl
    exact hother hkey
  cases s with
  | addKey key =>
      refine ⟨h.now, ?_, fun other hother => ?_⟩
      · simp only [Service.worldAfter, Store.outage_add, h.outage]
      · simp only [Service.worldAfter, Store.has_add, h.has other hother,
          beq_false_of_ne (hne hs hother), Bool.false_or]
  | removeKey key =>
      refine ⟨h.now, h.outage, fun other hother => ?_⟩
      simp only [Service.worldAfter, Store.has_remove, h.has other hother,
        bne_iff_ne.mpr (hne hs hother), Bool.true_and]
  | clock | setOutage | issue | pass | request | bareRequest => cases hs

/-- A history may **leave out** steps on foreign keys. -/
theorem run (service : Service) [DecidablePred (Step.WorksOn foreign)]
    (h : AgreesBut foreign world world') (steps : List Step) :
    AgreesBut foreign (service.run world steps).1
      (service.run world' (steps.filter fun s => ¬s.WorksOn foreign)).1 := by
  induction steps generalizing world world' with
  | nil => exact h
  | cons s steps ih =>
      by_cases hs : s.WorksOn foreign
      · rw [List.filter_cons_of_neg (by simpa using hs)]
        exact ih (h.step_left hs)
      · rw [List.filter_cons_of_pos (by simpa using hs)]
        exact ih (h.step s)

/-- A service **replies the same** in worlds that agree but for foreign keys, unless it has to ask
for one of them. -/
theorem reply_eq (service : Service) (h : AgreesBut foreign world world') {s : Step}
    (hs : ¬s.WorksOn foreign)
    (hconcerns : ∀ id, s.Concerns service.gate world.now id →
      ∀ key ∈ service.gate.screen.source.lookups id, ¬foreign key) :
    service.reply world s = service.reply world' s := by
  cases s with
  | clock | setOutage => rfl
  | addKey key | removeKey key => rw [Service.reply, Service.reply, h.has key hs]
  | issue | pass | request | bareRequest =>
      exact service.reply_congr trivial h.now fun id hid =>
        service.gate.screen.source.isRevoked_congr h.outage fun key hkey =>
          h.has key (hconcerns id hid key hkey)

end World.AgreesBut

/-! ### Shared histories -/

/-- A step that asks changes nothing. -/
theorem Service.worldAfter_of_asks {s : Step} (h : s.Asks) (world : World) :
    worldAfter world s = world := by
  cases s with
  | issue | pass | request | bareRequest => rfl
  | clock | addKey | removeKey | setOutage => cases h

section Shared

variable {ι : Type}

/-- Each service **minds its space** in a history that services share, where each step is taken at
one of them or is common to all: what is taken at a service asks it something or works on a key of
its space, and what is common to all works on no key of any space. -/
structure MindsSpaces (space : ι → String) (history : List (Option ι × Step)) : Prop where
  own : ∀ i s, (some i, s) ∈ history →
    s.Asks ∨ s.WorksOn (Revocation.Source.IsKeyOf (space i))
  common : ∀ s, (none, s) ∈ history →
    ¬s.WorksOn fun key => ∃ i, Revocation.Source.IsKeyOf (space i) key

/-- A key of the space **of another** service. -/
def IsKeyOfOther (space : ι → String) (i : ι) (key : String) : Prop :=
  ∃ j, j ≠ i ∧ Revocation.Source.IsKeyOf (space j) key

/-- Where no two services have one space, no key of a service is that of another. -/
theorem not_isKeyOfOther {space : ι → String} (hspace : Function.Injective space) {i : ι}
    {key : String} (h : Revocation.Source.IsKeyOf (space i) key) : ¬IsKeyOfOther space i key := by
  rintro ⟨j, hne, hkey⟩
  exact hne (hspace (hkey.unique h))

namespace MindsSpaces

variable {space : ι → String} {history : List (Option ι × Step)} {s : Step} {i : ι}

/-- What is taken at a service, or is common to all, works on **no key of another**. -/
theorem not_worksOn {place : Option ι} (h : MindsSpaces space ((place, s) :: history))
    (hspace : Function.Injective space) (hplace : place = none ∨ place = some i) :
    ¬s.WorksOn (IsKeyOfOther space i) := by
  intro hworks
  rcases hplace with rfl | rfl
  · exact h.common s List.mem_cons_self (hworks.imp fun key ⟨j, _, hkey⟩ => ⟨j, hkey⟩)
  · rcases h.own i s List.mem_cons_self with hasks | hown
    · exact hworks.not_asks hasks
    · obtain ⟨key, hother, hkey⟩ := hworks.exists_key hown
      exact not_isKeyOfOther hspace hkey hother

/-- What is taken **at another service** changes no key but of that. -/
theorem agreesBut {j : ι} (h : MindsSpaces space ((some j, s) :: history)) (hne : j ≠ i)
    {world world' : World} (hworlds : world.AgreesBut (IsKeyOfOther space i) world') :
    (Service.worldAfter world s).AgreesBut (IsKeyOfOther space i) world' := by
  rcases h.own j s List.mem_cons_self with hasks | hown
  · rwa [Service.worldAfter_of_asks hasks]
  · exact hworlds.step_left (hown.imp fun key hkey => ⟨j, hne, hkey⟩)

end MindsSpaces

variable [DecidableEq ι]

/-- The steps that a service **takes part in**: those taken at it, and those common to all. -/
def stepsAt (i : ι) (history : List (Option ι × Step)) : List Step :=
  (history.filter fun p => p.1 = none ∨ p.1 = some i).map Prod.snd

namespace Service

/-- Takes the steps of a history that services share, in order. What a step changes is changed for
all, and each service has the replies to the steps that it takes part in. -/
def runShared (service : ι → Service) (world : World) :
    List (Option ι × Step) → World × (ι → List Reply)
  | [] => (world, fun _ => [])
  | (place, s) :: rest =>
    let run := runShared service (worldAfter world s) rest
    (run.1, fun i =>
      if place = none ∨ place = some i then (service i).reply world s :: run.2 i else run.2 i)

/-- Services that share a store, each with a space of its own, **reply as they do alone**. The
induction is on the history, over worlds that agree but for the keys of the others. -/
theorem runShared_eq {service : ι → Service} {space : ι → String}
    (hspace : Function.Injective space)
    (hkeeps : ∀ i, (service i).gate.screen.source.KeepsTo (space i))
    {history : List (Option ι × Step)} (hminds : MindsSpaces space history) (i : ι)
    {world world' : World} (h : world.AgreesBut (IsKeyOfOther space i) world') :
    (runShared service world history).2 i = ((service i).run world' (stepsAt i history)).2 := by
  induction history generalizing world world' with
  | nil => rfl
  | cons p history ih =>
      obtain ⟨place, s⟩ := p
      have hrest : MindsSpaces space history :=
        ⟨fun j t ht => hminds.own j t (List.mem_cons_of_mem _ ht),
          fun t ht => hminds.common t (List.mem_cons_of_mem _ ht)⟩
      by_cases hplace : place = none ∨ place = some i
      · have hreply : (service i).reply world s = (service i).reply world' s := by
          refine h.reply_eq _ (hminds.not_worksOn hspace hplace) fun id _ key hkey => ?_
          exact not_isKeyOfOther hspace ⟨id, hkeeps i id key hkey⟩
        simp only [runShared, stepsAt, List.filter_cons, hplace, decide_true, if_true,
          List.map_cons, run, step, List.cons.injEq]
        exact ⟨hreply, ih hrest (h.step s)⟩
      · simp only [runShared, stepsAt, List.filter_cons, hplace, decide_false, if_false]
        cases place with
        | none => exact absurd (Or.inl rfl) hplace
        | some j => exact ih hrest (hminds.agreesBut (fun hj => hplace (hj ▸ Or.inr rfl)) h)

end Service

end Shared

/-! ### Spaces of variables -/

/-- The variables **name a space**: it is the text that one of them holds, as it stands, or the
default if that is left out. -/
inductive Settings.NamesSpace (env : Environment) : String → Prop where
  | text {space : String} : Holds env .keySpace space → NamesSpace env space
  | default : LeftOut env .keySpace → NamesSpace env defaultKeySpace

/-- The space of the variables is that of the server that they name. -/
theorem Settings.namesSpace_iff {env : Environment} {space : String} :
    NamesSpace env space ↔ (value? env .keySpace).getD defaultKeySpace = space := by
  constructor
  · rintro (htext | hout)
    · rw [value?_eq_some_iff.mpr htext, Option.getD_some]
    · rw [value?_eq_none_iff.mpr hout, Option.getD_none]
  · rintro rfl
    cases hvalue : value? env .keySpace with
    | none => exact .default (value?_eq_none_iff.mp hvalue)
    | some text => exact .text (value?_eq_some_iff.mp hvalue)

namespace Startup

open Settings (Environment NamesSpace)

variable {env : Environment} {reachable : String → Bool} {space : String}

/-- A source that follows the setting of variables keeps to their space, since the space is only
that of the server. -/
theorem keepsTo_of_follows {r : RevocationSetting} {source : Revocation.Source}
    (hnames : Settings.NamesSource env r) (hfollows : Service.Follows reachable r source)
    (hspace : NamesSpace env space) : source.KeepsTo space := by
  cases hnames with
  | unset => cases hfollows
  | fixed =>
      cases hfollows
      exact fun _ _ hkey => absurd hkey List.not_mem_nil
  | server =>
      cases hfollows
      rw [Settings.namesSpace_iff.mp hspace]
      exact Revocation.Source.keepsTo_stored _ _

/-- A service that was **started** keeps to the space of its variables. -/
theorem keepsTo_of_prepare {settings : Settings} {service : Service}
    (h : prepare env reachable = .ok (settings, service)) (hspace : NamesSpace env space) :
    service.gate.screen.source.KeepsTo space :=
  keepsTo_of_follows (IsSound.of_prepare h).read.revocation (IsSound.of_prepare h).source hspace

/-! ### Spaces do not mix -/

/-- **Spaces do not mix.** A key tells its space and its number, whatever the space is made of. So
services that were started with spaces of their own and share a store, each minding its space, have
the replies that each of them would have alone: what is revoked for one is not seen by another. And
within one service, adding and removing the key of a number, however often and whatever else
happens, makes no difference to what is known of another number, nor to the reply to anything that
does not concern that number. -/
theorem spaces_do_not_mix :
    (∀ (space other : String) (i j : Int64),
      Revocation.Source.key space i = Revocation.Source.key other j → space = other ∧ i = j) ∧
    (∀ (ι : Type) [DecidableEq ι] (env : ι → Environment) (reachable : ι → String → Bool)
      (settings : ι → Settings) (service : ι → Service) (space : ι → String),
      (∀ i, prepare (env i) (reachable i) = .ok (settings i, service i)) →
      (∀ i, NamesSpace (env i) (space i)) → Function.Injective space →
      ∀ (world : World) (history : List (Option ι × Step)), MindsSpaces space history →
      ∀ i, (Service.runShared service world history).2 i =
        ((service i).run world (stepsAt i history)).2) ∧
    ∀ (service : Service) (backend : Revocation.Backend) (space : String) (i : Int64),
      service.gate.screen.source = .stored backend space →
      ∀ (start : World) (steps : List Step) (world world' : World),
      world = (service.run start steps).1 →
      world' = (service.run start
        (steps.filter fun s => ¬s.WorksOn (· = Revocation.Source.key space i))).1 →
      (∀ j, i ≠ j → service.gate.screen.source.isRevoked world.store j =
        service.gate.screen.source.isRevoked world'.store j) ∧
      ∀ s : Step, s.Asks → ¬s.Concerns service.gate world.now i →
        service.reply world s = service.reply world' s := by
  refine ⟨fun space other i j => Revocation.Source.key_inj.mp, ?_, ?_⟩
  · intro ι _ env reachable settings service space hprepare hspace hinj world history hminds i
    exact Service.runShared_eq hinj (fun j => keepsTo_of_prepare (hprepare j) (hspace j)) hminds i
      (.refl _ world)
  · rintro service backend space i hsource start steps _ _ rfl rfl
    have hworlds := (World.AgreesBut.refl (· = Revocation.Source.key space i) start).run service
      steps
    have hknown : ∀ j, i ≠ j → ∀ key ∈ service.gate.screen.source.lookups j,
        key ≠ Revocation.Source.key space i := by
      rintro j hne key hkey rfl
      rw [hsource] at hkey
      exact hne (Revocation.Source.key_injective (List.mem_singleton.mp hkey))
    refine ⟨fun j hne => ?_, fun s hasks hconcerns => ?_⟩
    · exact service.gate.screen.source.isRevoked_congr hworlds.outage fun key hkey =>
        hworlds.has key (hknown j hne key hkey)
    · refine hworlds.reply_eq service (fun hworks => hworks.not_asks hasks) fun j hj => ?_
      exact hknown j fun heq => hconcerns (heq ▸ hj)

/-! ### Two spaces, one in the other -/

/-- What settings say of the source makes no difference once there is one. -/
theorem assemble_withRevocation (settings : Settings) (revocation : RevocationSetting)
    (source : Option Revocation.Source) :
    Service.assemble { settings with revocation } source = Service.assemble settings source :=
  rfl

/-- The variables of a service that asks a server, with a space. -/
def spaceVariables (space : String) : Environment :=
  Settings.withText (Settings.withText (Settings.withText (sampleVariables "3600" "Bearer")
    .backend "valkey") .serverUrl "redis://cache") .keySpace space

/-- The settings that are read from them. -/
def spaceSettings (space : String) : Settings :=
  { sampleSettings with revocation := .server "redis://cache" space }

/-- With these variables a startup gets to the end. -/
theorem prepare_spaceVariables {space : String} (h : Text.isBlankText space.toList = false) :
    prepare (spaceVariables space) (fun _ => true) =
      .ok (spaceSettings space, sampleService (.stored .server space)) := by
  have hspace : Settings.value? (spaceVariables space) .keySpace = some space :=
    Settings.value?_eq_some_iff.mpr ⟨rfl, h⟩
  have hsource : Settings.NamesSource (spaceVariables space) (.server "redis://cache" space) := by
    have hserver := @Settings.NamesSource.server (spaceVariables space) "valkey" "redis://cache"
      ⟨rfl, rfl⟩ ⟨[], "valkey".toList, [], rfl, rfl, rfl, rfl⟩ ⟨rfl, rfl⟩
    rwa [hspace] at hserver
  have hread : (spaceSettings space).IsReadFrom (spaceVariables space) := by
    refine (@isReadFrom_sampleVariables "3600" "Bearer" 3600 (by decide) (by decide +kernel)
      (by decide) (by decide +kernel)).of_namesSource hsource fun v hv => ?_
    cases v with
    | backend | staticIds | serverUrl | keySpace => exact absurd trivial hv
    | port | mode | publicKey | privateKey | algorithm | lifetime | leeway | headerName | scheme
    | optionalRoutes => simp [spaceVariables, Settings.withText, Variable.name]
  have hconnect : Service.connect (fun _ => true) (spaceSettings space).revocation =
      .ok (some (.stored .server space)) := rfl
  have hassemble : Service.assemble (spaceSettings space) (some (.stored .server space)) =
      .ok (sampleService (.stored .server space)) :=
    (assemble_withRevocation sampleSettings _ _).trans (Service.assemble_sampleSettings rfl)
  exact prepare_eq_ok_iff.mpr ⟨hread, _, hconnect, hassemble⟩

/-- A service of the space `a` and one of the space `a:1`. -/
def nestedService (nested : Bool) : Service :=
  sampleService (.stored .server (cond nested "a:1" "a"))

/-- A history of both: number 7 is revoked in the space `a`, and then its token is brought to the
gate of both services. -/
def nestedHistory (raw : String) : List (Option Bool × Step) :=
  [(some false, .addKey (Revocation.Source.key "a" 7)),
    (none, .pass ⟨"GET", "/", Service.sampleHeaders raw⟩)]

/-- In that history each service minds its space. -/
theorem mindsSpaces_nestedHistory (raw : String) :
    MindsSpaces (fun nested => cond nested "a:1" "a") (nestedHistory raw) where
  own nested s hs := by
    rcases List.mem_cons.mp hs with hs | hs
    · cases hs
      exact Or.inr ⟨7, rfl⟩
    · cases List.mem_singleton.mp hs
  common s hs := by
    rcases List.mem_cons.mp hs with hs | hs
    · cases hs
    · cases List.mem_singleton.mp hs
      exact id

/-- Where number 7 is revoked in the space `a`, its token is **still let through** by the service of
the space `a:1`, which replies as it does alone; and where the number is revoked there, nothing else
is known of number 8. -/
theorem spaces_do_not_mix_nested :
    ∃ raw, (nestedService true).LetsThrough ⟨0, .empty⟩ raw Service.seven ∧
      (Service.runShared nestedService ⟨0, .empty⟩ (nestedHistory raw)).2 true =
        ((nestedService true).run ⟨0, .empty⟩
          [.pass ⟨"GET", "/", Service.sampleHeaders raw⟩]).2 ∧
      (nestedService true).gate.screen.source.isRevoked
        ((nestedService true).run ⟨0, .empty⟩
          [.addKey (Revocation.Source.key "a:1" 7)]).1.store 8 = .ok false := by
  obtain ⟨raw, -, hverify⟩ := Service.exists_token_of_seven
  refine ⟨raw, Service.letsThrough_of_not_has rfl hverify rfl Bool.false_ne_true, ?_, ?_⟩
  · refine spaces_do_not_mix.2.1 Bool (fun nested => spaceVariables (cond nested "a:1" "a"))
      (fun _ _ => true) (fun nested => spaceSettings (cond nested "a:1" "a")) nestedService
      (fun nested => cond nested "a:1" "a") (fun nested => ?_) (fun nested => ?_) ?_ _ _
      (mindsSpaces_nestedHistory raw) true
    · cases nested <;> exact prepare_spaceVariables rfl
    · cases nested <;> exact .text ⟨rfl, rfl⟩
    · decide
  · exact (spaces_do_not_mix.2.2 (nestedService true) .server "a:1" 7 rfl ⟨0, .empty⟩ _ _ _ rfl
      rfl).1 8 (by decide)

end Startup

end BearerGate
