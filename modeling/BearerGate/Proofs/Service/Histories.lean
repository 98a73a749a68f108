import Mathlib.Data.List.Induction
import BearerGate.Service.History

/-!
# Histories Looked Back At

What the world is like after some steps depends on the last step that had a say in it. This is
stated once for any property that single steps turn on and off, and taken for the two that matter
here: whether a store has a key, and how it is down. A reply in a history depends on the world
just before the step, and on nothing else that was.

## Main results

* `Service.run_iff_holdsSince`: what steps turn on and off holds since it was last turned on.
* `Service.has_run_iff`, `Service.outage_run_iff`: the keys and the outage of a store after steps.
* `Service.reply_of_run`: the reply to a step of a history.
-/

namespace BearerGate

/-! ### Since when something holds -/

/-- Something **holds since** a step that turned it on, or since the start, if no step turned it
off after that. -/
def HoldsSince {α : Type} (on off : α → Prop) (initially : Prop) (steps : List α) : Prop :=
  (∃ before s after, steps = before ++ s :: after ∧ on s ∧ ∀ t ∈ after, ¬off t) ∨
    (initially ∧ ∀ t ∈ steps, ¬off t)

section HoldsSince

variable {α : Type} {on off : α → Prop} {initially : Prop}

/-- Without steps something holds if it did at the start. -/
theorem holdsSince_nil : HoldsSince on off initially [] ↔ initially := by
  constructor
  · rintro (⟨before, s, after, heq, -, -⟩ | ⟨h, -⟩)
    · simp at heq
    · exact h
  · intro h
    exact Or.inr ⟨h, by simp⟩

/-- After one step more something holds if that step turned it on, or if it held and the step did
not turn it off. -/
theorem holdsSince_concat {steps : List α} {s : α} :
    HoldsSince on off initially (steps ++ [s]) ↔
      on s ∨ HoldsSince on off initially steps ∧ ¬off s := by
  constructor
  · rintro (⟨before, t, after, heq, hon, hafter⟩ | ⟨h, hsteps⟩)
    · rcases List.eq_nil_or_concat after with rfl | ⟨after, last, rfl⟩
      · obtain ⟨-, hlast⟩ := List.append_inj' heq rfl
        obtain rfl : s = t := by simpa using hlast
        exact Or.inl hon
      · rw [List.concat_eq_append] at heq hafter
        rw [← List.cons_append, ← List.append_assoc] at heq
        obtain ⟨rfl, hlast⟩ := List.append_inj' heq rfl
        obtain rfl : s = last := by simpa using hlast
        refine Or.inr ⟨Or.inl ⟨before, t, after, rfl, hon, fun u hu => ?_⟩, ?_⟩
        · exact hafter u (List.mem_append_left _ hu)
        · exact hafter s (List.mem_append_right _ List.mem_cons_self)
    · refine Or.inr ⟨Or.inr ⟨h, fun t ht => ?_⟩, ?_⟩
      · exact hsteps t (List.mem_append_left _ ht)
      · exact hsteps s (List.mem_append_right _ List.mem_cons_self)
  · rintro (hon | ⟨⟨before, t, after, rfl, hon, hafter⟩ | ⟨h, hsteps⟩, hoff⟩)
    · exact Or.inl ⟨steps, s, [], rfl, hon, by simp⟩
    · refine Or.inl ⟨before, t, after ++ [s], by simp, hon, fun u hu => ?_⟩
      rcases List.mem_append.mp hu with hu | hu
      · exact hafter u hu
      · rw [List.mem_singleton] at hu
        exact hu ▸ hoff
    · refine Or.inr ⟨h, fun u hu => ?_⟩
      rcases List.mem_append.mp hu with hu | hu
      · exact hsteps u hu
      · rw [List.mem_singleton] at hu
        exact hu ▸ hoff

/-- What no step turns on or off holds as it did at the start. -/
theorem holdsSince_of_untouched {steps : List α} (h : ∀ s ∈ steps, ¬on s ∧ ¬off s) :
    HoldsSince on off initially steps ↔ initially := by
  constructor
  · rintro (⟨before, s, after, rfl, hon, -⟩ | ⟨hinitially, -⟩)
    · exact absurd hon (h s (by simp)).1
    · exact hinitially
  · intro hinitially
    exact Or.inr ⟨hinitially, fun s hs => (h s hs).2⟩

end HoldsSince

/-! ### Runs -/

namespace Service

variable (service : Service)

/-- A run of some steps and then others is the run of the others after that of the first. -/
theorem run_append (world : World) (steps more : List Step) :
    service.run world (steps ++ more) =
      ((service.run (service.run world steps).1 more).1,
        (service.run world steps).2 ++ (service.run (service.run world steps).1 more).2) := by
  induction steps generalizing world with
  | nil => rfl
  | cons s steps ih =>
      have hmore := ih (worldAfter world s)
      simp only [List.cons_append, run, step, hmore]

/-- There are as many replies as steps. -/
theorem length_run (world : World) (steps : List Step) :
    (service.run world steps).2.length = steps.length := by
  induction steps generalizing world with
  | nil => rfl
  | cons s steps ih => exact congrArg (· + 1) (ih _)

/-- The world after one step more. -/
theorem run_concat (world : World) (steps : List Step) (s : Step) :
    (service.run world (steps ++ [s])).1 = worldAfter (service.run world steps).1 s := by
  rw [run_append]
  rfl

/-- The **reply to a step** of a history is that of the service to the step in the world as it is
then: nothing is kept from one step to the next. -/
theorem reply_of_run (world : World) (before after : List Step) (s : Step) :
    (service.run world (before ++ s :: after)).2[before.length]? =
      some (service.reply (service.run world before).1 s) := by
  rw [run_append, List.getElem?_append_right (Nat.le_of_eq (service.length_run world before)),
    length_run, Nat.sub_self]
  rfl

/-- What steps turn on and off **holds since** it was last turned on. The induction is on the
steps, from the end. -/
theorem run_iff_holdsSince {P : World → Prop} {on off : Step → Prop}
    (hstep : ∀ world s, P (worldAfter world s) ↔ on s ∨ P world ∧ ¬off s) (world : World)
    (steps : List Step) :
    P (service.run world steps).1 ↔ HoldsSince on off (P world) steps := by
  induction steps using List.reverseRecOn with
  | nil => exact holdsSince_nil.symm
  | append_singleton steps s ih => rw [run_concat, hstep, ih, holdsSince_concat]

/-! ### The store -/

/-- A key is **listed** after some steps if it was added and not removed since, or if it was there
at the start and never removed. -/
def Listed (store : Revocation.Store) (key : String) (steps : List Step) : Prop :=
  HoldsSince (· = .addKey key) (· = .removeKey key) (store.has key = true) steps

/-- The **outage** of a store after some steps is the last one that was set, or that at the start if
none was. -/
def OutageIs (store : Revocation.Store) (outage : Option Revocation.Outage) (steps : List Step) :
    Prop :=
  HoldsSince (· = .setOutage outage) (fun s => ∃ other, s = .setOutage other)
    (store.outage = outage) steps

/-- The steps that have a say in whether a store has a key. -/
theorem has_worldAfter (key : String) (world : World) (s : Step) :
    (worldAfter world s).store.has key = true ↔
      s = .addKey key ∨ world.store.has key = true ∧ ¬s = .removeKey key := by
  cases s with
  | addKey other =>
      simp [worldAfter, Revocation.Store.has_add, @eq_comm _ key other]
  | removeKey other =>
      simp [worldAfter, Revocation.Store.has_remove, @eq_comm _ key other, and_comm]
  | _ => simp [worldAfter, Revocation.Store.has]

/-- The steps that have a say in how a store is down. -/
theorem outage_worldAfter (outage : Option Revocation.Outage) (world : World) (s : Step) :
    (worldAfter world s).store.outage = outage ↔
      s = .setOutage outage ∨ world.store.outage = outage ∧ ¬∃ other, s = .setOutage other := by
  cases s with
  | addKey key => simp [worldAfter, Revocation.Store.outage_add]
  | _ => simp [worldAfter, Revocation.Store.remove]

/-- A store **has a key** after some steps exactly if it is listed. -/
theorem has_run_iff (world : World) (steps : List Step) (key : String) :
    (service.run world steps).1.store.has key = true ↔ Listed world.store key steps :=
  service.run_iff_holdsSince (P := fun world => world.store.has key = true) (has_worldAfter key)
    world steps

/-- A store is **down** after some steps as it was last set. -/
theorem outage_run_iff (world : World) (steps : List Step)
    (outage : Option Revocation.Outage) :
    (service.run world steps).1.store.outage = outage ↔ OutageIs world.store outage steps :=
  service.run_iff_holdsSince (P := fun world => world.store.outage = outage)
    (outage_worldAfter outage) world steps

end Service

end BearerGate
