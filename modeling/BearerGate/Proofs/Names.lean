import BearerGate.NameSet
import BearerGate.Proofs.Outcome
import BearerGate.Role

/-!
# Sets of Names and Names of Roles

A set of names is determined by its members, and so is the list in which they are shown. The
names that roles resolve to are few, whatever was written, and each resolves to itself.

## Main results

* `NameSet.ext_mem`: sets with the same members are the same.
* `Role.resolve_eq_some_iff`: the texts that name a role, and what they resolve to.
* `Role.resolve_name`: a canonical name resolves to itself.
-/

namespace BearerGate

/-! ### Sets -/

/-- The members of a set are listed once each. -/
theorem NameSet.nodup (s : NameSet) : s.names.Nodup :=
  s.increasing.imp fun hlt => String.ne_of_lt hlt

/-- Sets of names with the same members are the same set: there is one increasing list of them. -/
theorem NameSet.ext_mem {s t : NameSet} (h : ∀ x, x ∈ s ↔ x ∈ t) : s = t := by
  have hperm : s.names.Perm t.names :=
    (List.perm_ext_iff_of_nodup s.nodup t.nodup).mpr h
  have hnames : s.names = t.names := by
    refine hperm.eq_of_pairwise ?_ s.increasing t.increasing
    intro x y _ _ hxy hyx
    exact absurd hyx (String.lt_asymm hxy)
  cases s
  cases t
  cases hnames
  rfl

/-! ### Roles -/

namespace Role

/-- A text resolves exactly when, as it counts, it is the name of a role, and to that name. -/
theorem resolve_eq_some_iff {text name : String} :
    resolve text = some name ↔ ∃ role : Role, normalize text = role.name ∧ name = role.name := by
  constructor
  · intro h
    obtain ⟨role, hrole, rfl⟩ := Option.map_eq_some_iff.mp h
    have hname := List.find?_some hrole
    simp only [decide_eq_true_eq] at hname
    exact ⟨role, hname.symm, rfl⟩
  · rintro ⟨role, hname, rfl⟩
    rw [resolve, ofName?]
    rw [hname]
    cases role <;> decide

/-- What a text resolves to is one of the two names of roles. -/
theorem eq_of_resolve {text name : String} (h : resolve text = some name) :
    name = user.name ∨ name = admin.name := by
  obtain ⟨role, -, rfl⟩ := resolve_eq_some_iff.mp h
  cases role with
  | user => exact Or.inl rfl
  | admin => exact Or.inr rfl

/-- A canonical name is its own normal form, so it resolves to itself. -/
theorem resolve_name (role : Role) : resolve role.name = some role.name := by
  refine resolve_eq_some_iff.mpr ⟨role, ?_, rfl⟩
  cases role <;> decide

/-- What a list of written roles resolves to has the names of all of them, and no others. -/
theorem mem_of_resolveAll {texts names : List String} (h : resolveAll texts = .ok names)
    {name : String} : name ∈ names ↔ ∃ text ∈ texts, resolve text = some name := by
  induction texts generalizing names with
  | nil =>
      cases h
      simp
  | cons text texts ih =>
      rw [resolveAll] at h
      split at h
      · cases h
      · next first hfirst =>
        obtain ⟨more, hmore, rfl⟩ := map_eq_ok_iff.mp h
        rw [List.mem_cons, ih hmore]
        simp only [List.mem_cons, exists_eq_or_imp, hfirst, Option.some.injEq]
        exact or_congr_left eq_comm

/-- A list of written roles is resolved exactly when each of them is a role. -/
theorem exists_resolveAll_iff {texts : List String} :
    (∃ names, resolveAll texts = .ok names) ↔ ∀ text ∈ texts, ∃ name, resolve text = some name := by
  induction texts with
  | nil => simp [resolveAll]
  | cons text texts ih =>
      rw [List.forall_mem_cons, ← ih, resolveAll]
      cases hfirst : resolve text with
      | none => simp
      | some name =>
          simp only [map_eq_ok_iff]
          constructor
          · rintro ⟨names, more, hmore, -⟩
            exact ⟨⟨name, rfl⟩, more, hmore⟩
          · rintro ⟨-, more, hmore⟩
            exact ⟨name :: more, more, hmore, rfl⟩

end Role

end BearerGate
