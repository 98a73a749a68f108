/-!
# Outcomes of Computations

A computation that can fail succeeds exactly when all of its parts do. The lemmas here take apart
a success of the ways in which such computations are put together; and where a computation looks for
one problem after the other, they say which of them it fails with.

## Main results

* `bind_eq_ok_iff`: what it takes for two computations in a row to succeed.
* `Reports.bind`: with which problem two computations in a row fail.
-/

namespace BearerGate

variable {ε α β : Type}

/-! ### Success -/

/-- Two computations in a row succeed exactly when each succeeds on what the one before gave. -/
theorem bind_eq_ok_iff {x : Except ε α} {f : α → Except ε β} {b : β} :
    (x >>= f) = .ok b ↔ ∃ a, x = .ok a ∧ f a = .ok b := by
  constructor
  · intro h
    cases x with
    | ok a => exact ⟨a, rfl, h⟩
    | error e => cases h
  · rintro ⟨a, rfl, h⟩
    exact h

/-- A computation whose result is mapped succeeds exactly when it does without that. -/
theorem map_eq_ok_iff {x : Except ε α} {f : α → β} {b : β} :
    x.map f = .ok b ↔ ∃ a, x = .ok a ∧ f a = b := by
  constructor
  · intro h
    cases x with
    | ok a => exact ⟨a, rfl, Except.ok.inj h⟩
    | error e => cases h
  · rintro ⟨a, rfl, rfl⟩
    rfl

/-- A computation whose problem is renamed succeeds exactly when it does without that. -/
theorem mapError_eq_ok_iff {ε' : Type} {x : Except ε α} {f : ε → ε'} {a : α} :
    x.mapError f = .ok a ↔ x = .ok a := by
  constructor
  · intro h
    cases x with
    | ok a =>
        cases h
        rfl
    | error e => cases h
  · rintro rfl
    rfl

/-! ### Rows of problems -/

section Rows

variable {has : ε → Prop} {row row' : List ε} {e p : ε}

/-- The **first** problem of a row that there is: there is none of those before it. -/
def IsFirst (has : ε → Prop) (row : List ε) (p : ε) : Prop :=
  ∃ before after, row = before ++ p :: after ∧ has p ∧ ∀ q ∈ before, ¬has q

/-- There is no first problem of an empty row. -/
theorem not_isFirst_nil : ¬IsFirst has [] p := by
  rintro ⟨before, after, hnil, -⟩
  simp at hnil

/-- The first problem is the one in front, if there is that one, and otherwise the first of the
others. -/
theorem isFirst_cons_iff :
    IsFirst has (e :: row) p ↔ has e ∧ p = e ∨ ¬has e ∧ IsFirst has row p := by
  constructor
  · rintro ⟨before, after, hrow, hp, hbefore⟩
    cases before with
    | nil =>
        obtain ⟨rfl, rfl⟩ := List.cons.inj hrow
        exact Or.inl ⟨hp, rfl⟩
    | cons q before =>
        obtain ⟨rfl, rfl⟩ := List.cons.inj hrow
        exact Or.inr ⟨hbefore e List.mem_cons_self, before, after, rfl, hp,
          fun q hq => hbefore q (List.mem_cons_of_mem e hq)⟩
  · rintro (⟨he, rfl⟩ | ⟨he, before, after, rfl, hp, hbefore⟩)
    · exact ⟨[], row, rfl, he, by simp⟩
    · exact ⟨e :: before, after, rfl, hp, List.forall_mem_cons.mpr ⟨he, hbefore⟩⟩

/-- The first problem of two rows is that of the first, or if there is none of these, that of the
second. -/
theorem isFirst_append_iff :
    IsFirst has (row ++ row') p ↔
      IsFirst has row p ∨ (∀ q ∈ row, ¬has q) ∧ IsFirst has row' p := by
  induction row with
  | nil => simp [not_isFirst_nil]
  | cons e row ih =>
      rw [List.cons_append, isFirst_cons_iff, isFirst_cons_iff, ih, List.forall_mem_cons,
        and_or_left, or_assoc, and_assoc]

/-- If there is some problem of a row, there is a first. -/
theorem exists_isFirst_iff : (∃ p, IsFirst has row p) ↔ ∃ p ∈ row, has p := by
  induction row with
  | nil => simp [not_isFirst_nil]
  | cons e row ih =>
      by_cases he : has e <;> simp [isFirst_cons_iff, he, ih]

/-- A computation **reports** a row of problems: it fails with the first of them that there is, and
if there is none it succeeds. -/
def Reports (has : ε → Prop) (row : List ε) (x : Except ε α) : Prop :=
  ∀ p, x = .error p ↔ IsFirst has row p

/-- A computation that reports a row succeeds exactly when there is no problem of it. -/
theorem Reports.exists_eq_ok_iff {x : Except ε α} (h : Reports has row x) :
    (∃ a, x = .ok a) ↔ ∀ p ∈ row, ¬has p := by
  have hfirst : (∃ p, x = .error p) ↔ ∃ p ∈ row, has p :=
    (exists_congr h).trans exists_isFirst_iff
  cases x with
  | ok a => simpa using hfirst
  | error q => simpa using hfirst

/-- What succeeds reports nothing. -/
theorem Reports.ok (a : α) : Reports has [] (Except.ok a) := by
  intro p
  simp [not_isFirst_nil]

/-- A single check reports its problem. -/
theorem Reports.single {x : Except ε α} (h : ∀ p, x = .error p ↔ has e ∧ p = e) :
    Reports has [e] x := by
  intro p
  rw [h, isFirst_cons_iff]
  simp [not_isFirst_nil]

/-- Two computations **in a row** report the problems of the first and then those of the second. -/
theorem Reports.bind {x : Except ε α} {f : α → Except ε β} (hx : Reports has row x)
    (hf : ∀ a, x = .ok a → Reports has row' (f a)) : Reports has (row ++ row') (x >>= f) := by
  intro p
  rw [isFirst_append_iff, ← hx p, ← hx.exists_eq_ok_iff]
  cases x with
  | ok a =>
      change f a = .error p ↔ _
      simpa using hf a rfl p
  | error q =>
      change Except.error q = .error p ↔ _
      simp

/-- A check in front of a computation reports its problem first. -/
theorem Reports.ite {c : Prop} [Decidable c] {x : Except ε α} (hc : c ↔ has e)
    (hx : ¬c → Reports has row x) : Reports has (e :: row) (if c then .error e else x) := by
  intro p
  rw [isFirst_cons_iff, ← hc]
  split
  · next h => simp [h, eq_comm]
  · next h => simp only [h, false_and, not_false_eq_true, true_and, false_or, hx h p]

end Rows

end BearerGate
