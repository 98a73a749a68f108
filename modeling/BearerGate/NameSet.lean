/-!
# Sets of Names

A finite set of names as the increasing list of its members. The order is that of the characters'
codes, which is also the order of the UTF-8 bytes. Because the list is increasing, two sets with
the same members are the same set, and a set is shown in one way only.
-/

namespace BearerGate

/-- A name put into an increasing list, unless it is there. -/
def insertName (x : String) : List String → List String
  | [] => [x]
  | y :: ys =>
    if x = y then y :: ys
    else if x < y then x :: y :: ys
    else y :: insertName x ys

theorem mem_insertName {x z : String} {ys : List String} :
    z ∈ insertName x ys ↔ z = x ∨ z ∈ ys := by
  induction ys with
  | nil => simp [insertName]
  | cons y ys ih =>
    unfold insertName
    split
    · next h => subst h; simp
    · split
      · simp
      · simp only [List.mem_cons, ih]
        constructor
        · rintro (h | h | h) <;> simp [h]
        · rintro (h | h | h) <;> simp [h]

theorem pairwise_insertName {x : String} {ys : List String} (h : ys.Pairwise (· < ·)) :
    (insertName x ys).Pairwise (· < ·) := by
  induction ys with
  | nil => simp [insertName]
  | cons y ys ih =>
    obtain ⟨hy, hys⟩ := List.pairwise_cons.1 h
    unfold insertName
    split
    · exact h
    · next hne =>
      split
      · next hlt =>
        refine List.pairwise_cons.2 ⟨?_, h⟩
        intro z hz
        rcases List.mem_cons.1 hz with rfl | hz
        · exact hlt
        · exact String.lt_trans hlt (hy z hz)
      · next hnlt =>
        refine List.pairwise_cons.2 ⟨?_, ih hys⟩
        intro z hz
        rcases mem_insertName.1 hz with rfl | hz
        · apply Classical.byContradiction
          intro hyz
          exact hne (String.le_antisymm (String.not_lt.1 hyz) (String.not_lt.1 hnlt))
        · exact hy z hz

/-- A set of names. -/
structure NameSet where
  names : List String
  increasing : names.Pairwise (· < ·)
  deriving DecidableEq

namespace NameSet

/-- The set without members. -/
def empty : NameSet := ⟨[], .nil⟩

/-- A set with one member more. -/
def insert (s : NameSet) (x : String) : NameSet :=
  ⟨insertName x s.names, pairwise_insertName s.increasing⟩

/-- The set of the members of a list. -/
def ofList (xs : List String) : NameSet :=
  xs.foldl insert empty

/-- The members of a set, in increasing order. -/
def toList (s : NameSet) : List String := s.names

/-- Whether a name is in a set. -/
def contains (s : NameSet) (x : String) : Bool :=
  s.names.contains x

instance : Membership String NameSet := ⟨fun s x => x ∈ s.names⟩

theorem mem_insert {s : NameSet} {x z : String} : z ∈ s.insert x ↔ z = x ∨ z ∈ s :=
  mem_insertName

theorem contains_iff {s : NameSet} {x : String} : s.contains x = true ↔ x ∈ s := by
  simp [contains, Membership.mem]

theorem mem_foldl_insert {s : NameSet} {xs : List String} {z : String} :
    z ∈ xs.foldl insert s ↔ z ∈ s ∨ z ∈ xs := by
  induction xs generalizing s with
  | nil => simp
  | cons x xs ih =>
    simp only [List.foldl_cons, ih, mem_insert, List.mem_cons]
    constructor
    · rintro ((h | h) | h) <;> simp [h]
    · rintro (h | h | h) <;> simp [h]

theorem mem_ofList {xs : List String} {z : String} : z ∈ ofList xs ↔ z ∈ xs := by
  have h : z ∉ empty := fun hz => by cases hz
  rw [ofList, mem_foldl_insert]
  exact ⟨fun hz => hz.resolve_left h, .inr⟩

end NameSet

end BearerGate
