import BearerGate.Text.Blank

/-!
# Cutting Texts into Pieces

* `splitWhen` — the pieces between the separators, empty ones included, so that a text with
  `n` separators has `n + 1` pieces;
* `words` — the maximal blank-free runs;
* `entries` — the entries of a comma-separated list, trimmed, blank ones left out;
* `cutLast` — what stands before and after the last separator;
* `cutAt` — what stands before and after the first occurrence of a text;
* `joinWith` — pieces put together with a separator between them;
* `runs` — a list cut into runs of a fixed length.
-/

namespace BearerGate.Text

variable {α : Type}

/-- One step of `splitWhen`, read from the right: a separator opens a new piece, any other
element is put in front of the piece that is open. -/
def splitStep (isSep : α → Bool) (x : α) : List (List α) → List (List α)
  | [] => if isSep x then [[], []] else [[x]]
  | piece :: rest => if isSep x then [] :: piece :: rest else (x :: piece) :: rest

/-- The pieces of a list between its separators. -/
def splitWhen (isSep : α → Bool) (xs : List α) : List (List α) :=
  xs.foldr (splitStep isSep) [[]]

/-- The pieces of a text between the occurrences of a character. -/
def splitAt (sep : Char) (cs : List Char) : List (List Char) :=
  splitWhen (· == sep) cs

/-- The maximal blank-free runs of a text. -/
def words (cs : List Char) : List (List Char) :=
  (splitWhen isBlank cs).filter fun piece => !piece.isEmpty

/-- The entries of a comma-separated list, trimmed; blank entries do not count. -/
def entries (cs : List Char) : List (List Char) :=
  ((splitAt ',' cs).map trim).filter fun piece => !piece.isEmpty

/-- What stands before and after the last separator; `none` where there is none. -/
def cutLast [BEq α] (sep : α) (xs : List α) : Option (List α × List α) :=
  let tail := (xs.reverse.takeWhile (· != sep)).reverse
  match xs.reverse.dropWhile (· != sep) with
  | [] => none
  | _ :: head => some (head.reverse, tail)

/-- What stands before and after the first occurrence of a pattern. -/
def cutAt [BEq α] (pattern : List α) : List α → Option (List α × List α)
  | [] => if pattern.isEmpty then some ([], []) else none
  | x :: xs =>
    if pattern.isPrefixOf (x :: xs) then some ([], (x :: xs).drop pattern.length)
    else (cutAt pattern xs).map fun (before, after) => (x :: before, after)

/-- Pieces put together with a separator between neighbours. -/
def joinWith (sep : List α) (pieces : List (List α)) : List α :=
  (pieces.intersperse sep).flatten

/-- A list cut into runs of `width` elements, the last of which may be shorter; `fuel` bounds
the number of runs. -/
def runsWithin (width : Nat) : Nat → List α → List (List α)
  | 0, _ => []
  | _, [] => []
  | fuel + 1, xs => xs.take width :: runsWithin width fuel (xs.drop width)

/-- A list cut into runs of `width` elements, the last of which may be shorter. -/
def runs (width : Nat) (xs : List α) : List (List α) :=
  runsWithin width xs.length xs

/-! ### Pieces -/

theorem splitStep_ne_nil (isSep : α → Bool) (x : α) (pieces : List (List α)) :
    splitStep isSep x pieces ≠ [] := by
  cases pieces <;> simp only [splitStep] <;> split <;> simp

theorem splitWhen_ne_nil (isSep : α → Bool) (xs : List α) : splitWhen isSep xs ≠ [] := by
  cases xs with
  | nil => simp [splitWhen]
  | cons x xs => exact splitStep_ne_nil isSep x _

theorem splitWhen_cons_sep {isSep : α → Bool} {x : α} (h : isSep x = true) (xs : List α) :
    splitWhen isSep (x :: xs) = [] :: splitWhen isSep xs := by
  have hne := splitWhen_ne_nil isSep xs
  rw [splitWhen, List.foldr_cons, ← splitWhen]
  cases hs : splitWhen isSep xs with
  | nil => exact absurd hs hne
  | cons piece rest => simp [splitStep, h]

theorem splitWhen_of_forall {isSep : α → Bool} {xs : List α} (h : ∀ x ∈ xs, isSep x = false) :
    splitWhen isSep xs = [xs] := by
  induction xs with
  | nil => rfl
  | cons x xs ih =>
    have hx := h x List.mem_cons_self
    have hxs := ih fun y hy => h y (List.mem_cons_of_mem x hy)
    rw [splitWhen, List.foldr_cons, ← splitWhen, hxs]
    simp [splitStep, hx]

theorem splitWhen_append_cons {isSep : α → Bool} {xs : List α} {s : α}
    (h : ∀ x ∈ xs, isSep x = false) (hs : isSep s = true) (ys : List α) :
    splitWhen isSep (xs ++ s :: ys) = xs :: splitWhen isSep ys := by
  induction xs with
  | nil => exact splitWhen_cons_sep hs ys
  | cons x xs ih =>
    have hx := h x List.mem_cons_self
    have hxs := ih fun y hy => h y (List.mem_cons_of_mem x hy)
    rw [List.cons_append, splitWhen, List.foldr_cons, ← splitWhen, hxs]
    simp [splitStep, hx]

theorem joinWith_splitAt (sep : Char) (cs : List Char) :
    joinWith [sep] (splitAt sep cs) = cs := by
  induction cs with
  | nil => rfl
  | cons c cs ih =>
    have hne := splitWhen_ne_nil (· == sep) cs
    by_cases hc : c = sep
    · rw [splitAt, splitWhen_cons_sep (by simpa using hc)]
      rw [splitAt] at ih
      cases hs : splitWhen (· == sep) cs with
      | nil => exact absurd hs hne
      | cons piece rest =>
        rw [hs] at ih
        simp [joinWith, List.intersperse, hc] at ih ⊢
        exact ih
    · rw [splitAt, splitWhen, List.foldr_cons, ← splitWhen]
      rw [splitAt] at ih
      cases hs : splitWhen (· == sep) cs with
      | nil => exact absurd hs hne
      | cons piece rest =>
        rw [hs] at ih
        cases rest <;> simp [joinWith, splitStep, hc] at ih ⊢ <;> exact ih

theorem splitAt_joinWith {sep : Char} {pieces : List (List Char)} (hne : pieces ≠ [])
    (h : ∀ piece ∈ pieces, sep ∉ piece) : splitAt sep (joinWith [sep] pieces) = pieces := by
  have hsep : ∀ piece ∈ pieces, ∀ c ∈ piece, (c == sep) = false := by
    intro piece hpiece c hc
    rw [beq_eq_false_iff_ne]
    rintro rfl
    exact h piece hpiece hc
  induction pieces with
  | nil => exact absurd rfl hne
  | cons piece rest ih =>
    have hpiece := hsep piece List.mem_cons_self
    cases rest with
    | nil =>
      rw [joinWith, List.intersperse_singleton, List.flatten_singleton]
      exact splitWhen_of_forall hpiece
    | cons next rest =>
      have hrest := ih (List.cons_ne_nil _ _) (fun p hp => h p (List.mem_cons_of_mem _ hp))
        fun p hp => hsep p (List.mem_cons_of_mem _ hp)
      rw [joinWith, List.intersperse_cons_cons, List.flatten_cons, List.flatten_cons,
        List.singleton_append, ← joinWith, splitAt, splitWhen_append_cons hpiece (beq_self_eq_true _),
        ← splitAt, hrest]

/-! ### The last separator -/

theorem cutLast_append [BEq α] [LawfulBEq α] {sep : α} {back : List α} (h : sep ∉ back)
    (front : List α) : cutLast sep (front ++ sep :: back) = some (front, back) := by
  have hall : ∀ x ∈ back.reverse, (x != sep) = true := by
    intro x hx
    simp only [bne_iff_ne, ne_eq]
    rintro rfl
    exact h (List.mem_reverse.1 hx)
  have hr : (front ++ sep :: back).reverse = back.reverse ++ sep :: front.reverse := by simp
  have htake : (back.reverse ++ sep :: front.reverse).takeWhile (· != sep) = back.reverse := by
    rw [List.takeWhile_append_of_pos hall]; simp
  have hdrop : (back.reverse ++ sep :: front.reverse).dropWhile (· != sep) =
      sep :: front.reverse := by
    rw [List.dropWhile_append_of_pos hall]; simp
  simp only [cutLast, hr, htake, hdrop, List.reverse_reverse]

theorem eq_append_of_cutLast [BEq α] [LawfulBEq α] {sep : α} {xs front back : List α}
    (h : cutLast sep xs = some (front, back)) : xs = front ++ sep :: back ∧ sep ∉ back := by
  have hsplit := List.takeWhile_append_dropWhile (p := (· != sep)) (l := xs.reverse)
  unfold cutLast at h
  cases hd : xs.reverse.dropWhile (· != sep) with
  | nil => simp [hd] at h
  | cons y rest =>
    simp only [hd, Option.some.injEq, Prod.mk.injEq] at h
    obtain ⟨rfl, rfl⟩ := h
    have hy : (y != sep) = false := by
      have hhead := List.head?_dropWhile_not (· != sep) xs.reverse
      simpa [hd] using hhead
    have hysep : y = sep := by simpa using hy
    subst hysep
    constructor
    · rw [hd] at hsplit
      have := congrArg List.reverse hsplit
      simpa using this.symm
    · intro hmem
      have := List.all_takeWhile (p := (· != y)) (l := xs.reverse)
      rw [List.all_eq_true] at this
      have := this y (List.mem_reverse.1 hmem)
      simp at this

end BearerGate.Text
