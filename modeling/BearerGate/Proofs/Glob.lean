import BearerGate.Glob

/-!
# The Language of a Glob

What a glob covers can be said without comparing anything: each of its segments stands for certain
runs of segments of a path, and a path is covered when it is made of such runs, one for each
segment of the glob, in order. A gap stands for any run, so this leaves every choice open, and to
decide it by trying takes going back over all gaps.

`Glob.run` goes back over the last gap only. That this is enough rests on an exchange: what stands
between two gaps takes up a fixed number of segments, so if a path is covered with an earlier gap
standing for more than it does now, it is also covered with the earlier gap as it is and the later
one standing for more. The invariant of a comparison carries this: nothing has been given up that
the last gap cannot make good.

## Main results

* `Glob.Holds.move`: every move keeps the invariant, or stops with the right verdict.
* `Glob.Visited.move_ne_outOfRange`: a comparison never gets out of range.
* `Glob.Holds.exists_ends`: every comparison ends, after as many moves at most as are left at its
  start.
* `Glob.covers_iff`: a path is covered exactly when it is in the language of the glob.
-/

namespace BearerGate

/-- What a segment of a glob **stands for**: runs of segments of a path. -/
inductive Segment.Stands : Segment → List String → Prop where
  | literal (text : String) : Stands (.literal text) [text]
  | wildcard (x : String) : Stands .wildcard [x]
  | gap (run : List String) : Stands .gap run

namespace Glob

/-- The **language** of a row of symbols: the paths that are made of one run for each symbol, each
of which the symbol stands for, in order. -/
inductive Language {α : Type} (stands : α → List String → Prop) : List α → List String → Prop where
  | nil : Language stands [] []
  | cons {a : α} {symbols : List α} {run path : List String} :
      stands a run → Language stands symbols path → Language stands (a :: symbols) (run ++ path)

/-- Symbols and what they are read as have one language where they stand for the same. -/
theorem language_map_iff {α β : Type} {stands : α → List String → Prop}
    {stands' : β → List String → Prop} {f : β → α} (h : ∀ b run, stands (f b) run ↔ stands' b run)
    {symbols : List β} {path : List String} :
    Language stands (symbols.map f) path ↔ Language stands' symbols path := by
  induction symbols generalizing path with
  | nil =>
      constructor
      · rintro ⟨⟩
        exact .nil
      · rintro ⟨⟩
        exact .nil
  | cons b symbols ih =>
      rw [List.map_cons]
      constructor
      · rintro ⟨⟩
        next run after hrun hafter => exact .cons ((h b run).mp hrun) (ih.mp hafter)
      · rintro ⟨⟩
        next run after hrun hafter => exact .cons ((h b run).mpr hrun) (ih.mpr hafter)

/-- The paths that a glob **accepts**: those in the language of its segments. -/
def Accepts (glob : List Segment) (path : List String) : Prop :=
  Language Segment.Stands glob path

/-! ### What globs accept -/

variable {glob rest block : List Segment} {path : List String} {s : Segment} {x : String}

/-- The empty glob accepts the empty path. -/
theorem accepts_nil_iff : Accepts [] path ↔ path = [] := by
  constructor
  · rintro ⟨⟩
    rfl
  · rintro rfl
    exact .nil

/-- A path is accepted after a first segment with what the first segment stands for before it. -/
theorem accepts_cons_iff :
    Accepts (s :: glob) path ↔ ∃ run after, path = run ++ after ∧ s.Stands run ∧
      Accepts glob after := by
  constructor
  · rintro ⟨⟩
    next run after hrun hafter => exact ⟨run, after, rfl, hrun, hafter⟩
  · rintro ⟨run, after, rfl, hrun, hafter⟩
    exact .cons hrun hafter

/-- A segment that is no gap stands for one segment, which fits. -/
theorem stands_iff_of_ne_gap (hs : s ≠ .gap) {run : List String} :
    s.Stands run ↔ ∃ x, run = [x] ∧ s.fits x = true := by
  constructor
  · rintro ⟨⟩
    · next text => exact ⟨text, rfl, by simp [Segment.fits]⟩
    · next x => exact ⟨x, rfl, rfl⟩
    · exact absurd rfl hs
  · rintro ⟨x, rfl, hx⟩
    cases s with
    | literal text =>
        obtain rfl : text = x := by simpa [Segment.fits] using hx
        exact .literal text
    | wildcard => exact .wildcard x
    | gap => exact absurd rfl hs

/-- A segment that is no gap takes up the first segment of a path. -/
theorem accepts_cons_cons_iff (hs : s ≠ .gap) :
    Accepts (s :: glob) (x :: path) ↔ s.fits x = true ∧ Accepts glob path := by
  rw [accepts_cons_iff]
  constructor
  · rintro ⟨run, after, hpath, hrun, hafter⟩
    obtain ⟨y, rfl, hfits⟩ := (stands_iff_of_ne_gap hs).mp hrun
    rw [List.singleton_append, List.cons.injEq] at hpath
    obtain ⟨rfl, rfl⟩ := hpath
    exact ⟨hfits, hafter⟩
  · rintro ⟨hfits, hafter⟩
    exact ⟨[x], path, rfl, (stands_iff_of_ne_gap hs).mpr ⟨x, rfl, hfits⟩, hafter⟩

/-- After a gap what is accepted is what the rest accepts from some place on. -/
theorem accepts_gap_iff :
    Accepts (.gap :: glob) path ↔ ∃ n ≤ path.length, Accepts glob (path.drop n) := by
  rw [accepts_cons_iff]
  constructor
  · rintro ⟨run, after, rfl, -, hafter⟩
    refine ⟨run.length, by simp, ?_⟩
    rw [List.drop_left]
    exact hafter
  · rintro ⟨n, -, hafter⟩
    exact ⟨path.take n, path.drop n, (List.take_append_drop n path).symm, .gap _, hafter⟩

/-- The empty path is accepted by gaps only. -/
theorem accepts_empty_iff : Accepts glob [] ↔ glob.all (· = .gap) = true := by
  induction glob with
  | nil => simp [accepts_nil_iff]
  | cons s glob ih =>
      by_cases hs : s = .gap
      · subst hs
        rw [accepts_gap_iff, List.all_cons, decide_eq_true rfl, Bool.true_and, ← ih]
        simp
      · rw [accepts_cons_iff, List.all_cons, decide_eq_false hs, Bool.false_and]
        constructor
        · rintro ⟨run, after, hpath, hrun, -⟩
          obtain ⟨x, rfl, -⟩ := (stands_iff_of_ne_gap hs).mp hrun
          cases hpath
        · intro h
          cases h

/-- What has no gap takes up as many segments of a path as it has itself. -/
theorem drop_of_accepts_append (hblock : Segment.gap ∉ block) (h : Accepts (block ++ rest) path) :
    block.length ≤ path.length ∧ Accepts rest (path.drop block.length) := by
  induction block generalizing path with
  | nil => exact ⟨Nat.zero_le _, h⟩
  | cons s block ih =>
      rw [List.mem_cons, not_or] at hblock
      obtain ⟨run, after, rfl, hrun, hafter⟩ := accepts_cons_iff.mp h
      obtain ⟨x, rfl, -⟩ := (stands_iff_of_ne_gap (Ne.symm hblock.1)).mp hrun
      obtain ⟨hlength, hrest⟩ := ih hblock.2 hafter
      exact ⟨Nat.succ_le_succ hlength, hrest⟩

/-- From a gap on, what is accepted is what the rest of the glob accepts from here or later on. -/
theorem accepts_drop_gap_iff {inGlob inPath : Nat} (hgap : glob[inGlob]? = some .gap)
    (hle : inPath ≤ path.length) :
    Accepts (glob.drop inGlob) (path.drop inPath) ↔
      ∃ n, inPath ≤ n ∧ n ≤ path.length ∧ Accepts (glob.drop (inGlob + 1)) (path.drop n) := by
  obtain ⟨hlt, hget⟩ := List.getElem?_eq_some_iff.mp hgap
  rw [List.drop_eq_getElem_cons hlt, hget, accepts_gap_iff]
  constructor
  · rintro ⟨n, hn, haccepts⟩
    rw [List.length_drop] at hn
    rw [List.drop_drop] at haccepts
    exact ⟨inPath + n, by omega, by omega, haccepts⟩
  · rintro ⟨n, hn, hle, haccepts⟩
    refine ⟨n - inPath, by rw [List.length_drop]; omega, ?_⟩
    rw [List.drop_drop, Nat.add_sub_cancel' hn]
    exact haccepts

/-! ### The invariant -/

/-- A path is accepted **later** on: with the rest of the glob from some place of the path on that
comes after the one given. -/
def AcceptsLater (glob : List Segment) (path : List String) (inGlob inPath : Nat) : Prop :=
  ∃ n, inPath < n ∧ n ≤ path.length ∧ Accepts (glob.drop inGlob) (path.drop n)

/-- A path is accepted with the last gap **standing for more** than it does; without a gap it is
not. -/
def AcceptsWithMore (glob : List Segment) (path : List String) : Option (Nat × Nat) → Prop
  | some (inGlob, inPath) => AcceptsLater glob path inGlob inPath
  | none => False

/-- What **holds** of a cursor all through a comparison. -/
structure Holds (glob : List Segment) (path : List String) (c : Cursor) : Prop where
  inGlob_le : c.inGlob ≤ glob.length
  inPath_le : c.inPath ≤ path.length
  /-- Since the last gap only segments have been passed that are no gaps. -/
  since : ∀ inGlob inPath, c.resume = some (inGlob, inPath) →
    ∃ block, glob.drop inGlob = block ++ glob.drop c.inGlob ∧ Segment.gap ∉ block ∧
      inGlob + block.length = c.inGlob ∧ inPath + block.length = c.inPath
  /-- A path that is accepted is accepted from here on, or with the last gap standing for more. -/
  accepts_iff : Accepts glob path ↔
    Accepts (glob.drop c.inGlob) (path.drop c.inPath) ∨ AcceptsWithMore glob path c.resume

/-- The invariant holds at the start. -/
theorem holds_start : Holds glob path start where
  inGlob_le := Nat.zero_le _
  inPath_le := Nat.zero_le _
  since inGlob inPath h := by cases h
  accepts_iff := (or_iff_left id).symm

/-- Later is after one segment more, or later than that. -/
theorem acceptsLater_iff {inGlob inPath : Nat} (hlt : inPath < path.length) :
    AcceptsLater glob path inGlob inPath ↔
      Accepts (glob.drop inGlob) (path.drop (inPath + 1)) ∨
        AcceptsLater glob path inGlob (inPath + 1) := by
  constructor
  · rintro ⟨n, hn, hle, haccepts⟩
    rcases Nat.lt_or_eq_of_le hn with hn | rfl
    · exact Or.inr ⟨n, hn, hle, haccepts⟩
    · exact Or.inl haccepts
  · rintro (haccepts | ⟨n, hn, hle, haccepts⟩)
    · exact ⟨inPath + 1, Nat.lt_succ_self _, hlt, haccepts⟩
    · exact ⟨n, by omega, hle, haccepts⟩

variable {c next : Cursor}

/-- **The exchange**: what is accepted with the last gap standing for more is accepted with the
rest of the glob later on in the path. -/
theorem Holds.acceptsLater (h : Holds glob path c)
    (hmore : AcceptsWithMore glob path c.resume) : AcceptsLater glob path c.inGlob c.inPath := by
  cases hresume : c.resume with
  | none =>
      rw [hresume] at hmore
      exact hmore.elim
  | some place =>
      obtain ⟨inGlob, inPath⟩ := place
      rw [hresume] at hmore
      obtain ⟨n, hlt, hle, hn⟩ := hmore
      obtain ⟨block, hdrop, hblock, -, hlength⟩ := h.since inGlob inPath hresume
      rw [hdrop] at hn
      obtain ⟨hfits, hrest⟩ := drop_of_accepts_append hblock hn
      rw [List.length_drop] at hfits
      rw [List.drop_drop] at hrest
      exact ⟨n + block.length, by omega, by omega, hrest⟩

/-- **Passing a gap** keeps the invariant: whatever the gap before could make good, this one can. -/
theorem Holds.gap (h : Holds glob path c) (hgap : glob[c.inGlob]? = some .gap) :
    Holds glob path ⟨c.inGlob + 1, c.inPath, some (c.inGlob + 1, c.inPath)⟩ := by
  refine ⟨(List.getElem?_eq_some_iff.mp hgap).1, h.inPath_le, ?_, ?_⟩
  · rintro _ _ ⟨⟩
    exact ⟨[], rfl, List.not_mem_nil, rfl, rfl⟩
  · have hmore : AcceptsWithMore glob path c.resume →
        Accepts (glob.drop c.inGlob) (path.drop c.inPath) := by
      intro hmore
      obtain ⟨n, hn, hle, haccepts⟩ := h.acceptsLater hmore
      obtain ⟨m, hm, hle, haccepts⟩ := (accepts_drop_gap_iff hgap hle).mp haccepts
      exact (accepts_drop_gap_iff hgap h.inPath_le).mpr ⟨m, by omega, hle, haccepts⟩
    rw [h.accepts_iff, or_iff_left_of_imp hmore, accepts_drop_gap_iff hgap h.inPath_le]
    constructor
    · rintro ⟨n, hn, hle, haccepts⟩
      rcases Nat.lt_or_eq_of_le hn with hn | rfl
      · exact Or.inr ⟨n, hn, hle, haccepts⟩
      · exact Or.inl haccepts
    · rintro (haccepts | ⟨n, hn, hle, haccepts⟩)
      · exact ⟨c.inPath, Nat.le_refl _, h.inPath_le, haccepts⟩
      · exact ⟨n, Nat.le_of_lt hn, hle, haccepts⟩

/-- **Passing a segment** that fits keeps the invariant: the last gap stays where it is. -/
theorem Holds.fits (h : Holds glob path c) (hx : path[c.inPath]? = some x)
    (hget : glob[c.inGlob]? = some s) (hs : s ≠ .gap) (hfits : s.fits x = true) :
    Holds glob path ⟨c.inGlob + 1, c.inPath + 1, c.resume⟩ := by
  obtain ⟨hinPath, hx⟩ := List.getElem?_eq_some_iff.mp hx
  obtain ⟨hinGlob, hget⟩ := List.getElem?_eq_some_iff.mp hget
  have hglob : glob.drop c.inGlob = s :: glob.drop (c.inGlob + 1) := by
    rw [List.drop_eq_getElem_cons hinGlob, hget]
  have hpath : path.drop c.inPath = x :: path.drop (c.inPath + 1) := by
    rw [List.drop_eq_getElem_cons hinPath, hx]
  refine ⟨hinGlob, hinPath, ?_, ?_⟩
  · intro inGlob inPath hresume
    obtain ⟨block, hdrop, hblock, hlengthGlob, hlengthPath⟩ := h.since inGlob inPath hresume
    refine ⟨block ++ [s], by rw [hdrop, hglob, List.append_cons], ?_, ?_, ?_⟩
    · simpa [hblock] using Ne.symm hs
    · rw [List.length_append, List.length_singleton, ← Nat.add_assoc, hlengthGlob]
    · rw [List.length_append, List.length_singleton, ← Nat.add_assoc, hlengthPath]
  · rw [h.accepts_iff, hglob, hpath, accepts_cons_cons_iff hs]
    simp only [hfits, true_and]

/-- **Going back** to the last gap keeps the invariant where nothing is accepted from here on. -/
theorem Holds.fallBack (h : Holds glob path c) (hlt : c.inPath < path.length)
    (hnot : ¬Accepts (glob.drop c.inGlob) (path.drop c.inPath))
    (hmove : Glob.fallBack c = .goOn next) : Holds glob path next := by
  rw [Glob.fallBack] at hmove
  split at hmove
  · next inGlob inPath hresume =>
    cases hmove
    obtain ⟨block, -, -, hlengthGlob, hlengthPath⟩ := h.since inGlob inPath hresume
    have hinGlob := h.inGlob_le
    refine ⟨by dsimp only; omega, by dsimp only; omega, ?_, ?_⟩
    · rintro _ _ ⟨⟩
      exact ⟨[], rfl, List.not_mem_nil, rfl, rfl⟩
    · rw [h.accepts_iff, or_iff_right hnot, hresume]
      exact acceptsLater_iff (by omega)
  · cases hmove

/-- Where there is **no gap to go back to** and nothing is accepted from here on, nothing is. -/
theorem Holds.verdict_of_fallBack (h : Holds glob path c)
    (hnot : ¬Accepts (glob.drop c.inGlob) (path.drop c.inPath)) {verdict : Bool}
    (hmove : Glob.fallBack c = .stop verdict) : verdict = true ↔ Accepts glob path := by
  rw [Glob.fallBack] at hmove
  split at hmove
  · cases hmove
  · next hresume =>
    cases hmove
    rw [h.accepts_iff, or_iff_right hnot, hresume]
    exact ⟨fun hfalse => Bool.noConfusion hfalse, False.elim⟩

/-- At **the end of the path** the last gap cannot stand for more, and the rest of the glob has to
be gaps. -/
theorem Holds.verdict_of_end (h : Holds glob path c) (hend : path[c.inPath]? = none) :
    (glob.drop c.inGlob).all (· = .gap) = true ↔ Accepts glob path := by
  have hlength : path.length ≤ c.inPath := List.getElem?_eq_none_iff.mp hend
  have hmore : ¬AcceptsWithMore glob path c.resume := by
    intro hmore
    obtain ⟨n, hlt, hle, -⟩ := h.acceptsLater hmore
    omega
  rw [h.accepts_iff, or_iff_left hmore, List.drop_eq_nil_of_le hlength, accepts_empty_iff]

/-- Nothing is accepted from where a segment is compared that does not fit, or none is left. -/
theorem not_accepts_of_mismatch (hx : path[c.inPath]? = some x)
    (hs : ∀ s, glob[c.inGlob]? = some s → s ≠ .gap ∧ s.fits x = false) :
    ¬Accepts (glob.drop c.inGlob) (path.drop c.inPath) := by
  obtain ⟨hinPath, hx⟩ := List.getElem?_eq_some_iff.mp hx
  rw [List.drop_eq_getElem_cons hinPath, hx]
  cases hget : glob[c.inGlob]? with
  | none =>
      rw [List.drop_eq_nil_of_le (List.getElem?_eq_none_iff.mp hget), accepts_nil_iff]
      exact List.cons_ne_nil _ _
  | some s =>
      obtain ⟨hne, hfits⟩ := hs s hget
      obtain ⟨hinGlob, hget⟩ := List.getElem?_eq_some_iff.mp hget
      rw [List.drop_eq_getElem_cons hinGlob, hget, accepts_cons_cons_iff hne, hfits]
      exact fun h => by cases h.1

/-! ### Comparisons -/

/-- What a cursor at which the invariant holds comes to: it goes on to one at which it holds
again, or stops with the right verdict. -/
theorem Holds.move (h : Holds glob path c) :
    (∃ next, Glob.move glob path c = .goOn next ∧ Holds glob path next) ∨
      ∃ verdict, Glob.move glob path c = .stop verdict ∧ (verdict = true ↔ Accepts glob path) := by
  rw [Glob.move]
  cases hx : path[c.inPath]? with
  | none =>
      dsimp only
      rw [if_neg (Nat.not_lt.mpr h.inGlob_le)]
      exact Or.inr ⟨_, rfl, h.verdict_of_end hx⟩
  | some x =>
      dsimp only
      have hback : (∀ s, glob[c.inGlob]? = some s → s ≠ .gap ∧ s.fits x = false) →
          (∃ next, Glob.fallBack c = .goOn next ∧ Holds glob path next) ∨
            ∃ verdict, Glob.fallBack c = .stop verdict ∧ (verdict = true ↔ Accepts glob path) := by
        intro hs
        have hnot := not_accepts_of_mismatch hx hs
        cases hmove : Glob.fallBack c with
        | goOn next =>
            exact Or.inl ⟨next, rfl, h.fallBack (List.getElem?_eq_some_iff.mp hx).1 hnot hmove⟩
        | stop verdict => exact Or.inr ⟨verdict, rfl, h.verdict_of_fallBack hnot hmove⟩
        | outOfRange =>
            rw [Glob.fallBack] at hmove
            split at hmove <;> cases hmove
      split
      · next hgap => exact Or.inl ⟨_, rfl, h.gap hgap⟩
      · next s hs hget =>
        split
        · next hfits => exact Or.inl ⟨_, rfl, h.fits hx hget hs hfits⟩
        · next hfits =>
          refine hback fun t ht => ?_
          obtain rfl := Option.some.inj (hget.symm.trans ht)
          exact ⟨hs, by simpa using hfits⟩
      · next hget => exact hback fun t ht => by cases hget.symm.trans ht

/-- A comparison **ends** from a cursor on, after a number of moves and with a verdict. -/
inductive Ends (glob : List Segment) (path : List String) : Cursor → Nat → Bool → Prop where
  | stop {c : Cursor} {verdict : Bool} :
      Glob.move glob path c = .stop verdict → Ends glob path c 0 verdict
  | goOn {c next : Cursor} {moves : Nat} {verdict : Bool} :
      Glob.move glob path c = .goOn next → Ends glob path next moves verdict →
        Ends glob path c (moves + 1) verdict

/-- The cursors that a comparison **visits** from its start on. -/
inductive Visited (glob : List Segment) (path : List String) : Cursor → Prop where
  | start : Visited glob path Glob.start
  | goOn {c next : Cursor} :
      Visited glob path c → Glob.move glob path c = .goOn next → Visited glob path next

/-- The invariant holds of **all cursors that are visited**. -/
theorem Visited.holds (h : Visited glob path c) : Holds glob path c := by
  induction h with
  | start => exact holds_start
  | goOn _ hmove ih =>
      rcases ih.move with ⟨next, hnext, hholds⟩ | ⟨verdict, hstop, -⟩
      · obtain rfl := Move.goOn.inj (hnext.symm.trans hmove)
        exact hholds
      · cases hstop.symm.trans hmove

/-- A comparison **never gets out of range**. -/
theorem Visited.move_ne_outOfRange (h : Visited glob path c) :
    Glob.move glob path c ≠ .outOfRange := by
  rcases h.holds.move with ⟨next, hnext, -⟩ | ⟨verdict, hstop, -⟩
  · rw [hnext]
    exact Move.noConfusion
  · rw [hstop]
    exact Move.noConfusion

/-- **Every comparison ends** with the right verdict, after no more moves than are left. -/
theorem Holds.exists_ends (h : Holds glob path c) :
    ∃ moves ≤ c.left glob path, ∃ verdict, Ends glob path c moves verdict ∧
      (verdict = true ↔ Accepts glob path) := by
  induction hleft : c.left glob path using Nat.strongRecOn generalizing c with
  | ind left ih =>
      subst hleft
      rcases h.move with ⟨next, hnext, hholds⟩ | ⟨verdict, hstop, hverdict⟩
      · have hlt := left_lt_of_move hnext
        obtain ⟨moves, hle, verdict, hends, hverdict⟩ := ih _ hlt hholds rfl
        exact ⟨moves + 1, by omega, verdict, .goOn hnext hends, hverdict⟩
      · exact ⟨0, Nat.zero_le _, verdict, .stop hstop, hverdict⟩

/-- A comparison that ends has its verdict. -/
theorem Ends.run_eq {moves : Nat} {verdict : Bool} (h : Ends glob path c moves verdict) :
    run glob path c = some verdict := by
  induction h with
  | stop hmove =>
      rw [run]
      split
      · next hother => cases hother.symm.trans hmove
      · next hother =>
        cases hother.symm.trans hmove
        rfl
      · next hother => cases hother.symm.trans hmove
  | goOn hmove _ ih =>
      rw [run]
      split
      · next hother =>
        cases hother.symm.trans hmove
        exact ih
      · next hother => cases hother.symm.trans hmove
      · next hother => cases hother.symm.trans hmove

/-- A comparison that ends decides what is covered. -/
theorem Ends.covers_eq {moves : Nat} {verdict : Bool} (h : Ends glob path start moves verdict) :
    covers glob path = verdict := by
  rw [covers, h.run_eq]
  simp

/-- At the start fewer moves are left than there are pairs of places in the path and the glob. -/
theorem left_start_lt (glob : List Segment) (path : List String) :
    start.left glob path < (path.length + 1) * (glob.length + 1) := by
  rw [Nat.add_mul, Nat.one_mul]
  simp only [Cursor.left, start, Cursor.settled, Nat.sub_zero]
  omega

/-- **A path is covered exactly when the glob accepts it.** -/
theorem covers_iff : covers glob path = true ↔ Accepts glob path := by
  have hstart : Holds glob path start := holds_start
  obtain ⟨moves, -, verdict, hends, hverdict⟩ := hstart.exists_ends
  rw [hends.covers_eq, hverdict]

end Glob

end BearerGate
