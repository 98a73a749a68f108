import BearerGate.Text.Pieces

/-!
# Path Globs

A glob is a list of segments that a path is compared with, segment by segment. A wildcard stands
for one segment, whatever it holds; a gap stands for any number of segments, also none.

A comparison goes through glob and path side by side. At a gap it notes the place and goes on as
if the gap stood for nothing. Where a segment does not fit, it goes back to the gap that it met
last, lets that one stand for one segment more, and tries again from there. One place is enough:
whatever follows a gap that was met later fits after an earlier one only if it fits here too, so
no gap before the last is ever taken up again.
-/

namespace BearerGate

/-- A segment of a glob. -/
inductive Segment where
  | literal (text : String)
  | wildcard
  | gap
  deriving DecidableEq

/-- Whether one segment of a path fits. A gap is never compared with a single segment. -/
def Segment.fits : Segment → String → Bool
  | .literal text, segment => text = segment
  | _, _ => true

namespace Glob

/-- The segments of a path. One leading slash does not count; empty segments do. -/
def segmentsOf (path : List Char) : List String :=
  let path := match path with
    | '/' :: rest => rest
    | _ => path
  (Text.splitAt '/' path).map String.ofList

/-- Where a comparison stands: how many segments of the glob and of the path lie behind it and,
once a gap has been met, how many lie behind where it is taken up again, what the gap stands for
included. -/
structure Cursor where
  inGlob : Nat
  inPath : Nat
  resume : Option (Nat × Nat)
  deriving DecidableEq

/-- What comes next in a comparison. -/
inductive Move where
  | goOn (next : Cursor)
  | stop (verdict : Bool)
  | outOfRange
  deriving DecidableEq

/-- Where a comparison begins. -/
def start : Cursor := ⟨0, 0, none⟩

/-- What comes next where a segment does not fit: the last gap stands for one segment more. -/
def fallBack (c : Cursor) : Move :=
  match c.resume with
  | some (inGlob, inPath) => .goOn ⟨inGlob, inPath + 1, some (inGlob, inPath + 1)⟩
  | none => .stop false

/-- What comes next in a comparison. At the end of the path the rest of the glob has to be gaps;
that rest is cut off the glob, and there is none past the end of it. -/
def move (glob : List Segment) (path : List String) (c : Cursor) : Move :=
  match path[c.inPath]? with
  | none =>
    if glob.length < c.inGlob then .outOfRange
    else .stop ((glob.drop c.inGlob).all (· = .gap))
  | some x =>
    match glob[c.inGlob]? with
    | some .gap => .goOn ⟨c.inGlob + 1, c.inPath, some (c.inGlob + 1, c.inPath)⟩
    | some s =>
      if s.fits x then .goOn ⟨c.inGlob + 1, c.inPath + 1, c.resume⟩
      else fallBack c
    | none => fallBack c

/-! ### How long a comparison takes -/

/-- The part of the path that is settled for good: what lies before the place to go back to. -/
def Cursor.settled (c : Cursor) : Nat :=
  match c.resume with
  | some (_, inPath) => min inPath c.inPath
  | none => 0

/-- A bound on the moves that are left: as long as nothing more of the path is settled, each move
goes on in the glob. -/
def Cursor.left (glob : List Segment) (path : List String) (c : Cursor) : Nat :=
  (path.length - c.settled) * (glob.length + 1) + (glob.length - c.inGlob)

/-- Fewer moves are left where as much is settled and the glob has been gone on in. -/
theorem Cursor.left_lt_of_inGlob {glob : List Segment} {path : List String} {c next : Cursor}
    (hsettled : c.settled ≤ next.settled) (hlt : c.inGlob < glob.length)
    (hnext : next.inGlob = c.inGlob + 1) : next.left glob path < c.left glob path := by
  have hpath : path.length - next.settled ≤ path.length - c.settled := by omega
  have hmul := Nat.mul_le_mul_right (glob.length + 1) hpath
  rw [left, left]
  omega

/-- Fewer moves are left where more is settled. -/
theorem Cursor.left_lt_of_settled {glob : List Segment} {path : List String} {c next : Cursor}
    (hlt : c.settled < path.length) (hsettled : c.settled < next.settled) :
    next.left glob path < c.left glob path := by
  have hpath : path.length - next.settled + 1 ≤ path.length - c.settled := by omega
  have hmul := Nat.mul_le_mul_right (glob.length + 1) hpath
  rw [Nat.add_mul] at hmul
  rw [left, left]
  omega

/-- Going back settles one segment more of the path. -/
theorem left_lt_of_fallBack {glob : List Segment} {path : List String} {c next : Cursor}
    (hpath : c.inPath < path.length) (h : fallBack c = .goOn next) :
    next.left glob path < c.left glob path := by
  rw [fallBack] at h
  split at h
  · next inGlob inPath hresume =>
    cases h
    have hsettled : c.settled = min inPath c.inPath := by rw [Cursor.settled, hresume]
    refine Cursor.left_lt_of_settled (by omega) ?_
    rw [hsettled]
    simp only [Cursor.settled]
    omega
  · cases h

/-- **Every move leaves fewer moves.** -/
theorem left_lt_of_move {glob : List Segment} {path : List String} {c next : Cursor}
    (h : move glob path c = .goOn next) : next.left glob path < c.left glob path := by
  rw [move] at h
  split at h
  · split at h <;> cases h
  · next x hx =>
    have hpath : c.inPath < path.length := (List.getElem?_eq_some_iff.mp hx).1
    split at h
    · next hgap =>
      have hglob : c.inGlob < glob.length := (List.getElem?_eq_some_iff.mp hgap).1
      cases h
      refine Cursor.left_lt_of_inGlob ?_ hglob rfl
      simp only [Cursor.settled]
      split <;> omega
    · next s _ hs =>
      have hglob : c.inGlob < glob.length := (List.getElem?_eq_some_iff.mp hs).1
      split at h
      · cases h
        refine Cursor.left_lt_of_inGlob ?_ hglob rfl
        simp only [Cursor.settled]
        split <;> omega
      · exact left_lt_of_fallBack hpath h
    · exact left_lt_of_fallBack hpath h

/-- The verdict of a comparison from a cursor on; `none` where it gets out of range. -/
def run (glob : List Segment) (path : List String) (c : Cursor) : Option Bool :=
  match _h : move glob path c with
  | .goOn next => run glob path next
  | .stop verdict => some verdict
  | .outOfRange => none
termination_by c.left glob path
decreasing_by exact left_lt_of_move _h

/-- Whether a path fits a glob. -/
def covers (glob : List Segment) (path : List String) : Bool :=
  run glob path start = some true

end Glob

end BearerGate
