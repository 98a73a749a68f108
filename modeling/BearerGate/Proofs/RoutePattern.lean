import BearerGate.Proofs.Glob
import BearerGate.Proofs.Text.Padding
import BearerGate.RoutePattern

/-!
# The Requests of a Route Pattern

A written pattern can be read without being parsed: it has a method or none, and the segments of
its path each stand for segments of a request's path, by the way they are written. This module
says which requests belong to a pattern in these terms, and that the comparison which decides it
always comes to an end and never leaves the pattern or the path.

## Main results

* `Glob.segmentsOf_eq_iff`: the segments of a path are what it is made of between its slashes.
* `RoutePattern.parse_eq_ok_iff`: the patterns that texts describe.
* `RoutePattern.covers_language`: which requests a pattern covers, and how that is found out.
-/

namespace BearerGate

/-! ### The segments of a path -/

/-- A list holds the **segments** of a path: with slashes between them they are the path, one
leading slash apart, and none of them has a slash inside. -/
structure Glob.AreSegments (segments : List String) (path : List Char) : Prop where
  ne_nil : segments ≠ []
  slash_notMem : ∀ x ∈ segments, '/' ∉ x.toList
  joined : path = '/' :: Text.joinWith ['/'] (segments.map String.toList) ∨
    path.head? ≠ some '/' ∧ path = Text.joinWith ['/'] (segments.map String.toList)

/-- The pieces of a text between slashes, as texts, are the ones that make it up. -/
theorem Glob.splitAt_slash_eq_iff {path : List Char} {segments : List String} :
    (Text.splitAt '/' path).map String.ofList = segments ↔ segments ≠ [] ∧
      (∀ x ∈ segments, '/' ∉ x.toList) ∧
        path = Text.joinWith ['/'] (segments.map String.toList) := by
  constructor
  · rintro rfl
    refine ⟨?_, ?_, ?_⟩
    · rw [ne_eq, List.map_eq_nil_iff]
      exact Text.splitWhen_ne_nil (· == '/') path
    · intro x hx hslash
      obtain ⟨piece, hpiece, rfl⟩ := List.mem_map.mp hx
      rw [String.toList_ofList] at hslash
      exact (Text.of_mem_splitAt hpiece hslash).2 rfl
    · rw [List.map_map, Function.comp_def]
      simp only [String.toList_ofList, List.map_id', Text.joinWith_splitAt]
  · rintro ⟨hne, hslash, rfl⟩
    rw [Text.splitAt_joinWith (by simpa using hne) (by simpa using hslash), List.map_map,
      Function.comp_def]
    simp only [String.ofList_toList, List.map_id']

/-- The **segments of a path** are the one list of segments that it has. -/
theorem Glob.segmentsOf_eq_iff {path : List Char} {segments : List String} :
    segmentsOf path = segments ↔ AreSegments segments path := by
  unfold segmentsOf
  dsimp only
  split
  · next rest =>
    rw [splitAt_slash_eq_iff]
    constructor
    · rintro ⟨hne, hslash, rfl⟩
      exact ⟨hne, hslash, Or.inl rfl⟩
    · rintro ⟨hne, hslash, hjoined | ⟨hhead, -⟩⟩
      · exact ⟨hne, hslash, (List.cons.inj hjoined).2⟩
      · exact absurd rfl hhead
  · next hhead =>
    rw [splitAt_slash_eq_iff]
    constructor
    · rintro ⟨hne, hslash, hjoined⟩
      refine ⟨hne, hslash, Or.inr ⟨?_, hjoined⟩⟩
      intro hslash
      obtain ⟨rest, hrest⟩ := List.head?_eq_some_iff.mp hslash
      exact hhead rest hrest
    · rintro ⟨hne, hslash, hjoined | ⟨-, hjoined⟩⟩
      · exact absurd hjoined (hhead _)
      · exact ⟨hne, hslash, hjoined⟩

/-! ### Written segments -/

namespace RoutePattern

/-- A written segment is a **wildcard**: an asterisk, or anything in braces. -/
def IsWildcard (text : String) : Prop :=
  text = "*" ∨ ∃ inner, text.toList = '\x7b' :: inner ++ ['\x7d']

/-- What a written segment **stands for**: two asterisks for any segments, a wildcard for any one
segment, and every other for itself. -/
inductive Stands : String → List String → Prop where
  | itself {text : String} : text ≠ "**" → ¬IsWildcard text → Stands text [text]
  | one {text : String} (x : String) : IsWildcard text → Stands text [x]
  | any (run : List String) : Stands "**" run

/-- A text is in braces exactly when it starts with the one and ends with the other. -/
theorem exists_inner_iff {cs : List Char} :
    (∃ inner, cs = '\x7b' :: inner ++ ['\x7d']) ↔
      (cs.head? == some '\x7b' && cs.getLast? == some '\x7d') = true := by
  simp only [Bool.and_eq_true, beq_iff_eq]
  constructor
  · rintro ⟨inner, rfl⟩
    exact ⟨rfl, by rw [List.getLast?_append]; rfl⟩
  · rintro ⟨hhead, hlast⟩
    obtain ⟨rest, rfl⟩ := List.head?_eq_some_iff.mp hhead
    obtain ⟨front, hfront⟩ := List.getLast?_eq_some_iff.mp hlast
    cases front with
    | nil => cases hfront
    | cons c front =>
        obtain ⟨rfl, rfl⟩ := List.cons.inj hfront
        exact ⟨front, rfl⟩

/-- A written segment stands for what **the segment that it is read as** stands for. -/
theorem stands_segmentOf_iff {text : String} {run : List String} :
    (segmentOf text).Stands run ↔ Stands text run := by
  by_cases hgap : text = "**"
  · subst hgap
    have hwild : ¬IsWildcard "**" := by
      rintro (h | h)
      · exact absurd h (by decide)
      · exact absurd (exists_inner_iff.mp h) (by decide)
    rw [segmentOf, if_pos rfl]
    exact ⟨fun _ => .any run, fun _ => .gap run⟩
  · by_cases hwild : IsWildcard text
    · have hsegment : segmentOf text = .wildcard := by
        rw [segmentOf, if_neg hgap]
        rcases hwild with h | h
        · rw [if_pos h]
        · rw [if_pos (exists_inner_iff.mp h), ite_self]
      rw [hsegment]
      constructor
      · rintro ⟨⟩
        next x => exact .one x hwild
      · rintro (⟨-, hnot⟩ | ⟨x, -⟩ | ⟨⟩)
        · exact absurd hwild hnot
        · exact .wildcard x
        · exact absurd rfl hgap
    · have hsegment : segmentOf text = .literal text := by
        rw [segmentOf, if_neg hgap, if_neg fun h => hwild (Or.inl h),
          if_neg fun h => hwild (Or.inr (exists_inner_iff.mpr h))]
      rw [hsegment]
      constructor
      · rintro ⟨⟩
        exact .itself hgap hwild
      · rintro (⟨-, -⟩ | ⟨x, h⟩ | ⟨⟩)
        · exact .literal text
        · exact absurd h hwild
        · exact absurd rfl hgap

/-! ### Written patterns -/

/-- A text is a pattern **for a method**, with a written path: its first word is the path and there
is no other, or its first word is the method in any letter case and its second word the path. -/
def IsFor (text : List Char) (method : String) (path : List Char) : Prop :=
  Text.words text = [path] ∨ ∃ word more, Text.words text = word :: path :: more ∧
    method = String.ofList (word.map Http.upperChar)

/-- A pattern is built from an absolute path, of whose segments its own are read. -/
theorem build_eq_ok_iff {method : Option String} {path : List Char} {pattern : RoutePattern} :
    build method path = .ok pattern ↔ path.head? = some '/' ∧
      pattern = ⟨method, (Glob.segmentsOf path).map segmentOf, String.ofList path⟩ := by
  rw [build]
  by_cases h : path.head? = some '/'
  · simp [h, eq_comm]
  · simp [h]

/-- The **patterns that texts describe**: one word is a path, of two or more words the first is a
method and the second a path. -/
theorem parse_eq_ok_iff {text : List Char} {pattern : RoutePattern} :
    parse text = .ok pattern ↔
      (∃ path, Text.words text = [path] ∧ build none path = .ok pattern) ∨
        ∃ word path more, Text.words text = word :: path :: more ∧
          Http.isToken (word.map Http.upperChar) = true ∧
          build (some (String.ofList (word.map Http.upperChar))) path = .ok pattern := by
  rw [parse]
  split
  · next hwords => simp [hwords]
  · next path hwords => simp [hwords]
  · next word path more hwords =>
    rw [Http.method?]
    by_cases htoken : Http.isToken (word.map Http.upperChar) = true
    · simp [hwords, htoken]
    · simp [hwords, htoken]

/-- Whether a pattern covers a request is a matter of its method and of the language of its
segments. -/
theorem covers_iff {pattern : RoutePattern} {method path : String} :
    pattern.covers method path = true ↔ (∀ m ∈ pattern.method, m = method) ∧
      Glob.Accepts pattern.segments (Glob.segmentsOf path.toList) := by
  rw [covers, Bool.and_eq_true, Glob.covers_iff]
  cases pattern.method <;> simp

/-- A pattern that is built from a method and a path covers the requests of the method, or of any,
whose path is in the language of the written segments. -/
theorem covers_iff_of_build {written : List Char} {name : Option String} {pattern : RoutePattern}
    (h : build name written = .ok pattern) {method path : String} :
    pattern.covers method path = true ↔ (∀ m ∈ name, m = method) ∧
      ∃ symbols segments, Glob.AreSegments symbols written ∧
        Glob.AreSegments segments path.toList ∧ Glob.Language Stands symbols segments := by
  obtain ⟨-, rfl⟩ := build_eq_ok_iff.mp h
  rw [covers_iff]
  dsimp only
  rw [Glob.Accepts, Glob.language_map_iff fun _ _ => stands_segmentOf_iff]
  simp only [← Glob.segmentsOf_eq_iff, exists_eq_left', exists_and_left]

/-- A text of one word is for any method, and its word is the path. -/
theorem isFor_iff_of_word {text written other : List Char} {method : String}
    (hwords : Text.words text = [written]) : IsFor text method other ↔ other = written := by
  rw [IsFor, hwords]
  simp [eq_comm]

/-- A text of more words is for the method and the path that the first two are. -/
theorem isFor_iff_of_words {text word written other : List Char} {more : List (List Char)}
    {method : String} (hwords : Text.words text = word :: written :: more) :
    IsFor text method other ↔
      String.ofList (word.map Http.upperChar) = method ∧ other = written := by
  rw [IsFor, hwords]
  constructor
  · rintro (h | ⟨first, rest, h, rfl⟩)
    · cases h
    · obtain ⟨rfl, htail⟩ := List.cons.inj h
      exact ⟨rfl, (List.cons.inj htail).1.symm⟩
  · rintro ⟨rfl, rfl⟩
    exact Or.inr ⟨word, more, rfl, rfl⟩

/-- A pattern that a text describes covers the requests of a method that it is for and of a path
in the language of the written segments. -/
theorem covers_iff_of_parse {text : List Char} {pattern : RoutePattern}
    (h : parse text = .ok pattern) {method path : String} :
    pattern.covers method path = true ↔
      ∃ written symbols segments, IsFor text method written ∧
        Glob.AreSegments symbols written ∧ Glob.AreSegments segments path.toList ∧
        Glob.Language Stands symbols segments := by
  rcases parse_eq_ok_iff.mp h with ⟨written, hwords, hbuild⟩ |
    ⟨word, written, more, hwords, -, hbuild⟩
  · rw [covers_iff_of_build hbuild]
    simp [isFor_iff_of_word hwords]
  · rw [covers_iff_of_build hbuild]
    simp [isFor_iff_of_words hwords]

/-- **Which requests a pattern covers.** A text that is a pattern covers a request exactly when it
is for the method of the request, or for any, and the segments of the request's path are in the
language of the written segments: two asterisks stand for any number of segments, also none, one
asterisk or a segment in braces for one segment, whatever it holds, and any other segment for
itself.

The comparison by which that is found out comes to an end for every glob and every path, with the
verdict that going back over all gaps would have; it makes fewer moves than there are pairs of a
place in the glob and a place in the path, and at no cursor that it visits is anything out of
range. -/
theorem covers_language :
    (∀ text pattern, parse text = .ok pattern → ∀ method path : String,
      (pattern.covers method path = true ↔
        ∃ written symbols segments, IsFor text method written ∧
          Glob.AreSegments symbols written ∧ Glob.AreSegments segments path.toList ∧
          Glob.Language Stands symbols segments)) ∧
    ∀ (glob : List Segment) (path : List String),
      (∃ moves < (path.length + 1) * (glob.length + 1), ∃ verdict,
        Glob.Ends glob path Glob.start moves verdict ∧ Glob.covers glob path = verdict ∧
        (verdict = true ↔ Glob.Language Segment.Stands glob path)) ∧
      ∀ c, Glob.Visited glob path c → c.inGlob ≤ glob.length ∧ c.inPath ≤ path.length ∧
        Glob.move glob path c ≠ .outOfRange := by
  refine ⟨fun text pattern hparse method path => covers_iff_of_parse hparse,
    fun glob path => ⟨?_, fun c hc => ?_⟩⟩
  · have hstart : Glob.Holds glob path Glob.start := Glob.holds_start
    obtain ⟨moves, hle, verdict, hends, hverdict⟩ := hstart.exists_ends
    exact ⟨moves, Nat.lt_of_le_of_lt hle (Glob.left_start_lt glob path), verdict, hends,
      hends.covers_eq, hverdict⟩
  · exact ⟨hc.holds.inGlob_le, hc.holds.inPath_le, hc.move_ne_outOfRange⟩

/-- A pattern with two gaps covers a path with an empty segment and a second place where what
stands between the gaps fits. -/
theorem covers_language_two_gaps :
    parse "get /**/\x7bid\x7d/b/** more".toList =
        .ok ⟨some "GET", [.gap, .wildcard, .literal "b", .gap], "/**/\x7bid\x7d/b/**"⟩ ∧
      ∃ written symbols segments, IsFor "get /**/\x7bid\x7d/b/** more".toList "GET" written ∧
        Glob.AreSegments symbols written ∧
        Glob.AreSegments segments "/b/b//b/".toList ∧
        Glob.Language Stands symbols segments := by
  have hparse : parse "get /**/\x7bid\x7d/b/** more".toList =
      .ok ⟨some "GET", [.gap, .wildcard, .literal "b", .gap], "/**/\x7bid\x7d/b/**"⟩ := by
    decide +kernel
  refine ⟨hparse, (covers_language.1 _ _ hparse "GET" "/b/b//b/").mp ?_⟩
  decide +kernel

end RoutePattern

end BearerGate
