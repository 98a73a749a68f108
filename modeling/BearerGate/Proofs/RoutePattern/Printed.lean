import Mathlib.Data.List.Forall2
import BearerGate.Proofs.Outcome
import BearerGate.Proofs.RoutePattern
import BearerGate.Proofs.Text.Ascii

/-!
# Printed Route Patterns

A pattern is printed as its method, in capitals, a space and its path, or as the path alone. What is
printed is one way to spell the pattern among many: the letter case of a method does not count, nor
do blanks around and between the words, words after the path, or blank entries of a list. All ways
to spell a pattern are read as that pattern, with nothing lost, and so is what is printed of it.

## Main results

* `RoutePattern.SpellAlike.parse`: texts that spell the same pattern are read alike.
* `RoutePattern.spellAlike_render`: what is printed of a pattern spells what it was read from.
* `RoutePattern.parseList_eq_ok_iff`: the patterns of a list are those of its entries.
* `RoutePattern.reads_back`: patterns and lists of them are read back from what is printed.
-/

namespace BearerGate

/-! ### Methods in capitals -/

/-- A token is visible. -/
theorem Http.isVisible_of_isToken {cs : List Char} (h : isToken cs = true) :
    Text.IsVisible cs := by
  simp only [isToken, Bool.and_eq_true, Bool.not_eq_true', List.isEmpty_eq_false_iff,
    List.all_eq_true] at h
  refine ⟨h.1, fun c hc => ?_⟩
  have hmarks : ∀ d ∈ tokenMarks, 0x21 ≤ d.toNat ∧ d.toNat ≤ 0x7E := by simp [tokenMarks]
  have htoken := h.2 c hc
  simp only [isTokenChar, isAlphanumeric, Bool.or_eq_true, Bool.and_eq_true, decide_eq_true_eq,
    List.contains_iff_mem, Char.le_def, UInt32.le_iff_toNat_le] at htoken
  rcases htoken with ((⟨hlow, hhigh⟩ | ⟨hlow, hhigh⟩) | ⟨hlow, hhigh⟩) | hmark
  · exact ⟨Nat.le_trans (by decide) hlow, Nat.le_trans hhigh (by decide)⟩
  · exact ⟨Nat.le_trans (by decide) hlow, Nat.le_trans hhigh (by decide)⟩
  · exact ⟨Nat.le_trans (by decide) hlow, Nat.le_trans hhigh (by decide)⟩
  · exact hmarks c hmark

/-- A capital stays as it is. -/
theorem Http.upperChar_upperChar (c : Char) : upperChar (upperChar c) = upperChar c := by
  rw [upperChar.eq_1 c]
  split
  · next h =>
    have hlow : 97 ≤ c.toNat := UInt32.le_iff_toNat_le.mp h.1
    have hhigh : c.toNat ≤ 122 := UInt32.le_iff_toNat_le.mp h.2
    have hupper : (Char.ofNat (c.toNat - 32)).toNat = c.toNat - 32 :=
      Utf8.toNat_charOfNat (by omega)
    refine if_neg fun hagain => ?_
    have hagain : 97 ≤ (Char.ofNat (c.toNat - 32)).toNat := UInt32.le_iff_toNat_le.mp hagain.1
    omega
  · next h => exact if_neg h

namespace RoutePattern

variable {cs ds text : List Char} {pattern : RoutePattern}

/-! ### Spellings -/

/-- Two texts **spell the same pattern**: both are a path with blanks around it, or both start with
the same method, in whatever letter case, and the same path. -/
inductive SpellAlike : List Char → List Char → Prop where
  | path {path cs ds : List Char} (hword : Text.IsWord path) (hcs : Text.Pads path cs)
      (hds : Text.Pads path ds) : SpellAlike cs ds
  | method {word word' path cs ds : List Char}
      (hcase : word.map Http.upperChar = word'.map Http.upperChar)
      (hcs : Text.StartsWith word path cs) (hds : Text.StartsWith word' path ds) :
      SpellAlike cs ds

/-- Nothing but the words of a text is looked at. -/
theorem parse_congr (h : Text.words cs = Text.words ds) : parse cs = parse ds := by
  rw [parse, parse, h]

/-- Texts that spell the same pattern are **read alike**. -/
theorem SpellAlike.parse (h : SpellAlike cs ds) (hparse : parse cs = .ok pattern) :
    RoutePattern.parse ds = .ok pattern := by
  cases h with
  | path hword hcs hds =>
      rw [← hparse]
      exact parse_congr (hds.words_eq.trans hcs.words_eq.symm)
  | method hcase hcs hds =>
      obtain ⟨more, hcs⟩ := Text.startsWith_iff.mp hcs
      obtain ⟨more', hds⟩ := Text.startsWith_iff.mp hds
      rcases parse_eq_ok_iff.mp hparse with ⟨_, hone, -⟩ | ⟨_, _, _, hwords, htoken, hbuild⟩
      · rw [hcs] at hone
        cases hone
      · rw [hcs] at hwords
        cases hwords
        exact parse_eq_ok_iff.mpr
          (Or.inr ⟨_, _, more', hds, by rwa [← hcase], by rwa [← hcase]⟩)

/-- What is **printed of a pattern** that was read: the only word of the text, or the first word in
capitals and the second, with a space between them. -/
theorem render_of_parse (h : parse text = .ok pattern) :
    Text.words text = [pattern.render.toList] ∨
      ∃ word path, Text.StartsWith word path text ∧
        Http.isToken (word.map Http.upperChar) = true ∧
        pattern.render.toList = word.map Http.upperChar ++ ' ' :: path := by
  rcases parse_eq_ok_iff.mp h with ⟨path, hwords, hbuild⟩ |
    ⟨word, path, more, hwords, htoken, hbuild⟩
  · obtain ⟨-, rfl⟩ := build_eq_ok_iff.mp hbuild
    exact Or.inl (by simpa [render] using hwords)
  · obtain ⟨-, rfl⟩ := build_eq_ok_iff.mp hbuild
    exact Or.inr ⟨word, path, Text.startsWith_iff.mpr ⟨more, hwords⟩, htoken, by simp [render]⟩

/-- What is printed of a pattern **spells the pattern** that it was read as. -/
theorem spellAlike_render (h : parse text = .ok pattern) :
    SpellAlike text pattern.render.toList := by
  rcases render_of_parse h with hwords | ⟨word, path, hstarts, htoken, hprinted⟩
  · obtain ⟨hword, hpads⟩ := Text.words_eq_singleton_iff.mp hwords
    exact .path hword hpads (.refl _)
  · have hcapitals : Text.IsWord (word.map Http.upperChar) :=
      (Http.isVisible_of_isToken htoken).isWord
    rw [hprinted]
    refine .method ?_ hstarts (Text.startsWith_of_isWord hcapitals hstarts.2.1)
    rw [List.map_map]
    exact List.map_congr_left fun c _ => (Http.upperChar_upperChar c).symm

/-- A pattern is **read back** from what is printed of it. -/
theorem parse_render (h : parse text = .ok pattern) : parse pattern.render.toList = .ok pattern :=
  (spellAlike_render h).parse h

/-! ### Lists -/

/-- The pieces of a comma-separated list that are not blank. -/
def filledPieces (cs : List Char) : List (List Char) :=
  (Text.splitAt ',' cs).filter fun entry => !Text.isBlankText entry

/-- Two lists **spell the same patterns**: piece by piece, in order, blank
pieces apart. -/
def ListsAlike (cs ds : List Char) : Prop :=
  List.Forall₂ SpellAlike (filledPieces cs) (filledPieces ds)

/-- The patterns of a list of entries are those of the entries, one by one. -/
theorem parseAll_eq_ok_iff {entries : List (List Char)} {patterns : List RoutePattern} :
    parseAll entries = .ok patterns ↔
      List.Forall₂ (fun entry pattern => parse entry = .ok pattern) entries patterns := by
  induction entries generalizing patterns with
  | nil => simp [parseAll, eq_comm]
  | cons entry entries ih =>
      rw [parseAll, bind_eq_ok_iff, List.forall₂_cons_left_iff]
      constructor
      · rintro ⟨pattern, hpattern, h⟩
        obtain ⟨more, hmore, hall⟩ := bind_eq_ok_iff.mp h
        cases hall
        exact ⟨pattern, more, hpattern, ih.mp hmore, rfl⟩
      · rintro ⟨pattern, more, hpattern, hmore, rfl⟩
        refine ⟨pattern, hpattern, bind_eq_ok_iff.mpr ⟨more, ih.mpr hmore, rfl⟩⟩

/-- Each pattern of a list is that of one of the pieces. -/
theorem exists_piece_of_forall₂ {pieces : List (List Char)} {patterns : List RoutePattern}
    (h : List.Forall₂ (fun piece pattern => parse piece = .ok pattern) pieces patterns)
    (hpattern : pattern ∈ patterns) : ∃ piece ∈ pieces, parse piece = .ok pattern := by
  induction h with
  | nil => cases hpattern
  | cons hparse _ ih =>
      rcases List.mem_cons.mp hpattern with rfl | hpattern
      · exact ⟨_, List.mem_cons_self, hparse⟩
      · obtain ⟨piece, hpiece, hparse⟩ := ih hpattern
        exact ⟨piece, List.mem_cons_of_mem _ hpiece, hparse⟩

/-- What is read of a list are its pieces that are not blank, trimmed. -/
theorem entries_eq_map_trim (cs : List Char) :
    Text.entries cs = (filledPieces cs).map Text.trim := by
  rw [Text.entries, List.filter_map, filledPieces]
  congr 1
  refine List.filter_congr fun piece _ => ?_
  rw [Function.comp_apply, Text.isEmpty_trim]

/-- The **patterns of a list** are those of its pieces that are not blank, in order. -/
theorem parseList_eq_ok_iff {list : String} {patterns : List RoutePattern} :
    parseList list = .ok patterns ↔
      List.Forall₂ (fun piece pattern => parse piece = .ok pattern) (filledPieces list.toList)
        patterns := by
  rw [parseList, parseAll_eq_ok_iff, entries_eq_map_trim, List.forall₂_map_left_iff]
  simp only [parse_congr (Text.pads_trim _).words_eq.symm]

/-- Lists that spell the same patterns are **read alike**. -/
theorem ListsAlike.parseList {list other : String} {patterns : List RoutePattern}
    (h : ListsAlike list.toList other.toList) (hparse : parseList list = .ok patterns) :
    RoutePattern.parseList other = .ok patterns := by
  rw [parseList_eq_ok_iff] at hparse ⊢
  have hpieces : ∀ pieces pieces' : List (List Char), List.Forall₂ SpellAlike pieces pieces' →
      ∀ patterns, List.Forall₂ (fun piece pattern => parse piece = .ok pattern) pieces patterns →
        List.Forall₂ (fun piece pattern => parse piece = .ok pattern) pieces' patterns := by
    intro pieces pieces' halike
    induction halike with
    | nil => exact fun patterns hall => hall
    | cons hpiece _ ih =>
        rintro _ (_ | ⟨hpattern, hrest⟩)
        exact .cons (hpiece.parse hpattern) (ih _ hrest)
  exact hpieces _ _ h _ hparse

/-- What is printed of a pattern holds no comma if the text that it was read from holds none. -/
theorem comma_notMem_render (h : parse text = .ok pattern) (hcomma : ',' ∉ text) :
    ',' ∉ pattern.render.toList := by
  rcases render_of_parse h with hwords | ⟨word, path, hstarts, htoken, hprinted⟩
  · obtain ⟨-, lead, tail, rfl, -⟩ := Text.words_eq_singleton_iff.mp hwords
    simp only [List.mem_append, not_or] at hcomma
    exact hcomma.1.2
  · obtain ⟨-, -, lead, gap, rest, rfl, -⟩ := hstarts
    simp only [List.mem_append, not_or] at hcomma
    rw [Http.isToken, Bool.and_eq_true, List.all_eq_true] at htoken
    rw [hprinted, List.mem_append, List.mem_cons, not_or, not_or]
    refine ⟨fun hmethod => ?_, by decide, hcomma.1.2⟩
    -- A comma in the method would be a character of a token.
    exact absurd (htoken.2 _ hmethod) (by decide)

/-- What is printed of a pattern is not blank. -/
theorem isBlankText_render (h : parse text = .ok pattern) :
    Text.isBlankText pattern.render.toList = false := by
  rw [← Bool.not_eq_true, ← Text.words_eq_nil_iff]
  intro hnil
  have hparse := parse_render h
  rw [parse, hnil] at hparse
  cases hparse

/-- The pieces of a list that is made of texts without commas are the texts. -/
theorem filledPieces_joinWith {pieces : List (List Char)}
    (h : ∀ piece ∈ pieces, ',' ∉ piece ∧ Text.isBlankText piece = false) :
    filledPieces (Text.joinWith [','] pieces) = pieces := by
  rcases eq_or_ne pieces [] with rfl | hne
  · rfl
  · rw [filledPieces, Text.splitAt_joinWith hne fun piece hpiece => (h piece hpiece).1,
      List.filter_eq_self]
    intro piece hpiece
    rw [(h piece hpiece).2]
    rfl

/-- A list of patterns is **read back** from what is printed of them, with commas between. -/
theorem parseList_render {list : String} {patterns : List RoutePattern}
    (h : parseList list = .ok patterns) :
    parseList (",".intercalate (patterns.map render)) = .ok patterns := by
  rw [parseList_eq_ok_iff] at h
  have hread : ∀ pattern ∈ patterns, ∃ piece, ',' ∉ piece ∧ parse piece = .ok pattern := by
    intro pattern hpattern
    obtain ⟨piece, hpiece, hparse⟩ := exists_piece_of_forall₂ h hpattern
    obtain ⟨hsplit, -⟩ := List.mem_filter.mp hpiece
    exact ⟨piece, fun hmem => (Text.of_mem_splitAt hsplit hmem).2 rfl, hparse⟩
  have htext : (",".intercalate (patterns.map render)).toList =
      Text.joinWith [','] (patterns.map fun pattern => pattern.render.toList) := by
    rw [String.toList_intercalate, List.map_map]
    rfl
  rw [parseList_eq_ok_iff, htext, filledPieces_joinWith]
  · rw [List.forall₂_map_left_iff, List.forall₂_same]
    intro pattern hpattern
    obtain ⟨piece, -, hparse⟩ := hread pattern hpattern
    exact parse_render hparse
  · intro printed hprinted
    obtain ⟨pattern, hpattern, rfl⟩ := List.mem_map.mp hprinted
    obtain ⟨piece, hcomma, hparse⟩ := hread pattern hpattern
    exact ⟨comma_notMem_render hparse hcomma, isBlankText_render hparse⟩

/-! ### Printing and reading -/

/-- **What is printed is read back.** A pattern that was read from a text is read again from what is
printed of it, and the requests it covers are those that what is printed says: those of a method
that it is for and of a path in the language of the written segments. A list of patterns that was
read is read again, in the same order, from what is printed of them with commas between.

However a pattern is spelled, with its method in any letter case, with blanks around and between the
words and with words after the path, it is the same pattern, of which the same is printed; and so
for lists, also with blank pieces. -/
theorem reads_back :
    (∀ text pattern, parse text = .ok pattern →
      parse pattern.render.toList = .ok pattern ∧
      (∀ method path : String, pattern.covers method path = true ↔
        ∃ written symbols segments, IsFor pattern.render.toList method written ∧
          Glob.AreSegments symbols written ∧ Glob.AreSegments segments path.toList ∧
          Glob.Language Stands symbols segments) ∧
      ∀ other, SpellAlike text other → parse other = .ok pattern) ∧
    ∀ list patterns, parseList list = .ok patterns →
      parseList (",".intercalate (patterns.map render)) = .ok patterns ∧
      ∀ other : String, ListsAlike list.toList other.toList →
        parseList other = .ok patterns := by
  refine ⟨fun text pattern hparse => ⟨parse_render hparse, fun method path => ?_,
    fun other hother => hother.parse hparse⟩, fun list patterns hparse =>
      ⟨parseList_render hparse, fun other hother => hother.parseList hparse⟩⟩
  exact covers_iff_of_parse (parse_render hparse)

/-- A list with a method in small letters, a blank that is not of ASCII, a word too many and blank
pieces spells the patterns that are printed of it. -/
theorem reads_back_respelled :
    ∃ patterns, parseList " gEt\t/a/\x7bid\x7d more, ,\u00a0/b/** ," = .ok patterns ∧
      patterns.map render = ["GET /a/\x7bid\x7d", "/b/**"] ∧
      ListsAlike " gEt\t/a/\x7bid\x7d more, ,\u00a0/b/** ,".toList
        "GET /a/\x7bid\x7d,/b/**".toList ∧
      parseList "GET /a/\x7bid\x7d,/b/**" = .ok patterns ∧
      ∃ pattern ∈ patterns, parse "GET /a/\x7bid\x7d".toList = .ok pattern := by
  have hmethod : SpellAlike " gEt\t/a/\x7bid\x7d more".toList "GET /a/\x7bid\x7d".toList :=
    @SpellAlike.method "gEt".toList "GET".toList "/a/\x7bid\x7d".toList _ _ (by decide)
      (Text.startsWith_iff.mpr ⟨["more".toList], by decide +kernel⟩)
      (Text.startsWith_iff.mpr ⟨[], by decide +kernel⟩)
  have hpath : SpellAlike "\u00a0/b/** ".toList "/b/**".toList :=
    .path ⟨by decide, by simp [Text.isBlank]⟩
      ⟨['\u00a0'], [' '], by decide, by decide, by decide⟩ (.refl _)
  have halike : ListsAlike " gEt\t/a/\x7bid\x7d more, ,\u00a0/b/** ,".toList
      "GET /a/\x7bid\x7d,/b/**".toList := by
    have hpieces : filledPieces " gEt\t/a/\x7bid\x7d more, ,\u00a0/b/** ,".toList =
        [" gEt\t/a/\x7bid\x7d more".toList, "\u00a0/b/** ".toList] := by decide +kernel
    have hprinted : filledPieces "GET /a/\x7bid\x7d,/b/**".toList =
        ["GET /a/\x7bid\x7d".toList, "/b/**".toList] := by decide +kernel
    rw [ListsAlike, hpieces, hprinted]
    exact .cons hmethod (.cons hpath .nil)
  have hparse : parse " gEt\t/a/\x7bid\x7d more".toList =
      .ok ⟨some "GET", [.literal "a", .wildcard], "/a/\x7bid\x7d"⟩ := by decide +kernel
  have hlist : parseList " gEt\t/a/\x7bid\x7d more, ,\u00a0/b/** ," =
      .ok [⟨some "GET", [.literal "a", .wildcard], "/a/\x7bid\x7d"⟩,
        ⟨none, [.literal "b", .gap], "/b/**"⟩] := by decide +kernel
  exact ⟨_, hlist, by decide +kernel, halike, (reads_back.2 _ _ hlist).2 _ halike, _,
    List.mem_cons_self, (reads_back.1 _ _ hparse).2.2 _ hmethod⟩

end RoutePattern

end BearerGate
