import BearerGate.Text.Pieces

/-!
# The Words of a Text

`Text.words` cuts a text into its maximal blank-free runs. This module says what the first of
them is without cutting anything: a text starts with a word when it is a row of blanks, the word,
and a rest that does not go on with the word. Applied twice, this describes the texts that
start with two given words, which is all that is ever asked of a credential.

## Main results

* `words_eq_nil_iff`: a text has no words exactly when it is blank.
* `words_eq_cons_iff`: the first word of a text and the words after it.
* `startsWith_iff`: a text starts with two words exactly when these are its first two words.
-/

namespace BearerGate.Text

/-- A text that is a **word**: it holds something, and nothing blank. -/
def IsWord (cs : List Char) : Prop :=
  cs ≠ [] ∧ ∀ c ∈ cs, isBlank c = false

/-- A text that **breaks off** a word before it: it is empty or starts with a blank. -/
def BreaksOff (cs : List Char) : Prop :=
  ∀ c ∈ cs.head?, isBlank c = true

/-- A text that **starts with two words**, blanks before, between and after them apart. What
follows the second word is not looked at. -/
def StartsWith (first second cs : List Char) : Prop :=
  IsWord first ∧ IsWord second ∧ ∃ lead gap rest,
    cs = lead ++ first ++ gap ++ second ++ rest ∧ isBlankText lead = true ∧
      gap ≠ [] ∧ isBlankText gap = true ∧ BreaksOff rest

/-- A text of **visible** characters of ASCII, at least one. -/
def IsVisible (cs : List Char) : Prop :=
  cs ≠ [] ∧ ∀ c ∈ cs, 0x21 ≤ c.toNat ∧ c.toNat ≤ 0x7E

/-- A visible text is a word. -/
theorem IsVisible.isWord {cs : List Char} (h : IsVisible cs) : IsWord cs := by
  refine ⟨h.1, fun c hc => ?_⟩
  obtain ⟨hlow, hhigh⟩ := h.2 c hc
  simp only [isBlank, Bool.or_eq_false_iff, Bool.and_eq_false_iff, beq_eq_false_iff_ne,
    decide_eq_false_iff_not]
  omega

/-- A word is not blank. -/
theorem IsWord.isBlankText_eq {cs : List Char} (h : IsWord cs) : isBlankText cs = false := by
  obtain ⟨c, rest, rfl⟩ := List.exists_cons_of_ne_nil h.1
  rw [isBlankText, List.all_cons, h.2 c List.mem_cons_self, Bool.false_and]

/-- Two words with a blank between them are what a text of them starts with. -/
theorem startsWith_of_isWord {first second : List Char} (hfirst : IsWord first)
    (hsecond : IsWord second) : StartsWith first second (first ++ ' ' :: second) := by
  refine ⟨hfirst, hsecond, [], [' '], [], by simp, rfl, by simp, rfl, ?_⟩
  intro c hc
  cases hc

/-! ### Blanks before and after the words -/

/-- A blank in front of a text does not change its words. -/
theorem words_cons_of_isBlank {c : Char} (h : isBlank c = true) (cs : List Char) :
    words (c :: cs) = words cs := by
  rw [words, splitWhen_cons_sep h, words, List.filter_cons_of_neg (by simp)]

/-- Blanks in front of a text do not change its words. -/
theorem words_append_of_isBlankText {lead : List Char} (h : isBlankText lead = true)
    (cs : List Char) : words (lead ++ cs) = words cs := by
  induction lead with
  | nil => rfl
  | cons c lead ih =>
      simp only [isBlankText, List.all_cons, Bool.and_eq_true] at h
      rw [List.cons_append, words_cons_of_isBlank h.1, ih h.2]

/-- A separator at the end of a list opens one empty piece more. -/
theorem splitWhen_concat_sep {α : Type} {isSep : α → Bool} {s : α} (hs : isSep s = true)
    (xs : List α) : splitWhen isSep (xs ++ [s]) = splitWhen isSep xs ++ [[]] := by
  induction xs with
  | nil => exact splitWhen_cons_sep hs []
  | cons x xs ih =>
      obtain ⟨piece, rest, hpieces⟩ := List.exists_cons_of_ne_nil (splitWhen_ne_nil isSep xs)
      rw [hpieces] at ih
      rw [List.cons_append, splitWhen, List.foldr_cons, ← splitWhen, ih, splitWhen,
        List.foldr_cons, ← splitWhen, hpieces]
      simp only [splitStep, List.cons_append]
      split <;> rfl

/-- Blanks after a text do not change its words. -/
theorem words_append_right_of_isBlankText {tail : List Char} (h : isBlankText tail = true)
    (cs : List Char) : words (cs ++ tail) = words cs := by
  induction tail generalizing cs with
  | nil => rw [List.append_nil]
  | cons c tail ih =>
      rw [isBlankText, List.all_cons, Bool.and_eq_true] at h
      have hlast : words (cs ++ [c]) = words cs := by
        rw [words, splitWhen_concat_sep h.1, List.filter_append, words]
        simp
      rw [← List.singleton_append, ← List.append_assoc, ih h.2, hlast]

/-- A blank text has no words. -/
theorem words_of_isBlankText {cs : List Char} (h : isBlankText cs = true) : words cs = [] := by
  have hwords := words_append_of_isBlankText h []
  rw [List.append_nil] at hwords
  exact hwords

/-! ### The first word -/

/-- A word in front of a text that breaks it off is the first of its words. -/
theorem words_append_of_isWord {word rest : List Char} (hword : IsWord word)
    (hrest : BreaksOff rest) : words (word ++ rest) = word :: words rest := by
  obtain ⟨hne, hblank⟩ := hword
  cases rest with
  | nil =>
      rw [List.append_nil, words, splitWhen_of_forall hblank, List.filter_cons_of_pos]
      · rfl
      · simp [hne]
  | cons c rest =>
      have hc : isBlank c = true := hrest c rfl
      rw [words_cons_of_isBlank hc, words, splitWhen_append_cons hblank hc,
        List.filter_cons_of_pos, ← words]
      simp [hne]

/-- A word has itself as its only word. -/
theorem words_of_isWord {word : List Char} (h : IsWord word) : words word = [word] := by
  have hbreaks : BreaksOff [] := fun c hc => by cases hc
  have hwords := words_append_of_isWord h hbreaks
  rw [List.append_nil] at hwords
  exact hwords

/-- A text that is not blank is blanks, a word, and a rest that breaks off the word. -/
theorem exists_word_of_not_isBlankText {cs : List Char} (h : isBlankText cs = false) :
    ∃ lead word rest, cs = lead ++ (word ++ rest) ∧ isBlankText lead = true ∧ IsWord word ∧
      BreaksOff rest := by
  induction cs with
  | nil => simp [isBlankText] at h
  | cons c cs ih =>
      cases hc : isBlank c with
      | true =>
          simp only [isBlankText, List.all_cons, hc, Bool.true_and] at h
          obtain ⟨lead, word, rest, rfl, hlead, hword, hrest⟩ := ih h
          refine ⟨c :: lead, word, rest, rfl, ?_, hword, hrest⟩
          simpa [isBlankText, hc] using hlead
      | false =>
          refine ⟨[], (c :: cs).takeWhile (fun d => !isBlank d),
            (c :: cs).dropWhile (fun d => !isBlank d), ?_, rfl, ⟨?_, ?_⟩, ?_⟩
          · rw [List.nil_append, List.takeWhile_append_dropWhile]
          · simp [hc]
          · intro d hd
            have hall := List.all_takeWhile (p := fun d => !isBlank d) (l := c :: cs)
            rw [List.all_eq_true] at hall
            simpa using hall d hd
          · intro d hd
            have hhead := List.head?_dropWhile_not (fun d => !isBlank d) (c :: cs)
            rw [hd] at hhead
            simpa using hhead

/-- A text has no words exactly when it is blank. -/
theorem words_eq_nil_iff {cs : List Char} : words cs = [] ↔ isBlankText cs = true := by
  constructor
  · intro h
    cases hblank : isBlankText cs with
    | true => rfl
    | false =>
        obtain ⟨lead, word, rest, rfl, hlead, hword, hrest⟩ :=
          exists_word_of_not_isBlankText hblank
        rw [words_append_of_isBlankText hlead, words_append_of_isWord hword hrest] at h
        cases h
  · exact words_of_isBlankText

/-- The first word of a text and the words after it: the text is blanks, the word, and a rest
that breaks it off and has the other words. -/
theorem words_eq_cons_iff {cs word : List Char} {more : List (List Char)} :
    words cs = word :: more ↔
      IsWord word ∧ ∃ lead rest, cs = lead ++ (word ++ rest) ∧ isBlankText lead = true ∧
        BreaksOff rest ∧ words rest = more := by
  constructor
  · intro h
    have hblank : isBlankText cs = false := by
      rw [← Bool.not_eq_true, ← words_eq_nil_iff, h]
      simp
    obtain ⟨lead, first, rest, rfl, hlead, hfirst, hrest⟩ :=
      exists_word_of_not_isBlankText hblank
    rw [words_append_of_isBlankText hlead, words_append_of_isWord hfirst hrest,
      List.cons.injEq] at h
    obtain ⟨rfl, rfl⟩ := h
    exact ⟨hfirst, lead, rest, rfl, hlead, hrest, rfl⟩
  · rintro ⟨hword, lead, rest, rfl, hlead, hrest, rfl⟩
    rw [words_append_of_isBlankText hlead, words_append_of_isWord hword hrest]

/-! ### Two words -/

/-- A text **starts with two words** exactly when these are the first two of its words. -/
theorem startsWith_iff {first second cs : List Char} :
    StartsWith first second cs ↔ ∃ more, words cs = first :: second :: more := by
  constructor
  · rintro ⟨hfirst, hsecond, lead, gap, rest, rfl, hlead, hgap, hgapBlank, hrest⟩
    refine ⟨words rest, ?_⟩
    have hbreak : BreaksOff (gap ++ (second ++ rest)) := by
      obtain ⟨c, gap, rfl⟩ := List.exists_cons_of_ne_nil hgap
      simp only [isBlankText, List.all_cons, Bool.and_eq_true] at hgapBlank
      intro d hd
      cases hd
      exact hgapBlank.1
    simp only [List.append_assoc]
    rw [words_append_of_isBlankText hlead, words_append_of_isWord hfirst hbreak,
      words_append_of_isBlankText hgapBlank, words_append_of_isWord hsecond hrest]
  · rintro ⟨more, h⟩
    obtain ⟨hfirst, lead, rest, rfl, hlead, hbreak, hmore⟩ := words_eq_cons_iff.mp h
    obtain ⟨hsecond, gap, tail, rfl, hgap, htail, -⟩ := words_eq_cons_iff.mp hmore
    refine ⟨hfirst, hsecond, lead, gap, tail, by simp only [List.append_assoc], hlead, ?_, hgap,
      htail⟩
    -- Without a blank between them the second word would go on with the first.
    rintro rfl
    obtain ⟨c, second, rfl⟩ := List.exists_cons_of_ne_nil hsecond.1
    have hblank := hbreak c rfl
    rw [hsecond.2 c List.mem_cons_self] at hblank
    cases hblank

end BearerGate.Text
