import Mathlib.Data.List.Forall2
import BearerGate.Proofs.Text.Words

/-!
# Padded Texts

Blanks around a text make no difference to a reader that trims it, and blanks around the entries of
a comma-separated list make none to a reader of the list. A comma is not blank, so padding never
makes an entry out of two or two out of one; and a list of blank entries is one without entries.

## Main results

* `trim_of_forall`, `trim_of_isBlankText`: the trimmed forms of a text without blanks and of a blank
  one.
* `Pads.trim_eq`, `Pads.isBlankText_eq`, `Pads.words_eq`: what padding does not change of a text.
* `words_eq_singleton_iff`: the texts of one word.
* `isPrefix_trim`: what a text begins with when it is trimmed.
* `PadsEntries.entries_eq`: what padding does not change of a list.
* `Pads.padsEntries`: blanks around a list are blanks around its first and its last entry.
* `entries_of_commas`: a list of blanks and commas has no entries.
-/

namespace BearerGate.Text

variable {cs ds : List Char}

/-! ### Texts -/

/-- A text **pads** another one: it has blanks before it and after it, and nothing else. -/
def Pads (cs ds : List Char) : Prop :=
  ∃ lead tail, ds = lead ++ cs ++ tail ∧ isBlankText lead = true ∧ isBlankText tail = true

/-- Every text pads itself, with nothing. -/
theorem Pads.refl (cs : List Char) : Pads cs cs :=
  ⟨[], [], by simp, rfl, rfl⟩

/-- Blanks in front of a text are dropped. -/
theorem dropWhile_append_of_isBlankText {lead : List Char} (h : isBlankText lead = true)
    (cs : List Char) : (lead ++ cs).dropWhile isBlank = cs.dropWhile isBlank := by
  rw [isBlankText, List.all_eq_true] at h
  exact List.dropWhile_append_of_pos h

/-- A text without blanks is its own trimmed form. -/
theorem trim_of_forall (h : ∀ c ∈ cs, isBlank c = false) : trim cs = cs := by
  have hdrop : ∀ ds : List Char, (∀ c ∈ ds, isBlank c = false) → ds.dropWhile isBlank = ds := by
    intro ds hds
    cases ds with
    | nil => rfl
    | cons c ds =>
        have hc := hds c List.mem_cons_self
        exact List.dropWhile_cons_of_neg (by simp [hc])
  rw [trim, trimStart, hdrop cs h, trimEnd, hdrop cs.reverse (by simpa using h),
    List.reverse_reverse]

/-- A blank text is trimmed to nothing. -/
theorem trim_of_isBlankText (h : isBlankText cs = true) : trim cs = [] := by
  have hdrop := dropWhile_append_of_isBlankText h []
  rw [List.append_nil] at hdrop
  rw [trim, trimStart, hdrop]
  rfl

/-- Blanks after a text are trimmed away. -/
theorem trim_append_of_isBlankText {tail : List Char} (h : isBlankText tail = true)
    (cs : List Char) : trim (cs ++ tail) = trim cs := by
  have hreverse : isBlankText tail.reverse = true := by
    rw [isBlankText, List.all_reverse]
    exact h
  rw [trim, trim, trimStart, trimStart, List.dropWhile_append]
  split
  · next hnone =>
    have htail := dropWhile_append_of_isBlankText h []
    rw [List.append_nil] at htail
    rw [htail, List.isEmpty_iff.mp hnone]
    rfl
  · rw [trimEnd, trimEnd, List.reverse_append, dropWhile_append_of_isBlankText hreverse]

/-- A padded text is **trimmed to the same** as the text itself. -/
theorem Pads.trim_eq (h : Pads cs ds) : trim ds = trim cs := by
  obtain ⟨lead, tail, rfl, hlead, htail⟩ := h
  rw [trim_append_of_isBlankText htail, trim, trimStart, dropWhile_append_of_isBlankText hlead,
    trim, trimStart]

/-- A padded text is **blank exactly when** the text itself is. -/
theorem Pads.isBlankText_eq (h : Pads cs ds) : isBlankText ds = isBlankText cs := by
  obtain ⟨lead, tail, rfl, hlead, htail⟩ := h
  rw [isBlankText] at hlead htail
  rw [isBlankText, List.all_append, List.all_append, hlead, htail, Bool.true_and, Bool.and_true,
    isBlankText]

/-- A padded text has **the words** of the text itself. -/
theorem Pads.words_eq (h : Pads cs ds) : words ds = words cs := by
  obtain ⟨lead, tail, rfl, hlead, htail⟩ := h
  rw [words_append_right_of_isBlankText htail, words_append_of_isBlankText hlead]

/-- Every text pads **what it is trimmed to**. -/
theorem pads_trim (cs : List Char) : Pads (trim cs) cs := by
  refine ⟨cs.takeWhile isBlank, ((trimStart cs).reverse.takeWhile isBlank).reverse, ?_, ?_, ?_⟩
  · have hend : trim cs ++ ((trimStart cs).reverse.takeWhile isBlank).reverse = trimStart cs := by
      rw [trim, trimEnd, ← List.reverse_append, List.takeWhile_append_dropWhile,
        List.reverse_reverse]
    rw [List.append_assoc, hend, trimStart, List.takeWhile_append_dropWhile]
  · exact List.all_takeWhile
  · rw [isBlankText, List.all_reverse]
    exact List.all_takeWhile

/-- Nothing is left of a text by trimming exactly when it is blank. -/
theorem isEmpty_trim (cs : List Char) : (trim cs).isEmpty = isBlankText cs := by
  rw [Bool.eq_iff_iff, List.isEmpty_iff]
  constructor
  · intro h
    have hpads := pads_trim cs
    rw [h] at hpads
    exact hpads.isBlankText_eq
  · exact trim_of_isBlankText

/-- A text has **one word** exactly when it pads it. -/
theorem words_eq_singleton_iff {word : List Char} :
    words cs = [word] ↔ IsWord word ∧ Pads word cs := by
  constructor
  · intro h
    obtain ⟨hword, lead, rest, rfl, hlead, -, hrest⟩ := words_eq_cons_iff.mp h
    exact ⟨hword, lead, rest, by rw [List.append_assoc], hlead, words_eq_nil_iff.mp hrest⟩
  · rintro ⟨hword, hpads⟩
    rw [hpads.words_eq, words_of_isWord hword]

/-- A text is trimmed once. -/
theorem trim_trim (cs : List Char) : trim (trim cs) = trim cs :=
  (pads_trim cs).trim_eq.symm

/-- What a text has without blanks does not depend on padding. -/
theorem Pads.squeeze_eq {ds : List Char} (h : Pads cs ds) : squeeze ds = squeeze cs := by
  have hnil : ∀ ds : List Char, isBlankText ds = true → squeeze ds = [] := by
    intro ds hds
    rw [squeeze, List.filter_eq_nil_iff]
    intro c hc
    rw [List.all_eq_true.mp hds c hc]
    exact Bool.false_ne_true
  obtain ⟨lead, tail, rfl, hlead, htail⟩ := h
  rw [squeeze, List.filter_append, List.filter_append, ← squeeze, ← squeeze, hnil _ hlead,
    List.nil_append, ← squeeze, hnil _ htail, List.append_nil]

/-- A text that begins with characters that are not blank **still begins with them** when it is
trimmed. -/
theorem isPrefix_trim {front rest : List Char} (h : ∀ c ∈ front, isBlank c = false) :
    front <+: trim (front ++ rest) := by
  cases front with
  | nil => exact List.nil_prefix
  | cons c front =>
      obtain ⟨lead, tail, heq, hlead, htail⟩ := pads_trim (c :: front ++ rest)
      have hnone : lead = [] := by
        cases lead with
        | nil => rfl
        | cons d lead =>
            simp only [List.cons_append, List.cons.injEq] at heq
            have hblank := List.all_eq_true.mp hlead d List.mem_cons_self
            rw [← heq.1, h c List.mem_cons_self] at hblank
            cases hblank
      rw [hnone, List.nil_append] at heq
      rcases List.append_eq_append_iff.mp heq with ⟨more, htrim, -⟩ | ⟨more, hfront, hmore⟩
      · exact ⟨more, htrim.symm⟩
      · have hempty : more = [] := by
          refine List.eq_nil_iff_forall_not_mem.mpr fun d hd => ?_
          have hblank := List.all_eq_true.mp htail d (hmore ▸ List.mem_append_left _ hd)
          rw [h d (hfront ▸ List.mem_append_right _ hd)] at hblank
          cases hblank
        rw [hempty, List.append_nil] at hfront
        exact ⟨[], (List.append_nil _).trans hfront⟩

/-! ### Lists -/

/-- A list **pads the entries** of another one: between the commas each entry is padded. -/
def PadsEntries (cs ds : List Char) : Prop :=
  List.Forall₂ Pads (splitAt ',' cs) (splitAt ',' ds)

/-- Padded entries are **the same entries**. -/
theorem PadsEntries.entries_eq (h : PadsEntries cs ds) : entries ds = entries cs := by
  have hpieces : ∀ pieces pieces' : List (List Char), List.Forall₂ Pads pieces pieces' →
      pieces'.map trim = pieces.map trim := by
    intro pieces pieces' hpads
    induction hpads with
    | nil => rfl
    | cons hpiece _ ih => rw [List.map_cons, List.map_cons, hpiece.trim_eq, ih]
  rw [entries, entries, hpieces _ _ h]

/-- Cutting goes on within the first piece where the next character is no comma. -/
theorem splitAt_cons_of_ne {c : Char} (hc : c ≠ ',') (cs : List Char) :
    ∃ piece rest, splitAt ',' cs = piece :: rest ∧
      splitAt ',' (c :: cs) = (c :: piece) :: rest := by
  obtain ⟨piece, rest, hpieces⟩ := List.exists_cons_of_ne_nil (splitWhen_ne_nil (· == ',') cs)
  refine ⟨piece, rest, hpieces, ?_⟩
  rw [splitAt, splitWhen, List.foldr_cons, ← splitWhen, hpieces]
  simp [splitStep, hc]

/-- Blanks after a list are blanks after its last entry. -/
theorem forall₂_splitAt_append {tail : List Char} (h : isBlankText tail = true) (cs : List Char) :
    List.Forall₂ (fun piece padded => ∃ more, padded = piece ++ more ∧ isBlankText more = true)
      (splitAt ',' cs) (splitAt ',' (cs ++ tail)) := by
  induction cs with
  | nil =>
      -- No blank is a comma, so all of them stay in the one piece there is.
      have hcommas : ∀ c ∈ tail, (c == ',') = false := by
        intro c hc
        rw [beq_eq_false_iff_ne]
        rintro rfl
        exact absurd (List.all_eq_true.mp h _ hc) (by decide)
      rw [List.nil_append, splitAt, splitAt, splitWhen_of_forall hcommas]
      exact .cons ⟨tail, rfl, h⟩ .nil
  | cons c cs ih =>
      by_cases hc : c = ','
      · rw [List.cons_append, splitAt, splitAt, splitWhen_cons_sep (by simpa using hc),
          splitWhen_cons_sep (by simpa using hc)]
        exact .cons ⟨[], rfl, rfl⟩ ih
      · obtain ⟨piece, rest, hpieces, hcons⟩ := splitAt_cons_of_ne hc cs
        obtain ⟨piece', rest', hpieces', hcons'⟩ := splitAt_cons_of_ne hc (cs ++ tail)
        rw [hpieces, hpieces'] at ih
        rw [List.cons_append, hcons, hcons']
        cases ih with
        | cons hpiece hrest =>
            obtain ⟨more, rfl, hmore⟩ := hpiece
            exact .cons ⟨more, rfl, hmore⟩ hrest

/-- A blank in front of a list is one in front of its first entry. -/
theorem PadsEntries.cons {c : Char} (h : PadsEntries cs ds) (hc : isBlank c = true) :
    PadsEntries cs (c :: ds) := by
  have hne : c ≠ ',' := by
    rintro rfl
    exact absurd hc (by decide)
  obtain ⟨piece, rest, hpieces, hcons⟩ := splitAt_cons_of_ne hne ds
  rw [PadsEntries, hpieces, List.forall₂_cons_right_iff] at h
  obtain ⟨first, others, ⟨lead, tail, rfl, hlead, htail⟩, hrest, hfirst⟩ := h
  rw [PadsEntries, hcons, hfirst]
  refine .cons ⟨c :: lead, tail, rfl, ?_, htail⟩ hrest
  rw [isBlankText, List.all_cons, hc, Bool.true_and]
  exact hlead

/-- Whoever **pads a list** pads its entries. -/
theorem Pads.padsEntries (h : Pads cs ds) : PadsEntries cs ds := by
  obtain ⟨lead, tail, rfl, hlead, htail⟩ := h
  rw [List.append_assoc]
  induction lead with
  | nil =>
      refine (forall₂_splitAt_append htail cs).imp ?_
      rintro piece padded ⟨more, rfl, hmore⟩
      exact ⟨[], more, rfl, rfl, hmore⟩
  | cons c lead ih =>
      rw [isBlankText, List.all_cons, Bool.and_eq_true] at hlead
      exact (ih hlead.2).cons hlead.1

/-! ### Lists without entries -/

/-- A piece of a text holds characters of the text, and no separator. -/
theorem of_mem_splitAt {sep c : Char} {piece : List Char} (h : piece ∈ splitAt sep cs)
    (hc : c ∈ piece) : c ∈ cs ∧ c ≠ sep := by
  induction cs generalizing piece with
  | nil =>
      rw [List.mem_singleton.mp h] at hc
      cases hc
  | cons d cs ih =>
      obtain ⟨first, rest, hpieces⟩ := List.exists_cons_of_ne_nil (splitWhen_ne_nil (· == sep) cs)
      rw [splitAt, hpieces] at ih
      rw [splitAt, splitWhen, List.foldr_cons, ← splitWhen, hpieces, splitStep] at h
      split at h
      · rcases List.mem_cons.mp h with rfl | h
        · cases hc
        · exact ⟨List.mem_cons_of_mem d (ih h hc).1, (ih h hc).2⟩
      · next hd =>
        rcases List.mem_cons.mp h with rfl | h
        · rcases List.mem_cons.mp hc with rfl | hc
          · exact ⟨List.mem_cons_self, by simpa using hd⟩
          · have hfirst := ih List.mem_cons_self hc
            exact ⟨List.mem_cons_of_mem d hfirst.1, hfirst.2⟩
        · have hrest := ih (List.mem_cons_of_mem first h) hc
          exact ⟨List.mem_cons_of_mem d hrest.1, hrest.2⟩

/-- A list of nothing but **blanks and commas** has no entries. -/
theorem entries_of_commas (h : ∀ c ∈ cs, c = ',' ∨ isBlank c = true) : entries cs = [] := by
  rw [entries, List.filter_eq_nil_iff]
  intro entry hentry
  obtain ⟨piece, hpiece, rfl⟩ := List.mem_map.mp hentry
  have hblank : isBlankText piece = true := by
    rw [isBlankText, List.all_eq_true]
    intro c hc
    obtain ⟨hmem, hne⟩ := of_mem_splitAt hpiece hc
    exact (h c hmem).resolve_left hne
  rw [trim_of_isBlankText hblank]
  decide

end BearerGate.Text
