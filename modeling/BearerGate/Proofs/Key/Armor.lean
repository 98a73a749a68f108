import BearerGate.Key.Material
import BearerGate.Proofs.Base64
import BearerGate.Proofs.Text.Padding

/-!
# Armor Loses Nothing

Key material that is not PEM is base64 without label lines, in which blanks may stand anywhere and
line breaks may be written as escapes. It is read as bytes, written anew, and cut into lines. This
module says what comes of it by the characters that went in: they are all there, in lines of 64,
between the label lines; and it says which other material gives the same.

## Main results

* `exists_pieces`, `not_escape_restoreLineBreaks`: what replacing escapes does.
* `restoreLineBreaks_of_escapes`: a line break may be written as an escape.
* `Pem.exists_lines`: the lines of armor.
* `pemText?_of_opening`, `pemText?_eq_some_iff`: what comes of material that is PEM and of other
  material.
* `pemText?_of_squeeze_eq`, `pemText?_of_pemText?`: material with other blanks, and material that is
  such an outcome.
* `armor_loses_nothing`: all of this of key material.
-/

namespace BearerGate

namespace Text

/-! ### Pieces -/

/-- Pieces put together, from the first on. -/
theorem joinWith_cons_of_ne_nil (sep first : List Char) {pieces : List (List Char)}
    (h : pieces ≠ []) : joinWith sep (first :: pieces) = first ++ (sep ++ joinWith sep pieces) := by
  obtain ⟨second, pieces, rfl⟩ := List.exists_cons_of_ne_nil h
  rw [joinWith, List.intersperse_cons_cons, List.flatten_cons, List.flatten_cons, ← joinWith]

/-- A character before the first of the pieces. -/
theorem joinWith_cons_cons (sep first : List Char) (c : Char) (pieces : List (List Char)) :
    joinWith sep ((c :: first) :: pieces) = c :: joinWith sep (first :: pieces) := by
  cases pieces <;> rfl

/-! ### Runs -/

/-- Lines that a text **is cut into**: put together they are the text, all but the last have the
same length, and the last has one character at least and not more than the others. -/
structure IsCutOf (width : Nat) (cs : List Char) (lines : List (List Char)) : Prop where
  flatten : lines.flatten = cs
  full : ∀ line ∈ lines.dropLast, line.length = width
  last : ∀ line ∈ lines.getLast?, 0 < line.length ∧ line.length ≤ width

/-- A text is cut into its first characters and what the others are cut into. -/
theorem IsCutOf.cons {width : Nat} (hwidth : 0 < width) {cs : List Char} (hcs : cs ≠ [])
    {lines : List (List Char)} (h : IsCutOf width (cs.drop width) lines) :
    IsCutOf width cs (cs.take width :: lines) := by
  have hpos : 0 < cs.length := List.length_pos_iff.mpr hcs
  have hlength : (cs.take width).length = min width cs.length := List.length_take
  obtain ⟨hflatten, hfull, hlast⟩ := h
  refine ⟨by rw [List.flatten_cons, hflatten, List.take_append_drop], ?_, ?_⟩
  · intro line hline
    cases lines with
    | nil => cases hline
    | cons next lines =>
        rw [List.dropLast_cons_of_ne_nil (List.cons_ne_nil _ _)] at hline
        rcases List.mem_cons.mp hline with rfl | hline
        · have hlong : width < cs.length := by
            by_contra hshort
            rw [List.drop_eq_nil_of_le (Nat.le_of_not_lt hshort)] at hflatten
            have hend := hlast _ (List.getLast?_eq_getLast_of_ne_nil (List.cons_ne_nil next lines))
            rw [List.flatten_eq_nil_iff.mp hflatten _ (List.getLast_mem _)] at hend
            exact absurd hend.1 (Nat.lt_irrefl 0)
          omega
        · exact hfull line hline
  · intro line hline
    cases lines with
    | nil =>
        obtain rfl : cs.take width = line := by simpa using hline
        omega
    | cons next lines => exact hlast line hline

/-- A text is cut with enough fuel for its length. -/
theorem isCutOf_runsWithin {width fuel : Nat} (hwidth : 0 < width) {cs : List Char}
    (h : cs.length ≤ fuel) : IsCutOf width cs (runsWithin width fuel cs) := by
  induction fuel generalizing cs with
  | zero =>
      rw [List.length_eq_zero_iff.mp (Nat.le_zero.mp h)]
      exact ⟨rfl, by simp [runsWithin], by simp [runsWithin]⟩
  | succ fuel ih =>
      cases cs with
      | nil => exact ⟨rfl, by simp [runsWithin], by simp [runsWithin]⟩
      | cons c cs =>
          have hdrop : ((c :: cs).drop width).length ≤ fuel := by
            rw [List.length_drop]
            omega
          have hruns : runsWithin width (fuel + 1) (c :: cs) =
              (c :: cs).take width :: runsWithin width fuel ((c :: cs).drop width) := rfl
          rw [hruns]
          exact IsCutOf.cons hwidth (List.cons_ne_nil c cs) (ih hdrop)

/-- A text cut into runs **is cut into lines** of that length. -/
theorem isCutOf_runs {width : Nat} (hwidth : 0 < width) (cs : List Char) :
    IsCutOf width cs (runs width cs) :=
  isCutOf_runsWithin hwidth (Nat.le_refl _)

end Text

/-! ### Escapes -/

namespace Key

open Text

/-- The two characters that stand for a line break. -/
def escape : List Char := ['\\', 'n']

/-- What a text begins with once its escapes are replaced tells what it began with, line breaks
apart. -/
theorem head_of_restoreLineBreaks {cs rest : List Char} {c : Char}
    (h : restoreLineBreaks cs = c :: rest) (hc : c ≠ '\n') : ∃ more, cs = c :: more := by
  unfold restoreLineBreaks at h
  split at h
  · cases h
  · cases h
    exact absurd rfl hc
  · next d more _ =>
    cases h
    exact ⟨more, rfl⟩

/-- A character makes an escape only if it is a backslash with `n` after it. -/
theorem not_escape_cons {c : Char} {cs : List Char} (hcs : ¬escape <:+: cs)
    (hne : ∀ rest, c = '\\' → cs = 'n' :: rest → False) : ¬escape <:+: c :: cs := by
  intro h
  rcases List.infix_cons_iff.mp h with h | h
  · obtain ⟨rfl, tail, htail⟩ := List.cons_prefix_cons.mp h
    exact hne tail rfl htail.symm
  · exact hcs h

/-- No escape is left once all are replaced: a backslash that was kept is not followed by `n`. -/
theorem not_escape_restoreLineBreaks (cs : List Char) : ¬escape <:+: restoreLineBreaks cs := by
  fun_induction restoreLineBreaks cs with
  | case1 => exact fun h => absurd (List.infix_nil.mp h) (by simp [escape])
  | case2 rest ih =>
      intro h
      rcases List.infix_cons_iff.mp h with h | h
      · exact absurd (List.cons_prefix_cons.mp h).1 (by decide)
      · exact ih h
  | case3 c rest hne ih =>
      refine not_escape_cons ih fun tail hc htail => ?_
      obtain ⟨more, hmore⟩ := head_of_restoreLineBreaks htail (by decide)
      exact hne more hc hmore

/-- A text without an escape is left as it is. -/
theorem restoreLineBreaks_of_not_escape {cs : List Char} (h : ¬escape <:+: cs) :
    restoreLineBreaks cs = cs := by
  fun_induction restoreLineBreaks cs with
  | case1 => rfl
  | case2 rest ih => exact absurd (List.infix_cons_iff.mpr (Or.inl ⟨rest, rfl⟩)) h
  | case3 c rest hne ih => rw [ih fun hrest => h (List.infix_cons_iff.mpr (Or.inr hrest))]

/-- A text has pieces without an escape, between which the escapes stand; and **line breaks stand
there** once the escapes are replaced. -/
theorem exists_pieces (cs : List Char) : ∃ pieces : List (List Char), pieces ≠ [] ∧
    (∀ piece ∈ pieces, ¬escape <:+: piece) ∧ cs = joinWith escape pieces ∧
      restoreLineBreaks cs = joinWith ['\n'] pieces := by
  fun_induction restoreLineBreaks cs with
  | case1 =>
      refine ⟨[[]], List.cons_ne_nil _ _, fun piece hpiece h => ?_, rfl, rfl⟩
      rw [List.mem_singleton.mp hpiece] at h
      exact absurd (List.infix_nil.mp h) (by simp [escape])
  | case2 rest ih =>
      obtain ⟨pieces, hpieces, hfree, htext, hrestored⟩ := ih
      refine ⟨[] :: pieces, List.cons_ne_nil _ _, fun piece hpiece h => ?_, ?_, ?_⟩
      · rcases List.mem_cons.mp hpiece with rfl | hpiece
        · exact absurd (List.infix_nil.mp h) (by simp [escape])
        · exact hfree piece hpiece h
      · rw [joinWith_cons_of_ne_nil _ _ hpieces, ← htext]
        rfl
      · rw [joinWith_cons_of_ne_nil _ _ hpieces, ← hrestored]
        rfl
  | case3 c rest hne ih =>
      obtain ⟨pieces, hpieces, hfree, htext, hrestored⟩ := ih
      obtain ⟨first, pieces, rfl⟩ := List.exists_cons_of_ne_nil hpieces
      rw [hrestored, htext, ← joinWith_cons_cons, ← joinWith_cons_cons]
      refine ⟨(c :: first) :: pieces, List.cons_ne_nil _ _, ?_, rfl, rfl⟩
      intro piece hpiece
      rcases List.mem_cons.mp hpiece with rfl | hpiece
      · refine not_escape_cons (hfree first List.mem_cons_self) ?_
        rintro more rfl rfl
        rw [joinWith_cons_cons] at htext
        exact hne _ rfl htext
      · exact hfree piece (List.mem_cons_of_mem _ hpiece)

/-- An escape in two texts, one after the other, is in one of them, unless the first has a backslash
and the second begins with `n`. -/
theorem not_escape_append {cs ds : List Char} (hcs : ¬escape <:+: cs) (hds : ¬escape <:+: ds)
    (h : '\\' ∈ cs → ∀ rest, ds ≠ 'n' :: rest) : ¬escape <:+: cs ++ ds := by
  induction cs with
  | nil => exact hds
  | cons c cs ih =>
      refine not_escape_cons (ih (fun hin => hcs (List.infix_cons_iff.mpr (Or.inr hin)))
        fun hmem => h (List.mem_cons_of_mem _ hmem)) ?_
      rintro rest rfl hrest
      cases cs with
      | nil => exact h List.mem_cons_self rest hrest
      | cons d cs =>
          obtain rfl : d = 'n' := (List.cons.inj hrest).1
          exact hcs ⟨[], cs, rfl⟩

/-- There is no escape without a backslash. -/
theorem not_escape_of_notMem {cs : List Char} (h : '\\' ∉ cs) : ¬escape <:+: cs :=
  fun hin => h (hin.subset List.mem_cons_self)

/-- No escape begins in a text without a backslash. -/
theorem not_escape_append_of_notMem {cs ds : List Char} (hcs : '\\' ∉ cs)
    (hds : ¬escape <:+: ds) : ¬escape <:+: cs ++ ds :=
  not_escape_append (not_escape_of_notMem hcs) hds fun hmem => absurd hmem hcs

/-- A character is kept, unless it makes an escape. -/
theorem restoreLineBreaks_cons {c : Char} {cs : List Char}
    (h : ∀ rest, c = '\\' → cs = 'n' :: rest → False) :
    restoreLineBreaks (c :: cs) = c :: restoreLineBreaks cs := by
  rw [restoreLineBreaks]
  exact h

/-- A character that is no backslash is kept. -/
theorem restoreLineBreaks_cons_of_ne {c : Char} {cs : List Char} (h : c ≠ '\\') :
    restoreLineBreaks (c :: cs) = c :: restoreLineBreaks cs :=
  restoreLineBreaks_cons fun _ hc => absurd hc h

/-- A text with **some of the line breaks of another written as escapes**. -/
inductive EscapesBreaks : List Char → List Char → Prop where
  | nil : EscapesBreaks [] []
  | keep (c : Char) {cs ds : List Char} : EscapesBreaks cs ds → EscapesBreaks (c :: cs) (c :: ds)
  | escape {cs ds : List Char} : EscapesBreaks cs ds →
      EscapesBreaks ('\n' :: cs) ('\\' :: 'n' :: ds)

/-- A text keeps its first letter when line breaks are written as escapes. -/
theorem EscapesBreaks.head_iff {cs ds : List Char} (h : EscapesBreaks cs ds) :
    (∃ rest, cs = 'n' :: rest) ↔ ∃ rest, ds = 'n' :: rest := by
  cases h with
  | nil => rfl
  | keep c => simp
  | escape => simp

/-- What stands before may be kept. -/
theorem EscapesBreaks.append_left (front : List Char) {cs ds : List Char}
    (h : EscapesBreaks cs ds) : EscapesBreaks (front ++ cs) (front ++ ds) := by
  induction front with
  | nil => exact h
  | cons c front ih => exact .keep c ih

/-- A line break **may be written as an escape**, also where a backslash stands before it. -/
theorem restoreLineBreaks_of_escapes {cs ds : List Char} (h : EscapesBreaks cs ds) :
    restoreLineBreaks ds = restoreLineBreaks cs := by
  induction h with
  | nil => rfl
  | @escape cs ds _ ih =>
      rw [@restoreLineBreaks_cons_of_ne '\n' cs (by simp), ← ih]
      rfl
  | @keep c cs ds h ih =>
      by_cases hescape : c = '\\' ∧ ∃ rest, cs = 'n' :: rest
      · obtain ⟨rfl, rest, rfl⟩ := hescape
        obtain ⟨rest', rfl⟩ := h.head_iff.mp ⟨rest, rfl⟩
        rw [restoreLineBreaks_cons_of_ne (by simp), restoreLineBreaks_cons_of_ne (by simp),
          List.cons.injEq] at ih
        exact congrArg ('\n' :: ·) ih.2
      · rw [restoreLineBreaks_cons fun rest hc hcs => hescape ⟨hc, rest, hcs⟩,
          restoreLineBreaks_cons fun rest hc hds => hescape ⟨hc, h.head_iff.mpr ⟨rest, hds⟩⟩, ih]

end Key

/-! ### Armor -/

/-- The text of PEM with a label and some lines between. -/
def Pem.framed (label : List Char) (lines : List (List Char)) : List Char :=
  "-----BEGIN ".toList ++ label ++ "-----\n".toList ++ lines.flatMap (· ++ ['\n']) ++
    "-----END ".toList ++ label ++ "-----\n".toList

/-- Armor has **lines of 64 characters**, the last of which may be shorter. -/
theorem Pem.exists_lines (label base64 : List Char) : ∃ lines,
    Text.IsCutOf 64 base64 lines ∧ armor label base64 = framed label lines := by
  refine ⟨Text.runs 64 base64, Text.isCutOf_runs (Nat.succ_pos 63) base64, ?_⟩
  have hbegin : "-----BEGIN ".toList = opening ++ [' '] := rfl
  have hend : "-----END ".toList = dashes ++ "END ".toList := rfl
  have hdashes : "-----\n".toList = dashes ++ ['\n'] := rfl
  unfold armor framed
  rw [hbegin, hend, hdashes]
  simp only [List.append_assoc, List.cons_append, List.nil_append]

namespace Key

open Text

variable {material label pem : List Char}

/-- Material that **begins as PEM** is taken as it is, trimmed. -/
theorem pemText?_of_opening (h : Pem.opening <+: trim (restoreLineBreaks material)) :
    pemText? material label = some (trim (restoreLineBreaks material)) := by
  rw [pemText?]
  exact if_pos (List.isPrefixOf_iff_prefix.mpr h)

/-- Other material is **armored** if it is base64 without its blanks, and there is some. -/
theorem pemText?_eq_some_iff (h : ¬Pem.opening <+: trim (restoreLineBreaks material)) :
    pemText? material label = some pem ↔ ∃ der,
      squeeze (trim (restoreLineBreaks material)) ≠ [] ∧
        Base64.Spells (squeeze (trim (restoreLineBreaks material))) der ∧
        pem = Pem.armor label (squeeze (trim (restoreLineBreaks material))) := by
  rw [pemText?]
  dsimp only
  rw [if_neg (mt List.isPrefixOf_iff_prefix.mp h)]
  generalize squeeze (trim (restoreLineBreaks material)) = body
  constructor
  · intro hpem
    split at hpem
    · cases hpem
    · next hbody =>
      obtain ⟨der, hder, rfl⟩ := Option.map_eq_some_iff.mp hpem
      rw [Base64.encode_of_decode? hder]
      exact ⟨der, fun hnil => hbody (List.isEmpty_iff.mpr hnil), Base64.decode?_eq_some_iff.mp hder,
        rfl⟩
  · rintro ⟨der, hbody, hspells, rfl⟩
    have hder := Base64.decode?_eq_some_iff.mpr hspells
    rw [if_neg (mt List.isEmpty_iff.mp hbody), hder, Option.map_some, Base64.encode_of_decode? hder]

/-! ### The same from other material -/

/-- A text **of base64 and blanks**. -/
def IsBase64Text (cs : List Char) : Prop :=
  ∀ c ∈ cs, Base64.IsBase64Char c ∨ isBlank c = true

/-- Neither a backslash nor a dash is in base64. -/
theorem IsBase64Text.notMem {cs : List Char} (h : IsBase64Text cs) : '\\' ∉ cs ∧ '-' ∉ cs := by
  have hbackslash : ¬(Base64.IsBase64Char '\\' ∨ isBlank '\\' = true) := by decide
  have hdash : ¬(Base64.IsBase64Char '-' ∨ isBlank '-' = true) := by decide
  exact ⟨fun hc => hbackslash (h _ hc), fun hc => hdash (h _ hc)⟩

/-- Material of base64 and blanks is taken as it is. -/
theorem IsBase64Text.restoreLineBreaks_eq (h : IsBase64Text material) :
    restoreLineBreaks material = material :=
  restoreLineBreaks_of_not_escape (not_escape_of_notMem h.notMem.1)

/-- Material of base64 and blanks is not PEM. -/
theorem IsBase64Text.not_opening (h : IsBase64Text material) : ¬Pem.opening <+: trim material := by
  intro hopening
  obtain ⟨lead, tail, hpads, -, -⟩ := pads_trim material
  have hdash : '-' ∈ trim material := hopening.subset List.mem_cons_self
  refine h.notMem.2 ?_
  rw [hpads]
  exact List.mem_append_left _ (List.mem_append_right _ hdash)

/-- **Blanks** make no difference to material of base64. -/
theorem pemText?_of_squeeze_eq {other : List Char} (h : IsBase64Text material)
    (hsqueeze : squeeze other = squeeze material) :
    pemText? other label = pemText? material label := by
  have hother : IsBase64Text other := by
    intro c hc
    by_cases hblank : isBlank c = true
    · exact Or.inr hblank
    · have hmem : c ∈ squeeze other := List.mem_filter.mpr ⟨hc, by simpa using hblank⟩
      rw [hsqueeze] at hmem
      exact h c (List.mem_filter.mp hmem).1
  have hiff : ∀ {cs}, IsBase64Text cs → ∀ pem, pemText? cs label = some pem ↔ ∃ der,
      squeeze cs ≠ [] ∧ Base64.Spells (squeeze cs) der ∧ pem = Pem.armor label (squeeze cs) := by
    intro cs hcs pem
    have hspec := @pemText?_eq_some_iff cs label pem
    rw [hcs.restoreLineBreaks_eq, ← (pads_trim cs).squeeze_eq] at hspec
    exact hspec hcs.not_opening
  refine Option.ext fun pem => ?_
  rw [hiff hother, hiff h, hsqueeze]

/-! ### What comes of armor -/

/-- No escape is in a label and what stands after it, unless it is in one of them. -/
theorem not_escape_label_append (hlabel : ¬escape <:+: label) {rest : List Char}
    (hrest : ¬escape <:+: rest) : ¬escape <:+: label ++ ("-----\n".toList ++ rest) := by
  refine not_escape_append hlabel (not_escape_append_of_notMem (by decide) hrest) ?_
  rintro - more hmore
  cases hmore

/-- No escape is in the text of PEM, unless the label has one. -/
theorem not_escape_framed (hlabel : ¬escape <:+: label) {lines : List (List Char)}
    (hlines : ∀ line ∈ lines, '\\' ∉ line) : ¬escape <:+: Pem.framed label lines := by
  have hbody : '\\' ∉ lines.flatMap (· ++ ['\n']) := by
    intro hc
    obtain ⟨line, hline, hc⟩ := List.mem_flatMap.mp hc
    rcases List.mem_append.mp hc with hc | hc
    · exact hlines line hline hc
    · exact absurd hc (by decide)
  have hend : ¬escape <:+: "-----END ".toList ++ (label ++ ("-----\n".toList ++ [])) :=
    not_escape_append_of_notMem (by decide)
      (not_escape_label_append hlabel (not_escape_of_notMem List.not_mem_nil))
  have hrest := not_escape_append_of_notMem hbody hend
  have hframed := not_escape_append_of_notMem (by decide : '\\' ∉ "-----BEGIN ".toList)
    (not_escape_label_append hlabel hrest)
  unfold Pem.framed
  simpa only [List.append_assoc, List.append_nil] using hframed

/-- A text without an escape that begins as PEM, trimmed, is trimmed. -/
theorem pemText?_of_not_escape {cs : List Char} (h : ¬escape <:+: cs)
    (hopening : Pem.opening <+: trim cs) : pemText? cs label = some (trim cs) := by
  rw [← restoreLineBreaks_of_not_escape h] at hopening
  rw [pemText?_of_opening hopening, restoreLineBreaks_of_not_escape h]

/-- What came of material is **trimmed** when it is taken as material again. -/
theorem pemText?_of_pemText? (h : pemText? material label = some pem)
    (hlabel : Pem.opening <+: trim (restoreLineBreaks material) ∨ ¬escape <:+: label)
    (other : List Char) : pemText? pem other = some (trim pem) := by
  by_cases hopening : Pem.opening <+: trim (restoreLineBreaks material)
  · rw [pemText?_of_opening hopening, Option.some.injEq] at h
    obtain ⟨lead, tail, hpads, -, -⟩ := pads_trim (restoreLineBreaks material)
    rw [h] at hopening hpads
    refine pemText?_of_not_escape (fun hin => not_escape_restoreLineBreaks material ?_) ?_
    · exact hin.trans ⟨lead, tail, hpads.symm⟩
    · rwa [← h, trim_trim, h]
  · obtain ⟨der, -, hspells, rfl⟩ := (pemText?_eq_some_iff hopening).mp h
    have hbody : IsBase64Text (squeeze (trim (restoreLineBreaks material))) :=
      fun c hc => Or.inl (hspells.isBase64Char hc)
    generalize squeeze (trim (restoreLineBreaks material)) = body at hbody ⊢
    refine pemText?_of_not_escape ?_ ?_
    · obtain ⟨lines, hcut, hframed⟩ := Pem.exists_lines label body
      rw [hframed]
      refine not_escape_framed (hlabel.resolve_left hopening) fun line hline hc => hbody.notMem.1 ?_
      rw [← hcut.flatten]
      exact List.mem_flatten.mpr ⟨line, hline, hc⟩
    · have hrest : ∃ rest, Pem.armor label body = Pem.opening ++ rest := by
        unfold Pem.armor
        simp only [List.append_assoc]
        exact ⟨_, rfl⟩
      obtain ⟨rest, hrest⟩ := hrest
      rw [hrest]
      exact isPrefix_trim (by simp [Pem.opening, Pem.dashes, isBlank])

/-- Neither label of a key has an escape. -/
theorem not_escape_label (use : Use) : ¬escape <:+: use.label := by
  cases use <;> exact not_escape_of_notMem (by decide)

/-- **Armor loses nothing.** Escapes in material, between the pieces of it, are replaced by line
breaks, and it is trimmed. If it then begins as PEM, it is taken as it is. Otherwise it is armored
exactly if there is something left of it without blanks and that is base64 for some bytes; and then
it is all there, in lines of 64 characters but for the last, between the lines of the label, and
stands for those bytes. Line breaks of material may be written as escapes, and there may be other
blanks in material of base64 and blanks, with the same outcome; and the outcome, taken as material,
is trimmed. For armor this asks that the label has no escape, as none has that a key can have. -/
theorem armor_loses_nothing (material label : List Char) :
    (∃ pieces : List (List Char), pieces ≠ [] ∧ (∀ piece ∈ pieces, ¬escape <:+: piece) ∧
      material = joinWith escape pieces ∧
      restoreLineBreaks material = joinWith ['\n'] pieces) ∧
    (∀ text body, text = trim (restoreLineBreaks material) → body = squeeze text →
      (Pem.opening <+: text → pemText? material label = some text) ∧
      (¬Pem.opening <+: text →
        ((∃ pem, pemText? material label = some pem) ↔
          body ≠ [] ∧ ∃ der, Base64.Spells body der) ∧
        ∀ pem, pemText? material label = some pem → ∃ lines der, IsCutOf 64 body lines ∧
          pem = Pem.framed label lines ∧ Base64.Spells lines.flatten der ∧
          Base64.decode? Base64.standard lines.flatten = some der)) ∧
    (∀ other, EscapesBreaks material other →
      pemText? other label = pemText? material label) ∧
    (∀ other, IsBase64Text material → squeeze other = squeeze material →
      pemText? other label = pemText? material label) ∧
    (∀ pem other, pemText? material label = some pem →
      Pem.opening <+: trim (restoreLineBreaks material) ∨ ¬escape <:+: label →
      pemText? pem other = some (trim pem)) ∧
    ∀ use : Use, ¬escape <:+: use.label := by
  refine ⟨exists_pieces material, ?_, fun other hescapes => ?_,
    fun other h hsqueeze => pemText?_of_squeeze_eq h hsqueeze,
    fun pem other h hlabel => pemText?_of_pemText? h hlabel other, not_escape_label⟩
  · rintro _ _ rfl rfl
    refine ⟨pemText?_of_opening, fun hopening => ⟨?_, fun pem hpem => ?_⟩⟩
    · simp only [pemText?_eq_some_iff hopening]
      constructor
      · rintro ⟨pem, der, hbody, hspells, -⟩
        exact ⟨hbody, der, hspells⟩
      · rintro ⟨hbody, der, hspells⟩
        exact ⟨_, der, hbody, hspells, rfl⟩
    · obtain ⟨der, -, hspells, rfl⟩ := (pemText?_eq_some_iff hopening).mp hpem
      obtain ⟨lines, hcut, hframed⟩ :=
        Pem.exists_lines label (squeeze (trim (restoreLineBreaks material)))
      refine ⟨lines, der, hcut, hframed, ?_, ?_⟩
      · rw [hcut.flatten]
        exact hspells
      · rw [hcut.flatten]
        exact Base64.decode?_eq_some_iff.mpr hspells
  · rw [pemText?, pemText?, restoreLineBreaks_of_escapes hescapes]

/-- The base64 of 48 zeros, with something between two parts of it. -/
def sampleZeros (between : List Char) : List Char :=
  List.replicate 30 'A' ++ (between ++ List.replicate 34 'A')

/-- The base64 of 48 zeros fills one line, whether there is an escape in it or a wide blank. It is
armored with nothing lost, and its armor is trimmed when it is taken as material. -/
theorem armor_loses_nothing_of_zeros :
    ∃ pem lines, pemText? (sampleZeros escape) Use.sign.label = some pem ∧
      pemText? (sampleZeros ['\u3000']) Use.sign.label = some pem ∧
      IsCutOf 64 (sampleZeros []) lines ∧ pem = Pem.framed Use.sign.label lines ∧
      Base64.decode? Base64.standard lines.flatten = some (List.replicate 48 0) ∧
      pemText? pem Use.sign.label = some (trim pem) := by
  obtain ⟨-, hspec, hescapes, hblanks, hagain, hlabel⟩ :=
    armor_loses_nothing (sampleZeros ['\n']) Use.sign.label
  have htext : sampleZeros ['\n'] = trim (restoreLineBreaks (sampleZeros ['\n'])) := by
    decide +kernel
  have hbody : sampleZeros [] = squeeze (sampleZeros ['\n']) := by decide +kernel
  have hdecode : Base64.decode? Base64.standard (sampleZeros []) =
      some (List.replicate 48 0) := by decide +kernel
  obtain ⟨hiff, hshape⟩ := (hspec _ _ htext hbody).2 (by decide)
  obtain ⟨pem, hpem⟩ := hiff.mpr ⟨by decide, _, Base64.decode?_eq_some_iff.mp hdecode⟩
  obtain ⟨lines, der, hcut, hframed, -, -⟩ := hshape pem hpem
  have hescaped : EscapesBreaks (sampleZeros ['\n']) (sampleZeros escape) := by
    have htail : EscapesBreaks (List.replicate 34 'A') (List.replicate 34 'A') :=
      EscapesBreaks.append_left (List.replicate 34 'A') .nil
    exact (EscapesBreaks.escape htail).append_left _
  have hbase64 : IsBase64Text (sampleZeros ['\n']) := by
    have hzero : Base64.IsBase64Char 'A' := by decide
    intro c hc
    rcases List.mem_append.mp hc with hc | hc
    · exact Or.inl (List.eq_of_mem_replicate hc ▸ hzero)
    · rcases List.mem_cons.mp hc with rfl | hc
      · exact Or.inr rfl
      · exact Or.inl (List.eq_of_mem_replicate hc ▸ hzero)
  have hblank := hblanks (sampleZeros ['\u3000']) hbase64 (by decide +kernel)
  refine ⟨pem, lines, (hescapes _ hescaped).trans hpem, hblank.trans hpem, hcut, hframed, ?_,
    hagain pem _ hpem (Or.inr (hlabel .sign))⟩
  rw [hcut.flatten, hdecode]

end Key

end BearerGate
