import Mathlib.Data.Nat.Digits.Defs
import BearerGate.Text.Quoted

/-!
# Quoted Texts Can Be Read Back

A quoted text shows everything that it quotes: what stands between the quotes is spelled character
by character, no spelling is the beginning of another, and none begins with the closing quote. So
two quoted texts are the same only if the texts are, whatever stands behind them.

## Main results

* `Text.spellsChar_quotedChar`: the three ways in which a character is spelled.
* `Text.SpellsChar.append_inj`: no spelling is the beginning of another.
* `Text.quoted_append_inj`: where a quoted text ends, and what it quotes.
-/

namespace BearerGate.Text

/-! ### Hexadecimal -/

/-- The digits are told apart. -/
theorem digitChar_injOn {m n : Nat} (hm : m < 16) (hn : n < 16)
    (h : m.digitChar = n.digitChar) : m = n := by
  have hall : ∀ m < 16, ∀ n < 16, Nat.digitChar m = Nat.digitChar n → m = n := by decide
  exact hall m hm n hn h

/-- A number has some digit. -/
theorem toDigits_ne_nil (n : Nat) : Nat.toDigits 16 n ≠ [] := by
  rw [Nat.toDigits_eq_if (by decide)]
  split <;> simp

/-- A number is told by its hexadecimal digits. -/
theorem toDigits_inj {m n : Nat} (h : Nat.toDigits 16 m = Nat.toDigits 16 n) : m = n := by
  induction m using Nat.strongRecOn generalizing n with
  | ind m ih =>
      rw [Nat.toDigits_eq_if (by decide), Nat.toDigits_eq_if (n := n) (by decide)] at h
      split at h
      · next hm =>
        split at h
        · next hn => exact digitChar_injOn hm hn (List.singleton_inj.mp h)
        · next hn =>
          have hempty := (List.append_inj' (List.nil_append _ |>.trans h) rfl).1
          exact absurd hempty.symm (toDigits_ne_nil _)
      · next hm =>
        split at h
        · next hn =>
          have hempty := (List.append_inj' (h.trans (List.nil_append _).symm) rfl).1
          exact absurd hempty (toDigits_ne_nil _)
        · next hn =>
          obtain ⟨hdiv, hmod⟩ := List.append_inj' h rfl
          have hdiv' : m / 16 = n / 16 := ih (m / 16) (by omega) hdiv
          have hmod' : m % 16 = n % 16 := digitChar_injOn (Nat.mod_lt _ (by decide))
            (Nat.mod_lt _ (by decide)) (List.singleton_inj.mp hmod)
          omega

/-- The closing brace is no hexadecimal digit. -/
theorem brace_not_mem_toDigits (n : Nat) : '\x7d' ∉ Nat.toDigits 16 n := by
  have hdigit : ∀ d < 16, '\x7d' ≠ Nat.digitChar d := by decide
  induction n using Nat.strongRecOn with
  | ind n ih =>
      rw [Nat.toDigits_eq_if (by decide)]
      split
      · next hn => exact mt List.mem_singleton.mp (hdigit n hn)
      · next hn =>
        rw [List.mem_append, List.mem_singleton, not_or]
        exact ⟨ih (n / 16) (by omega), hdigit _ (Nat.mod_lt _ (by decide))⟩

/-! ### Characters -/

/-- The characters that are spelled by a letter behind a backslash, with their letters. -/
def letters : List (Char × Char) :=
  [('"', '"'), ('\\', '\\'), ('\x00', '0'), ('\t', 't'), ('\r', 'r'), ('\n', 'n')]

/-- A letter stands for one character. -/
theorem letters_inj : ∀ p ∈ letters, ∀ q ∈ letters, p.2 = q.2 → p.1 = q.1 := by decide

/-- No letter is the one that announces a code. -/
theorem letters_ne : ∀ p ∈ letters, p.2 ≠ 'u' := by decide

/-- The **spelling** of a character inside a quoted text: itself, a letter behind a backslash, or
its code. -/
inductive SpellsChar : Char → List Char → Prop where
  | plain {c : Char} (hquote : c ≠ '"') (hbackslash : c ≠ '\\') : SpellsChar c [c]
  | letter {c x : Char} (h : (c, x) ∈ letters) : SpellsChar c ['\\', x]
  | code {c : Char} :
      SpellsChar c ('\\' :: 'u' :: '\x7b' :: (Nat.toDigits 16 c.toNat ++ ['\x7d']))

/-- Every character has its spelling. -/
theorem spellsChar_quotedChar (c : Char) : SpellsChar c (quotedChar c) := by
  unfold quotedChar
  split
  · exact .letter (by decide)
  · exact .letter (by decide)
  · exact .letter (by decide)
  · exact .letter (by decide)
  · exact .letter (by decide)
  · exact .letter (by decide)
  · next hquote hbackslash _ _ _ _ =>
    split
    · exact .plain hquote hbackslash
    · exact .code

/-- No spelling begins with a quote. -/
theorem SpellsChar.exists_cons {c : Char} {cs : List Char} (h : SpellsChar c cs) :
    ∃ x rest, cs = x :: rest ∧ x ≠ '"' := by
  cases h with
  | plain hquote _ => exact ⟨_, _, rfl, hquote⟩
  | letter _ => exact ⟨_, _, rfl, by decide⟩
  | code => exact ⟨_, _, rfl, by decide⟩

/-- Texts without a mark are told by what stands before the mark. -/
theorem append_cons_inj_of_not_mem {α : Type} {x : α} {as bs rest rest' : List α} (has : x ∉ as)
    (hbs : x ∉ bs) (h : as ++ x :: rest = bs ++ x :: rest') : as = bs ∧ rest = rest' := by
  induction as generalizing bs with
  | nil =>
      cases bs with
      | nil => exact ⟨rfl, (List.cons.inj h).2⟩
      | cons b bs => exact absurd ((List.cons.inj h).1 ▸ List.mem_cons_self) hbs
  | cons a as ih =>
      rw [List.mem_cons, not_or] at has
      cases bs with
      | nil => exact absurd (List.cons.inj h).1.symm has.1
      | cons b bs =>
          rw [List.mem_cons, not_or] at hbs
          obtain ⟨rfl, htail⟩ := List.cons.inj h
          obtain ⟨rfl, hrest⟩ := ih has.2 hbs.2 htail
          exact ⟨rfl, hrest⟩

/-- **No spelling is the beginning of another.** -/
theorem SpellsChar.append_inj {c d : Char} {cs ds rest rest' : List Char} (hc : SpellsChar c cs)
    (hd : SpellsChar d ds) (h : cs ++ rest = ds ++ rest') : c = d ∧ rest = rest' := by
  cases hc with
  | plain _ hbackslash =>
      cases hd with
      | plain => exact List.cons.inj h
      | letter => exact absurd (List.cons.inj h).1 hbackslash
      | code => exact absurd (List.cons.inj h).1 hbackslash
  | letter hletter =>
      cases hd with
      | plain _ hbackslash => exact absurd (List.cons.inj h).1.symm hbackslash
      | letter hletter' =>
          obtain ⟨rfl, hrest⟩ := List.cons.inj (List.cons.inj h).2
          exact ⟨letters_inj _ hletter _ hletter' rfl, hrest⟩
      | code =>
          obtain ⟨rfl, -⟩ := List.cons.inj (List.cons.inj h).2
          exact absurd rfl (letters_ne _ hletter)
  | code =>
      cases hd with
      | plain _ hbackslash => exact absurd (List.cons.inj h).1.symm hbackslash
      | letter hletter =>
          obtain ⟨rfl, -⟩ := List.cons.inj (List.cons.inj h).2
          exact absurd rfl (letters_ne _ hletter)
      | code =>
          simp only [List.cons_append, List.append_assoc, List.nil_append, List.cons.injEq,
            true_and] at h
          obtain ⟨hdigits, hrest⟩ := append_cons_inj_of_not_mem (brace_not_mem_toDigits _)
            (brace_not_mem_toDigits _) h
          exact ⟨Char.toNat_inj.mp (toDigits_inj hdigits), hrest⟩

/-! ### Texts -/

/-- A **quoted text ends where it does**, and is told by how it is quoted. -/
theorem quoted_append_inj {cs ds rest rest' : List Char}
    (h : quoted cs ++ rest = quoted ds ++ rest') : cs = ds ∧ rest = rest' := by
  simp only [quoted, List.cons_append, List.append_assoc, List.nil_append, List.cons.injEq,
    true_and] at h
  induction cs generalizing ds with
  | nil =>
      cases ds with
      | nil => exact ⟨rfl, (List.cons.inj h).2⟩
      | cons d ds =>
          obtain ⟨x, more, hd, hx⟩ := (spellsChar_quotedChar d).exists_cons
          rw [List.flatMap_cons, hd] at h
          exact absurd (List.cons.inj h).1.symm hx
  | cons c cs ih =>
      obtain ⟨x, more, hc, hx⟩ := (spellsChar_quotedChar c).exists_cons
      cases ds with
      | nil =>
          rw [List.flatMap_cons, hc] at h
          exact absurd (List.cons.inj h).1 hx
      | cons d ds =>
          rw [List.flatMap_cons, List.flatMap_cons, List.append_assoc, List.append_assoc] at h
          obtain ⟨rfl, htail⟩ :=
            (spellsChar_quotedChar c).append_inj (spellsChar_quotedChar d) h
          obtain ⟨rfl, hrest⟩ := ih htail
          exact ⟨rfl, hrest⟩

end BearerGate.Text
