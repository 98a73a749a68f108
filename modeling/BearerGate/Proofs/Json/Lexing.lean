import BearerGate.Proofs.Json.Escapes
import BearerGate.Proofs.Json.Grammar

/-!
# Lexing What Was Written

The written form of a value is lexed into the tokens that spell the value. A number has no end of
its own: it is over when something else comes, so the parts of a text are put together by what the
lexer does at the end of the input or at a comma or closing bracket, the only things that can come
after a value.

## Main results

* `Lexes`: a text that the lexer turns into given tokens, wherever it stands.
* `lexes_intercalate`: parts with commas between them.
* `tokens_encode_render`: the written form of a value is lexed into the tokens that spell it.
-/

namespace BearerGate

/-! ### Digits -/

/-- A digit is a character of ASCII. -/
theorem Text.toNat_lt_of_isDigit {c : Char} (h : isDigit c = true) : c.toNat < 0x80 := by
  rw [isDigit_eq, Char.isDigit, Bool.and_eq_true, decide_eq_true_eq, decide_eq_true_eq] at h
  have hle : c.toNat ≤ 57 := UInt32.le_iff_toNat_le.mp h.2
  omega

/-- All that is written of a natural number is digits. -/
theorem Text.isDigit_of_mem_writeNat {n : Nat} {c : Char} (h : c ∈ writeNat n) :
    isDigit c = true := by
  rw [isDigit_eq]
  exact Nat.isDigit_of_mem_toDigits (by decide) (by decide) h

/-- A positive number is written **without a leading zero**. -/
theorem Text.writeNat_of_pos {n : Nat} (h : 0 < n) :
    ∃ c cs, writeNat n = c :: cs ∧ c ≠ '0' := by
  induction n using Nat.strongRecOn with
  | ind n ih =>
      by_cases hlt : n < 10
      · refine ⟨n.digitChar, [], Nat.toDigits_of_lt_base hlt, ?_⟩
        have hdigit : ∀ n < 10, 0 < n → n.digitChar ≠ '0' := by decide
        exact hdigit n hlt h
      · obtain ⟨c, cs, hwrite, hc⟩ := ih (n / 10) (by omega) (by omega)
        refine ⟨c, cs ++ [(n % 10).digitChar], ?_, hc⟩
        rw [writeNat, Nat.toDigits_of_base_le (by decide) (by omega), ← writeNat, hwrite]
        rfl

namespace Json

/-! ### What the lexer does next -/

/-- A state of the lexer has **settled** on tokens if it is over with them: at the end of the
input there are these and no more, and at a comma or closing bracket it goes on as if it were
between tokens. -/
def Settled (l : Lexer) (found : List Token) : Prop :=
  l.finish = ⟨.between, found⟩ ∧
    ∀ c ∈ [',', ']', '\x7d'], l.step (UInt8.ofNat c.toNat) = Lexer.start ⟨.between, found⟩ c

/-- Between tokens the lexer has settled. -/
theorem settled_between (found : List Token) : Settled ⟨.between, found⟩ found := by
  refine ⟨rfl, fun c hc => ?_⟩
  simp only [List.mem_cons, List.not_mem_nil, or_false] at hc
  rcases hc with rfl | rfl | rfl <;> rfl

/-- A text **spells** tokens if the lexer takes it from between tokens to between tokens and has
found these. -/
def Spells (cs : List Char) (tokens : List Token) : Prop :=
  ∀ found, (Utf8.encode cs).foldl Lexer.step ⟨.between, found⟩ =
    ⟨.between, tokens.reverse ++ found⟩

/-- A text **lexes** as tokens if the lexer, starting between tokens, settles on these. -/
def Lexes (cs : List Char) (tokens : List Token) : Prop :=
  ∀ found, Settled ((Utf8.encode cs).foldl Lexer.step ⟨.between, found⟩) (tokens.reverse ++ found)

variable {cs ds : List Char} {ts us : List Token}

/-- What is spelled is lexed. -/
theorem Spells.lexes (h : Spells cs ts) : Lexes cs ts := by
  intro found
  rw [h found]
  exact settled_between _

/-- Nothing spells no tokens. -/
theorem spells_nil : Spells [] [] := fun _ => rfl

/-- Texts that spell tokens do so one after the other. -/
theorem Spells.append (hcs : Spells cs ts) (hds : Spells ds us) :
    Spells (cs ++ ds) (ts ++ us) := by
  intro found
  rw [Utf8.encode_append, List.foldl_append, hcs found, hds, List.reverse_append,
    List.append_assoc]

/-- A text that is lexed may stand behind one that spells tokens. -/
theorem Spells.append_lexes (hcs : Spells cs ts) (hds : Lexes ds us) :
    Lexes (cs ++ ds) (ts ++ us) := by
  intro found
  rw [Utf8.encode_append, List.foldl_append, hcs found, List.reverse_append, List.append_assoc]
  exact hds _

/-- A text that is lexed spells its tokens **once a comma or closing bracket** comes. -/
theorem Lexes.append_mark (hcs : Lexes cs ts) {c : Char} (hc : c ∈ [',', ']', '\x7d'])
    (hds : Spells (c :: ds) us) : Spells (cs ++ c :: ds) (ts ++ us) := by
  intro found
  have hascii : c.toNat < 0x80 := by
    simp only [List.mem_cons, List.not_mem_nil, or_false] at hc
    rcases hc with rfl | rfl | rfl <;> decide
  have hmark := hds (ts.reverse ++ found)
  rw [Utf8.encode_cons_of_lt hascii, List.foldl_cons,
    (settled_between (ts.reverse ++ found)).2 c hc] at hmark
  rw [Utf8.encode_append, List.foldl_append, Utf8.encode_cons_of_lt hascii, List.foldl_cons,
    (hcs found).2 c hc, hmark, List.reverse_append, List.append_assoc]

/-- What a whole text is lexed as are its tokens. -/
theorem Lexes.tokens_eq (h : Lexes cs ts) : tokens (Utf8.encode cs) = ts := by
  rw [tokens, (h []).1, List.append_nil, List.reverse_reverse]

/-- A quoted text spells one token. -/
theorem spells_quote (cs : List Char) : Spells (quote cs) [.text (some cs)] := by
  intro found
  exact foldl_step_quote cs found

/-- **Parts with commas between them** are lexed as their tokens with commas between them. -/
theorem lexes_intercalate {parts : List (List Char × List Token)}
    (h : ∀ part ∈ parts, Lexes part.1 part.2) :
    Lexes ([','].intercalate (parts.map (·.1))) (joined (parts.map (·.2))) := by
  induction parts with
  | nil => exact spells_nil.lexes
  | cons part parts ih =>
      have hpart := h part List.mem_cons_self
      cases parts with
      | nil =>
          simpa [joined, moreTokens] using hpart
      | cons next parts =>
          have hmore := ih fun p hp => h p (List.mem_cons_of_mem part hp)
          have hcomma : Spells [','] [.comma] := fun _ => rfl
          have happend := (hpart.append_mark (by decide) hcomma).append_lexes hmore
          simpa [joined, moreTokens, List.intercalate] using happend

/-! ### Numbers -/

/-- A digit goes on with the digits of a number that did not start with zero. -/
theorem step_digit {c : Char} (h : Text.isDigit c = true) (content : List Char)
    (found : List Token) : Lexer.step ⟨.number .whole content, found⟩ (UInt8.ofNat c.toNat) =
      ⟨.number .whole (c :: content), found⟩ := by
  simp only [Lexer.step, Utf8.charOfNat_byteOf (Text.toNat_lt_of_isDigit h), NumberPart.next?, h]
  rfl

/-- Digits go on with those of a number that did not start with zero. -/
theorem foldl_step_digits (hds : ∀ c ∈ ds, Text.isDigit c = true) (content : List Char)
    (found : List Token) : (Utf8.encode ds).foldl Lexer.step ⟨.number .whole content, found⟩ =
      ⟨.number .whole (ds.reverse ++ content), found⟩ := by
  induction ds generalizing content with
  | nil => rfl
  | cons c ds ih =>
      have hc := hds c List.mem_cons_self
      rw [Utf8.encode_cons_of_lt (Text.toNat_lt_of_isDigit hc), List.foldl_cons, step_digit hc,
        ih fun d hd => hds d (List.mem_cons_of_mem c hd)]
      simp

/-- A digit other than zero starts a number that may go on with any digits. -/
theorem start_digit {c : Char} (h : Text.isDigit c = true) (hzero : c ≠ '0') (l : Lexer) :
    l.start c = ⟨.number .whole [c], l.found⟩ := by
  unfold Lexer.start
  split <;> first | exact absurd h (by decide) | exact absurd rfl hzero | exact if_pos h

/-- A whole number may end anywhere. -/
theorem settled_number {part : NumberPart} (hpart : part = .zero ∨ part = .whole)
    (content : List Char) (found : List Token) :
    Settled ⟨.number part content, found⟩ (.number (Number.ofText content.reverse) :: found) := by
  rcases hpart with rfl | rfl
  · refine ⟨rfl, fun c hc => ?_⟩
    simp only [List.mem_cons, List.not_mem_nil, or_false] at hc
    rcases hc with rfl | rfl | rfl <;> rfl
  · refine ⟨rfl, fun c hc => ?_⟩
    simp only [List.mem_cons, List.not_mem_nil, or_false] at hc
    rcases hc with rfl | rfl | rfl <;> rfl

/-- The digits of a natural number, whatever stands before them, lead to the digits of a number
that may end. -/
theorem foldl_step_writeNat {l : Lexer} {content : List Char} {found : List Token}
    (hwhole : ∀ c, Text.isDigit c = true → c ≠ '0' →
      l.step (UInt8.ofNat c.toNat) = ⟨.number .whole (c :: content), found⟩)
    (hzero : l.step (UInt8.ofNat '0'.toNat) = ⟨.number .zero ('0' :: content), found⟩) (n : Nat) :
    ∃ part, (part = .zero ∨ part = .whole) ∧ (Utf8.encode (Text.writeNat n)).foldl Lexer.step l =
      ⟨.number part ((Text.writeNat n).reverse ++ content), found⟩ := by
  rcases Nat.eq_zero_or_pos n with rfl | hpos
  · exact ⟨.zero, Or.inl rfl, hzero⟩
  · obtain ⟨c, cs, hwrite, hc⟩ := Text.writeNat_of_pos hpos
    have hdigits : ∀ d ∈ c :: cs, Text.isDigit d = true := by
      rw [← hwrite]
      exact fun d => Text.isDigit_of_mem_writeNat
    have hdigit := hdigits c List.mem_cons_self
    refine ⟨.whole, Or.inr rfl, ?_⟩
    rw [hwrite, Utf8.encode_cons_of_lt (Text.toNat_lt_of_isDigit hdigit), List.foldl_cons,
      hwhole c hdigit hc, foldl_step_digits fun d hd => hdigits d (List.mem_cons_of_mem c hd)]
    simp

/-- The text of an integer is read as the number that it was written from. -/
theorem Number.ofText_text_ofInt (n : Int) : Number.ofText (Number.ofInt n).text = Number.ofInt n := by
  have hdigits : ∀ c ∈ Text.writeNat n.natAbs, Text.isDigit c = true :=
    fun c => Text.isDigit_of_mem_writeNat
  have htake : (Text.writeNat n.natAbs ++ []).takeWhile Text.isDigit = Text.writeNat n.natAbs ++ [] :=
    List.takeWhile_append_of_pos hdigits
  have hdrop : (Text.writeNat n.natAbs ++ []).dropWhile Text.isDigit = [] :=
    List.dropWhile_append_of_pos hdigits
  rw [List.append_nil] at htake hdrop
  by_cases hneg : n < 0
  · simp [Number.ofText, Number.text, Number.ofInt, hneg, htake, hdrop]
  · have hhead : (Text.writeNat n.natAbs).head? ≠ some '-' := by
      intro heq
      have hminus := hdigits '-' (List.mem_of_head? heq)
      exact absurd hminus (by decide)
    simp [Number.ofText, Number.text, Number.ofInt, hneg, htake, hdrop, hhead]

/-- The value of a number that is written from an integer. -/
theorem Number.int?_ofInt (n : Int) : (Number.ofInt n).int? = some n := by
  have hvalue : Text.ofDigits (Text.writeNat n.natAbs) = n.natAbs :=
    Nat.ofDigitChars_toDigits (by decide) (by decide)
  simp only [Number.int?, Number.ofInt, hvalue, decide_eq_true_eq]
  by_cases hneg : n < 0
  · have hzero : n.natAbs ≠ 0 := by omega
    have hback : -(n.natAbs : Int) = n := by omega
    rw [if_neg (by simp), if_pos hneg, if_neg hzero, hback]
  · have hback : (n.natAbs : Int) = n := by omega
    rw [if_neg (by simp), if_neg hneg, hback]

/-- The text of an integer is lexed as **one number**. -/
theorem lexes_ofInt (n : Int) : Lexes (Number.ofInt n).text [.number (Number.ofInt n)] := by
  intro found
  by_cases hneg : n < 0
  · have htext : (Number.ofInt n).text = '-' :: Text.writeNat n.natAbs := by
      simp [Number.text, Number.ofInt, hneg]
    have hwhole : ∀ c, Text.isDigit c = true → c ≠ '0' →
        Lexer.step ⟨.number .sign ['-'], found⟩ (UInt8.ofNat c.toNat) =
          ⟨.number .whole [c, '-'], found⟩ := by
      intro c hc hzero
      simp only [Lexer.step, Utf8.charOfNat_byteOf (Text.toNat_lt_of_isDigit hc),
        NumberPart.next?, hc]
      simp [hzero]
    obtain ⟨part, hpart, hfold⟩ := foldl_step_writeNat hwhole rfl n.natAbs
    have hminus : Lexer.step ⟨.between, found⟩ (UInt8.ofNat '-'.toNat) =
        ⟨.number .sign ['-'], found⟩ := rfl
    have hsettled := settled_number hpart ((Text.writeNat n.natAbs).reverse ++ ['-']) found
    rw [List.reverse_append, List.reverse_reverse, List.reverse_singleton, List.singleton_append,
      ← htext, Number.ofText_text_ofInt] at hsettled
    rw [htext, Utf8.encode_cons_of_lt (by decide), List.foldl_cons, hminus, hfold]
    exact hsettled
  · have htext : (Number.ofInt n).text = Text.writeNat n.natAbs := by
      simp [Number.text, Number.ofInt, hneg]
    have hwhole : ∀ c, Text.isDigit c = true → c ≠ '0' →
        Lexer.step ⟨.between, found⟩ (UInt8.ofNat c.toNat) = ⟨.number .whole [c], found⟩ := by
      intro c hc hzero
      simp only [Lexer.step, Utf8.charOfNat_byteOf (Text.toNat_lt_of_isDigit hc)]
      exact start_digit hc hzero _
    obtain ⟨part, hpart, hfold⟩ := foldl_step_writeNat hwhole rfl n.natAbs
    have hsettled := settled_number hpart ((Text.writeNat n.natAbs).reverse ++ []) found
    rw [List.reverse_append, List.reverse_reverse, List.reverse_nil, List.nil_append, ← htext,
      Number.ofText_text_ofInt] at hsettled
    rw [htext, hfold, ← htext]
    exact hsettled

/-! ### Values -/

/-- A value whose numbers are **integers**. -/
inductive Value.HasIntegers : Value → Prop
  | null : HasIntegers .null
  | bool (b : Bool) : HasIntegers (.bool b)
  | int (n : Int) : HasIntegers (.int n)
  | text (s : String) : HasIntegers (.text s)
  | list {items : List Value} (h : ∀ v ∈ items, HasIntegers v) : HasIntegers (.list items)
  | object {members : List (String × Value)} (h : ∀ m ∈ members, HasIntegers m.2) :
      HasIntegers (.object members)

/-- A list of texts holds no numbers at all. -/
theorem Value.HasIntegers.texts (texts : List String) :
    (Value.list (texts.map .text)).HasIntegers := by
  refine .list fun v hv => ?_
  obtain ⟨s, -, rfl⟩ := List.mem_map.mp hv
  exact .text s

/-- The written form of a member. -/
def renderMember (m : String × Value) : List Char :=
  quote m.1.toList ++ ':' :: m.2.render

/-- The items of a list are written with commas between them. -/
theorem Value.renderItems_eq (items : List Value) :
    Value.renderItems items = [','].intercalate (items.map Value.render) := by
  induction items with
  | nil => rfl
  | cons v items ih =>
      cases items with
      | nil => simp [Value.renderItems]
      | cons w items =>
          rw [Value.renderItems, ih]
          · simp [List.intercalate]
          · simp

/-- The members of an object are written with commas between them. -/
theorem Value.renderMembers_eq (members : List (String × Value)) :
    Value.renderMembers members = [','].intercalate (members.map renderMember) := by
  induction members with
  | nil => rfl
  | cons m members ih =>
      obtain ⟨k, v⟩ := m
      cases members with
      | nil => simp [Value.renderMembers, renderMember]
      | cons w members =>
          rw [Value.renderMembers, ih]
          · simp [List.intercalate, renderMember]
          · simp

/-- The written form of a value is **lexed as the tokens** that spell it. The induction is on the
value: its parts are lexed, and so is what stands around them. -/
theorem lexes_render {v : Value} (h : v.HasIntegers) : Lexes v.render v.tokens := by
  induction h with
  | null => exact Spells.lexes fun _ => rfl
  | bool b => cases b <;> exact Spells.lexes fun _ => rfl
  | int n => exact lexes_ofInt n
  | text s => exact (spells_quote s.toList).lexes
  | @list items _ ih =>
      have hopen : Spells ['['] [.openList] := fun _ => rfl
      have hclose : Spells [']'] [.closeList] := fun _ => rfl
      have hitems : Lexes (Value.renderItems items) (joined (Value.itemTokens items)) := by
        have hparts : ∀ part ∈ items.map (fun v => (v.render, v.tokens)),
            Lexes part.1 part.2 := by
          intro part hpart
          obtain ⟨v, hv, rfl⟩ := List.mem_map.mp hpart
          exact ih v hv
        have hjoined := lexes_intercalate hparts
        rw [List.map_map, List.map_map] at hjoined
        rw [Value.renderItems_eq, Value.itemTokens_eq_map]
        exact hjoined
      exact (hopen.append (hitems.append_mark (by decide) hclose)).lexes
  | @object members _ ih =>
      have hopen : Spells ['\x7b'] [.openObject] := fun _ => rfl
      have hclose : Spells ['\x7d'] [.closeObject] := fun _ => rfl
      have hcolon : Spells [':'] [.colon] := fun _ => rfl
      have hmember : ∀ m ∈ members, Lexes (renderMember m)
          (pairTokens (some m.1.toList, m.2.tokens)) := by
        intro m hm
        have hlexes := ((spells_quote m.1.toList).append hcolon).append_lexes (ih m hm)
        rw [List.append_assoc] at hlexes
        exact hlexes
      have hmembers : Lexes (Value.renderMembers members)
          (joined ((Value.pairs members).map pairTokens)) := by
        have hparts : ∀ part ∈ members.map (fun m =>
            (renderMember m, pairTokens (some m.1.toList, m.2.tokens))), Lexes part.1 part.2 := by
          intro part hpart
          obtain ⟨m, hm, rfl⟩ := List.mem_map.mp hpart
          exact hmember m hm
        have hjoined := lexes_intercalate hparts
        rw [List.map_map, List.map_map] at hjoined
        rw [Value.renderMembers_eq, Value.pairs_eq_map, List.map_map]
        exact hjoined
      exact (hopen.append (hmembers.append_mark (by decide) hclose)).lexes

/-- The written form of a value is **lexed into the tokens** that spell it. -/
theorem tokens_encode_render {v : Value} (h : v.HasIntegers) :
    tokens (Utf8.encode v.render) = v.tokens :=
  (lexes_render h).tokens_eq

end Json

end BearerGate
