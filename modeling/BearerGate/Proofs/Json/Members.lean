import BearerGate.Proofs.Json.Grammar
import BearerGate.Proofs.Outcome

/-!
# Reading Values and Members

The readers of JSON against its grammar. A reader of values takes one value from the front of the
tokens. The reader of an object hands the members to a function one by one, in order; so an
invariant of that function that speaks of the members so far speaks, at the end, of them all, and
members that the function takes one after the other are read as a whole.

## Main results

* `TakesValue`, `TakesSpelled`: the readers of values of a known shape take values of the grammar.
* `readInt64_eq_ok_iff`: the tokens that are read as an integer.
* `readMembers_sound`: an invariant of the members read.
* `readMembers_of_takesAll`: members that are taken one by one are read.
-/

namespace BearerGate.Json

/-! ### Readers of values -/

/-- A reader **takes values**: whatever it succeeds on starts with a value, and it leaves the
tokens after that. -/
def TakesValue {α : Type} (read : List Token → Read α) : Prop :=
  ∀ ⦃tokens a rest⦄, read tokens = .ok (a, rest) → ∃ v, IsValue v ∧ tokens = v ++ rest

/-- A reader takes values that **spell** what it finds. -/
def TakesSpelled {α : Type} (read : List Token → Read α) (spells : α → List Token → Prop) : Prop :=
  ∀ ⦃tokens a rest⦄, read tokens = .ok (a, rest) →
    ∃ v, IsValue v ∧ tokens = v ++ rest ∧ spells a v

/-- A reader that takes values takes them as spelled in any way at all. -/
theorem TakesValue.takesSpelled {α : Type} {read : List Token → Read α} (h : TakesValue read) :
    TakesSpelled read fun _ _ => True := by
  intro tokens a rest hread
  obtain ⟨v, hv, heq⟩ := h hread
  exact ⟨v, hv, heq, trivial⟩

/-- The tokens that are read as a text. -/
theorem readText_eq_ok_iff {tokens rest : List Token} {cs : List Char} :
    readText tokens = .ok (cs, rest) ↔ tokens = .text (some cs) :: rest := by
  constructor
  · intro h
    unfold readText at h
    split at h
    · cases h
      rfl
    · cases h
  · rintro rfl
    rfl

/-- An integer of 64 bits is kept as it is. -/
theorem toInt_ofInt_of_fitsInt64 {i : Int} (h : Text.fitsInt64 i = true) :
    (Int64.ofInt i).toInt = i := by
  simp only [Text.fitsInt64, Bool.and_eq_true, decide_eq_true_eq] at h
  exact Int64.toInt_ofInt_of_le h.1 (Int.lt_of_le_of_lt h.2 (by decide))

/-- The tokens that are **read as an integer** of 64 bits. -/
theorem readInt64_eq_ok_iff {tokens rest : List Token} {i : Int64} :
    readInt64 tokens = .ok (i, rest) ↔
      ∃ n, tokens = .number n :: rest ∧ n.int? = some i.toInt := by
  constructor
  · intro h
    unfold readInt64 at h
    split at h
    · next n more =>
      split at h
      · next value hvalue =>
        obtain ⟨hint, hfits⟩ := Option.filter_eq_some_iff.mp hvalue
        cases h
        exact ⟨n, rfl, by rw [toInt_ofInt_of_fitsInt64 hfits, hint]⟩
      · cases h
    · cases h
  · rintro ⟨n, rfl, hint⟩
    rw [readInt64]
    simp only [hint, Option.filter_some, Text.fitsInt64_toInt, if_true, Int64.ofInt_toInt]

/-- Texts are values. -/
theorem takesValue_readText : TakesValue readText := by
  intro tokens cs rest h
  rw [readText_eq_ok_iff] at h
  exact ⟨_, .text _, h⟩

/-- A value **stands for** what is found in its place: it is null just if that is nothing, and spells
what is found otherwise. -/
def StandsFor {α : Type} (spells : α → List Token → Prop) (found : Option α)
    (value : List Token) : Prop :=
  (found = none ↔ value = [.null]) ∧ ∀ a, found = some a → spells a value

/-- Where null may stand in place of a value, it stands for nothing. -/
theorem TakesSpelled.orNull {α : Type} {read : List Token → Read α}
    {spells : α → List Token → Prop} (hread : TakesSpelled read spells) :
    TakesSpelled (orNull read) (StandsFor spells) := by
  intro tokens found rest h
  unfold Json.orNull at h
  split at h
  · cases h
    exact ⟨_, .null, rfl, by simp, fun a ha => by cases ha⟩
  · next hnull =>
    obtain ⟨⟨a, after⟩, ha, heq⟩ := map_eq_ok_iff.mp h
    cases heq
    obtain ⟨value, hvalue, rfl, hspells⟩ := hread ha
    refine ⟨value, hvalue, rfl, ⟨nofun, ?_⟩, fun b hb => ?_⟩
    · rintro rfl
      exact absurd rfl (hnull rest)
    · cases hb
      exact hspells

/-- Anything that is passed over is a value. -/
theorem takesValue_skip : TakesValue skip := by
  intro tokens a rest h
  exact skip_sound h

/-- The elements of a list after the first are values behind commas. -/
theorem readMore_sound {α : Type} {read : List Token → Read α} (hread : TakesValue read) :
    ∀ {fuel : Nat} {done : List α} {tokens rest : List Token} {items : List α},
      readMore read fuel done tokens = .ok (items, rest) →
      ∃ parts, (∀ v ∈ parts, IsValue v) ∧ tokens = moreTokens parts ++ .closeList :: rest := by
  intro fuel
  induction fuel with
  | zero =>
      intro done tokens rest items h
      unfold readMore at h
      split at h
      · next heq => cases heq
      · cases h
        exact ⟨[], by simp, rfl⟩
      · cases h
  | succ fuel ih =>
      intro done tokens rest items h
      unfold readMore at h
      split at h
      · next heq =>
        cases heq
        split at h
        · next a after ha =>
          obtain ⟨v, hv, rfl⟩ := hread ha
          obtain ⟨parts, hparts, rfl⟩ := ih h
          refine ⟨v :: parts, List.forall_mem_cons.mpr ⟨hv, hparts⟩, ?_⟩
          rw [moreTokens_cons]
          simp
        · cases h
      · cases h
        exact ⟨[], by simp, rfl⟩
      · cases h

/-- A list of values is a value. -/
theorem TakesValue.readList {α : Type} {read : List Token → Read α} (hread : TakesValue read) :
    TakesValue (readList read) := by
  intro tokens items rest h
  unfold Json.readList at h
  split at h
  · cases h
    exact ⟨_, @IsValue.list [] (by simp), rfl⟩
  · split at h
    · next a after ha =>
      obtain ⟨v, hv, rfl⟩ := hread ha
      obtain ⟨parts, hparts, rfl⟩ := readMore_sound hread h
      refine ⟨_, @IsValue.list (v :: parts) (List.forall_mem_cons.mpr ⟨hv, hparts⟩), ?_⟩
      simp [joined]
    · cases h
  · cases h

/-- What stands after a colon is read there. -/
theorem afterColon_eq_ok_iff {α : Type} {read : List Token → Read α} {tokens rest : List Token}
    {a : α} : afterColon read tokens = .ok (a, rest) ↔
      ∃ after, tokens = .colon :: after ∧ read after = .ok (a, rest) := by
  constructor
  · intro h
    unfold afterColon at h
    split at h
    · exact ⟨_, rfl, h⟩
    · cases h
  · rintro ⟨after, rfl, h⟩
    exact h

/-- What is read after a colon and then mapped is spelled by the value there. -/
theorem TakesSpelled.of_map_afterColon {α β : Type} {read : List Token → Read α}
    {spells : α → List Token → Prop} (hread : TakesSpelled read spells) {tokens : List Token}
    {f : α × List Token → β} {b : β} (h : (afterColon read tokens).map f = .ok b) :
    ∃ value a rest, IsValue value ∧ tokens = .colon :: (value ++ rest) ∧ spells a value ∧
      f (a, rest) = b := by
  obtain ⟨⟨a, rest⟩, ha, heq⟩ := map_eq_ok_iff.mp h
  obtain ⟨after, rfl, ha⟩ := afterColon_eq_ok_iff.mp ha
  obtain ⟨value, hvalue, rfl, hspells⟩ := hread ha
  exact ⟨value, a, rest, hvalue, rfl, hspells, heq⟩

/-! ### Members -/

/-- A member of an object as it is read: its name and the tokens of its value. -/
abbrev Member := List Char × List Token

/-- The tokens of a member. -/
def memberTokens (m : Member) : List Token :=
  pairTokens (some m.1, m.2)

/-- The tokens of an **object** with the given members. -/
def objectTokens (members : List Member) : List Token :=
  .openObject :: (joined (members.map memberTokens) ++ [.closeObject])

/-- The values of the members with a name, in order. -/
def valuesNamed (name : String) (members : List Member) : List (List Token) :=
  (members.filter fun m => m.1 = name.toList).map (·.2)

/-- A member more with the name adds its value. -/
theorem valuesNamed_concat_self {name : String} {cs : List Char} (h : String.ofList cs = name)
    (members : List Member) (value : List Token) :
    valuesNamed name (members ++ [(cs, value)]) = valuesNamed name members ++ [value] := by
  subst h
  simp [valuesNamed]

/-- A member more with another name adds nothing. -/
theorem valuesNamed_concat_of_ne {name : String} {cs : List Char} (h : String.ofList cs ≠ name)
    (members : List Member) (value : List Token) :
    valuesNamed name (members ++ [(cs, value)]) = valuesNamed name members := by
  have hne : cs ≠ name.toList := by
    rintro rfl
    exact h String.ofList_toList
  simp [valuesNamed, hne]

section Members

variable {σ : Type} {member : σ → List Char → List Token → Read σ}

/-- A function of members **keeps an invariant** of a state and the members so far: from a state
where it holds, each member that is taken is a value behind a colon, and with that member it holds
again. -/
def KeepsInvariant (member : σ → List Char → List Token → Read σ)
    (inv : σ → List Member → Prop) : Prop :=
  ∀ ⦃s members name tokens s' rest⦄, inv s members → member s name tokens = .ok (s', rest) →
    ∃ value, IsValue value ∧ tokens = .colon :: (value ++ rest) ∧ inv s' (members ++ [(name, value)])

/-- A member whose value is read and put into the state keeps what holds with every value that
spells what was found. -/
theorem TakesSpelled.keeps {α : Type} {read : List Token → Read α}
    {spells : α → List Token → Prop} (hread : TakesSpelled read spells)
    {inv : σ → List Member → Prop} {put : α × List Token → σ × List Token}
    {members : List Member} {name : List Char} {tokens rest : List Token} {s : σ}
    (h : (afterColon read tokens).map put = .ok (s, rest)) (hrest : ∀ x, (put x).2 = x.2)
    (hput : ∀ x value, spells x.1 value → inv (put x).1 (members ++ [(name, value)])) :
    ∃ value, IsValue value ∧ tokens = .colon :: (value ++ rest) ∧
      inv s (members ++ [(name, value)]) := by
  obtain ⟨value, a, found, hvalue, rfl, hspells, heq⟩ := hread.of_map_afterColon h
  have hkept := hput (a, found) value hspells
  have hleft := hrest (a, found)
  rw [heq] at hkept hleft
  obtain rfl : rest = found := hleft
  exact ⟨value, hvalue, rfl, hkept⟩

/-- An invariant is kept over the members after some that have been read. -/
theorem moreMembers_sound {inv : σ → List Member → Prop} (hkeeps : KeepsInvariant member inv) :
    ∀ {fuel : Nat} {s s' : σ} {done : List Member} {tokens rest : List Token}, inv s done →
      moreMembers member fuel s tokens = .ok (s', rest) →
      ∃ members, (∀ m ∈ members, IsValue m.2) ∧
        tokens = moreTokens (members.map memberTokens) ++ .closeObject :: rest ∧
        inv s' (done ++ members) := by
  intro fuel
  induction fuel with
  | zero =>
      intro s s' done tokens rest hinv h
      unfold moreMembers at h
      split at h
      · next heq => cases heq
      · cases h
        exact ⟨[], by simp, rfl, by simpa using hinv⟩
      · cases h
  | succ fuel ih =>
      intro s s' done tokens rest hinv h
      unfold moreMembers at h
      split at h
      · next name more heq =>
        cases heq
        split at h
        · next s₁ after hmember =>
          obtain ⟨value, hvalue, rfl, hinv₁⟩ := hkeeps hinv hmember
          obtain ⟨members, hmembers, rfl, hinv'⟩ := ih hinv₁ h
          refine ⟨(name, value) :: members, List.forall_mem_cons.mpr ⟨hvalue, hmembers⟩, ?_, ?_⟩
          · rw [List.map_cons, moreTokens_cons]
            simp [memberTokens, pairTokens]
          · simpa using hinv'
        · cases h
      · cases h
        exact ⟨[], by simp, rfl, by simpa using hinv⟩
      · cases h

/-- An **invariant of the members** of an object that is read: it holds of all of them if it holds
at the start and each member keeps it. -/
theorem readMembers_sound {inv : σ → List Member → Prop} (hkeeps : KeepsInvariant member inv)
    {start s' : σ} {tokens rest : List Token} (hstart : inv start [])
    (h : readMembers member start tokens = .ok (s', rest)) :
    ∃ members, (∀ m ∈ members, IsValue m.2) ∧
      .openObject :: tokens = objectTokens members ++ rest ∧ inv s' members := by
  unfold readMembers at h
  split at h
  · cases h
    exact ⟨[], by simp, rfl, hstart⟩
  · next name more =>
    split at h
    · next s₁ after hmember =>
      obtain ⟨value, hvalue, rfl, hinv₁⟩ := hkeeps hstart hmember
      obtain ⟨members, hmembers, rfl, hinv'⟩ := moreMembers_sound hkeeps hinv₁ h
      refine ⟨(name, value) :: members, List.forall_mem_cons.mpr ⟨hvalue, hmembers⟩, ?_, hinv'⟩
      simp [objectTokens, joined, memberTokens, pairTokens]
    · cases h
  · cases h

/-- Members that a function **takes** one after the other, whatever tokens follow. -/
inductive TakesAll (member : σ → List Char → List Token → Read σ) : σ → List Member → σ → Prop
  | nil (s : σ) : TakesAll member s [] s
  | cons {s s₁ s' : σ} {m : Member} {members : List Member}
      (h : ∀ rest, member s m.1 (.colon :: (m.2 ++ rest)) = .ok (s₁, rest))
      (more : TakesAll member s₁ members s') : TakesAll member s (m :: members) s'

/-- Members that are taken one after the other are read after some that have been. -/
theorem moreMembers_of_takesAll {s s' : σ} {members : List Member}
    (h : TakesAll member s members s') (rest : List Token) :
    ∀ {fuel : Nat}, members.length ≤ fuel →
      moreMembers member fuel s (moreTokens (members.map memberTokens) ++ .closeObject :: rest) =
        .ok (s', rest) := by
  induction h with
  | nil s =>
      intro fuel _
      cases fuel <;> rfl
  | @cons s s₁ s' m members htake _ ih =>
      intro fuel hfuel
      obtain _ | fuel := fuel
      · cases hfuel
      · have hmore := ih (Nat.le_of_succ_le_succ hfuel)
        have hmember := htake (moreTokens (members.map memberTokens) ++ .closeObject :: rest)
        rw [List.map_cons, moreTokens_cons, memberTokens, pairTokens]
        simp only [List.cons_append, List.append_assoc]
        rw [moreMembers, hmember]
        exact hmore

/-- As many members are read as there are commas at least. -/
theorem length_le_length_moreTokens (parts : List (List Token)) :
    parts.length ≤ (moreTokens parts).length := by
  induction parts with
  | nil => exact Nat.le_refl 0
  | cons part parts ih =>
      rw [moreTokens_cons, List.length_cons, List.length_cons, List.length_append]
      omega

/-- Members that are **taken** one after the other are read. -/
theorem readMembers_of_takesAll {s s' : σ} {members : List Member}
    (h : TakesAll member s members s') (rest : List Token) :
    readMembers member s (joined (members.map memberTokens) ++ .closeObject :: rest) =
      .ok (s', rest) := by
  cases h with
  | nil => rfl
  | @cons _ s₁ _ m members htake hmore =>
      have hmember := htake (moreTokens (members.map memberTokens) ++ .closeObject :: rest)
      have hlength := length_le_length_moreTokens (members.map memberTokens)
      rw [List.length_map] at hlength
      rw [List.map_cons, joined, memberTokens, pairTokens]
      simp only [List.cons_append, List.append_assoc]
      rw [readMembers, hmember]
      refine moreMembers_of_takesAll hmore rest ?_
      rw [List.length_append]
      omega

end Members

end BearerGate.Json
