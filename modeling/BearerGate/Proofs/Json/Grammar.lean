import BearerGate.Json.Reader

/-!
# The Grammar of JSON

What the tokens of a JSON text have to be, one rule for each kind of value. The readers take
values from the front of a row of tokens without building anything to look back at; the results
here say that what they have taken is a value of the grammar, whole, so that nothing that
belongs to one value is ever read as part of another.

## Main results

* `skip_sound`: what is passed over is one value.
* `readValue_sound`: a value that is read is the one that its tokens spell.
-/

namespace BearerGate.Json

/-! ### Values as tokens -/

/-- Parts of a list or object after the first, each behind its comma. -/
def moreTokens (parts : List (List Token)) : List Token :=
  parts.flatMap (.comma :: ·)

/-- Parts of a list or object with commas between them. -/
def joined : List (List Token) → List Token
  | [] => []
  | part :: more => part ++ moreTokens more

/-- A member of an object: the content of its name, and the tokens of its value. -/
abbrev Pair := Option (List Char) × List Token

/-- The tokens of a member of an object. -/
def pairTokens (pair : Pair) : List Token :=
  .text pair.1 :: .colon :: pair.2

/-- A row of tokens that is one **value**. -/
inductive IsValue : List Token → Prop
  | null : IsValue [.null]
  | bool (b : Bool) : IsValue [.bool b]
  | text (content : Option (List Char)) : IsValue [.text content]
  | number (n : Number) : IsValue [.number n]
  | list {items : List (List Token)} (h : ∀ v ∈ items, IsValue v) :
      IsValue (.openList :: (joined items ++ [.closeList]))
  | object {pairs : List Pair} (h : ∀ p ∈ pairs, IsValue p.2) :
      IsValue (.openObject :: (joined (pairs.map pairTokens) ++ [.closeObject]))

/-- Parts after the first, the next of which is split off. -/
theorem moreTokens_cons (part : List Token) (more : List (List Token)) :
    moreTokens (part :: more) = .comma :: (part ++ moreTokens more) := rfl

/-! ### Passing over a value -/

/-- What **closes** a row of frames, innermost first: for each of them its remaining parts and
its closing bracket. -/
def Closes : List Frame → List Token → List Token → Prop
  | [], tokens, rest => tokens = rest
  | .list :: outer, tokens, rest => ∃ items after, (∀ v ∈ items, IsValue v) ∧
      tokens = moreTokens items ++ .closeList :: after ∧ Closes outer after rest
  | .object :: outer, tokens, rest => ∃ (pairs : List Pair) (after : List Token),
      (∀ p ∈ pairs, IsValue p.2) ∧
      tokens = moreTokens (pairs.map pairTokens) ++ .closeObject :: after ∧
      Closes outer after rest

/-- What is **expected** at a point where a value is passed over, and then closes the frames. -/
def Meets : Expected → List Frame → List Token → List Token → Prop
  | .value, frames, tokens, rest =>
      ∃ v after, IsValue v ∧ tokens = v ++ after ∧ Closes frames after rest
  | .firstItem, .list :: outer, tokens, rest => ∃ items after, (∀ v ∈ items, IsValue v) ∧
      tokens = joined items ++ .closeList :: after ∧ Closes outer after rest
  | .firstMember, .object :: outer, tokens, rest => ∃ (pairs : List Pair) (after : List Token),
      (∀ p ∈ pairs, IsValue p.2) ∧
      tokens = joined (pairs.map pairTokens) ++ .closeObject :: after ∧ Closes outer after rest
  | .member, .object :: outer, tokens, rest => ∃ (p : Pair) (after : List Token), IsValue p.2 ∧
      tokens = pairTokens p ++ after ∧ Closes (.object :: outer) after rest
  | .colon, .object :: outer, tokens, rest => ∃ v after, IsValue v ∧
      tokens = .colon :: (v ++ after) ∧ Closes (.object :: outer) after rest
  | .separator, frames, tokens, rest => Closes frames tokens rest
  | _, _, _, _ => True

/-- A value after a comma, and what closes the list it stands in. -/
theorem closes_list_of_value {outer : List Frame} {tokens rest : List Token}
    (h : Meets .value (.list :: outer) tokens rest) :
    Closes (.list :: outer) (.comma :: tokens) rest := by
  obtain ⟨v, after, hv, rfl, items, after', hitems, rfl, hcloses⟩ := h
  refine ⟨v :: items, after', List.forall_mem_cons.mpr ⟨hv, hitems⟩, ?_, hcloses⟩
  rw [moreTokens_cons]
  simp

/-- A value in front of a list, and what closes the list. -/
theorem meets_firstItem_of_value {outer : List Frame} {tokens rest : List Token}
    (h : Meets .value (.list :: outer) tokens rest) :
    Meets .firstItem (.list :: outer) tokens rest := by
  obtain ⟨v, after, hv, rfl, items, after', hitems, rfl, hcloses⟩ := h
  refine ⟨v :: items, after', List.forall_mem_cons.mpr ⟨hv, hitems⟩, ?_, hcloses⟩
  simp [joined]

/-- A member in front of an object, and what closes the object. -/
theorem meets_firstMember_of_member {outer : List Frame} {tokens rest : List Token}
    (h : Meets .member (.object :: outer) tokens rest) :
    Meets .firstMember (.object :: outer) tokens rest := by
  obtain ⟨p, after, hp, rfl, pairs, after', hpairs, rfl, hcloses⟩ := h
  refine ⟨p :: pairs, after', List.forall_mem_cons.mpr ⟨hp, hpairs⟩, ?_, hcloses⟩
  simp [joined]

/-- A member after a comma, and what closes the object it stands in. -/
theorem closes_object_of_member {outer : List Frame} {tokens rest : List Token}
    (h : Meets .member (.object :: outer) tokens rest) :
    Closes (.object :: outer) (.comma :: tokens) rest := by
  obtain ⟨p, after, hp, rfl, pairs, after', hpairs, rfl, hcloses⟩ := h
  refine ⟨p :: pairs, after', List.forall_mem_cons.mpr ⟨hp, hpairs⟩, ?_, hcloses⟩
  rw [List.map_cons, moreTokens_cons]
  simp

/-- A name, and then the colon and value of its member. -/
theorem meets_member_of_colon {outer : List Frame} {name : Option (List Char)}
    {tokens rest : List Token} (h : Meets .colon (.object :: outer) tokens rest) :
    Meets .member (.object :: outer) (.text name :: tokens) rest := by
  obtain ⟨v, after, hv, rfl, hcloses⟩ := h
  exact ⟨(name, v), after, hv, rfl, hcloses⟩

/-- The items of a list that opens here are a value, and the list closes before its frames do. -/
theorem meets_value_of_firstItem {frames : List Frame} {tokens rest : List Token}
    (h : Meets .firstItem (.list :: frames) tokens rest) :
    Meets .value frames (.openList :: tokens) rest := by
  obtain ⟨items, after, hitems, rfl, hcloses⟩ := h
  exact ⟨_, after, .list hitems, by simp, hcloses⟩

/-- The members of an object that opens here are a value, and the object closes before its
frames do. -/
theorem meets_value_of_firstMember {frames : List Frame} {tokens rest : List Token}
    (h : Meets .firstMember (.object :: frames) tokens rest) :
    Meets .value frames (.openObject :: tokens) rest := by
  obtain ⟨pairs, after, hpairs, rfl, hcloses⟩ := h
  exact ⟨_, after, .object hpairs, by simp, hcloses⟩

/-- Without frames nothing is left to close; with some, the passing over goes on. -/
theorem closes_of_skip {frames : List Frame} {tokens rest : List Token}
    (ih : ∀ expected frames, skipWithin expected frames tokens = .ok rest →
      Meets expected frames tokens rest)
    (h : (if frames.isEmpty then .ok tokens else skipWithin .separator frames tokens) =
      .ok rest) : Closes frames tokens rest := by
  split at h
  · next hempty =>
    rw [List.isEmpty_iff] at hempty
    subst hempty
    exact Except.ok.inj h
  · exact ih .separator frames h

/-- Whatever is passed over **meets** what is expected. The induction is on the tokens, for all
frames at once, because a bracket changes the frames. -/
theorem skipWithin_sound {tokens rest : List Token} :
    ∀ expected frames, skipWithin expected frames tokens = .ok rest →
      Meets expected frames tokens rest := by
  induction tokens with
  | nil =>
      intro expected frames h
      cases expected <;> cases frames <;> cases h
  | cons token tokens ih =>
      intro expected frames h
      cases expected with
      | value =>
          cases token <;> simp only [skipWithin] at h <;> first | cases h | skip
          case openList => exact meets_value_of_firstItem (ih _ _ h)
          case openObject => exact meets_value_of_firstMember (ih _ _ h)
          case null => exact ⟨_, _, .null, rfl, closes_of_skip ih h⟩
          case bool b => exact ⟨_, _, .bool b, rfl, closes_of_skip ih h⟩
          case text content => exact ⟨_, _, .text content, rfl, closes_of_skip ih h⟩
          case number n => exact ⟨_, _, .number n, rfl, closes_of_skip ih h⟩
      | firstItem =>
          rcases frames with - | ⟨- | -, outer⟩
          · trivial
          · cases token <;> simp only [skipWithin, List.tail_cons] at h <;> first | cases h | skip
            case closeList => exact ⟨[], tokens, by simp, rfl, closes_of_skip ih h⟩
            case openList =>
              exact meets_firstItem_of_value (meets_value_of_firstItem (ih _ _ h))
            case openObject =>
              exact meets_firstItem_of_value (meets_value_of_firstMember (ih _ _ h))
            case null =>
              exact meets_firstItem_of_value ⟨_, _, .null, rfl, ih _ _ h⟩
            case bool b =>
              exact meets_firstItem_of_value ⟨_, _, .bool b, rfl, ih _ _ h⟩
            case text content =>
              exact meets_firstItem_of_value ⟨_, _, .text content, rfl, ih _ _ h⟩
            case number n =>
              exact meets_firstItem_of_value ⟨_, _, .number n, rfl, ih _ _ h⟩
          · trivial
      | firstMember =>
          rcases frames with - | ⟨- | -, outer⟩
          · trivial
          · trivial
          · cases token <;> simp only [skipWithin, List.tail_cons] at h <;> first | cases h | skip
            case closeObject => exact ⟨[], tokens, by simp, rfl, closes_of_skip ih h⟩
            case text content =>
              exact meets_firstMember_of_member (meets_member_of_colon (ih _ _ h))
      | member =>
          rcases frames with - | ⟨- | -, outer⟩
          · trivial
          · trivial
          · cases token <;> simp only [skipWithin] at h <;> first | cases h | skip
            case text content => exact meets_member_of_colon (ih _ _ h)
      | colon =>
          rcases frames with - | ⟨- | -, outer⟩
          · trivial
          · trivial
          · cases token <;> simp only [skipWithin] at h <;> first | cases h | skip
            case colon =>
              obtain ⟨v, after, hv, rfl, hcloses⟩ := ih _ _ h
              exact ⟨v, after, hv, rfl, hcloses⟩
      | separator =>
          rcases frames with - | ⟨- | -, outer⟩
          · exact Except.ok.inj h
          · cases token <;> simp only [skipWithin] at h <;> first | cases h | skip
            case comma => exact closes_list_of_value (ih _ _ h)
            case closeList => exact ⟨[], tokens, by simp, rfl, closes_of_skip ih h⟩
          · cases token <;> simp only [skipWithin] at h <;> first | cases h | skip
            case comma => exact closes_object_of_member (ih _ _ h)
            case closeObject => exact ⟨[], tokens, by simp, rfl, closes_of_skip ih h⟩

/-- What is **passed over** is one value. -/
theorem skip_sound {tokens rest : List Token} (h : skip tokens = .ok ((), rest)) :
    ∃ v, IsValue v ∧ tokens = v ++ rest := by
  rw [skip] at h
  cases hskip : skipWithin .value [] tokens with
  | error p => rw [hskip] at h; cases h
  | ok after =>
      rw [hskip] at h
      cases h
      obtain ⟨v, after, hv, rfl, rfl⟩ := skipWithin_sound _ _ hskip
      exact ⟨v, hv, rfl⟩

/-! ### Reading a value -/

mutual

/-- The tokens that **spell** a value. -/
def Value.tokens : Value → List Token
  | .null => [.null]
  | .bool b => [.bool b]
  | .number n => [.number n]
  | .text s => [.text (some s.toList)]
  | .list items => .openList :: (joined (Value.itemTokens items) ++ [.closeList])
  | .object members =>
    .openObject :: (joined ((Value.pairs members).map pairTokens) ++ [.closeObject])

/-- The tokens of each of the items of a list. -/
def Value.itemTokens : List Value → List (List Token)
  | [] => []
  | v :: rest => v.tokens :: Value.itemTokens rest

/-- The members of an object with their tokens. -/
def Value.pairs : List (String × Value) → List Pair
  | [] => []
  | (k, v) :: rest => (some k.toList, v.tokens) :: Value.pairs rest

end

/-- The tokens of the items of a list, item by item. -/
theorem Value.itemTokens_eq_map (items : List Value) :
    Value.itemTokens items = items.map Value.tokens := by
  induction items with
  | nil => rfl
  | cons v items ih => rw [Value.itemTokens, ih, List.map_cons]

/-- The members of an object, member by member. -/
theorem Value.pairs_eq_map (members : List (String × Value)) :
    Value.pairs members = members.map fun m => (some m.1.toList, m.2.tokens) := by
  induction members with
  | nil => rfl
  | cons m members ih => rw [Value.pairs, ih, List.map_cons]

mutual

/-- The tokens that spell a value are one value. -/
theorem Value.isValue_tokens : ∀ v : Value, IsValue v.tokens
  | .null => .null
  | .bool b => .bool b
  | .number n => .number n
  | .text _ => .text _
  | .list items => .list (Value.isValue_itemTokens items)
  | .object members => .object (Value.isValue_pairs members)

theorem Value.isValue_itemTokens : ∀ items, ∀ v ∈ Value.itemTokens items, IsValue v
  | [] => by simp [Value.itemTokens]
  | v :: rest => by
    rw [Value.itemTokens]
    exact List.forall_mem_cons.mpr ⟨v.isValue_tokens, Value.isValue_itemTokens rest⟩

theorem Value.isValue_pairs : ∀ members, ∀ p ∈ Value.pairs members, IsValue p.2
  | [] => by simp [Value.pairs]
  | (_, v) :: rest => by
    rw [Value.pairs]
    exact List.forall_mem_cons.mpr ⟨v.isValue_tokens, Value.isValue_pairs rest⟩

end

/-- The three readers of values **take what they spell**: a value; the items of a list behind
those done; the members of an object behind those done. -/
theorem readAny_sound (fuel : Nat) :
    (∀ depth tokens v rest, readAny fuel depth tokens = .ok (v, rest) →
      tokens = v.tokens ++ rest) ∧
    (∀ depth done tokens v rest, readItems fuel depth done tokens = .ok (v, rest) →
      ∃ first items, v = .list (done.reverse ++ first :: items) ∧
        tokens = joined ((first :: items).map Value.tokens) ++ .closeList :: rest) ∧
    (∀ depth done tokens v rest, readPairs fuel depth done tokens = .ok (v, rest) →
      ∃ first members, v = .object (done.reverse ++ first :: members) ∧
        tokens = joined ((Value.pairs (first :: members)).map pairTokens) ++
          .closeObject :: rest) := by
  induction fuel with
  | zero =>
      refine ⟨?_, ?_, ?_⟩
      · intro depth tokens v rest h
        simp [readAny] at h
      · intro depth done tokens v rest h
        simp [readItems] at h
      · intro depth done tokens v rest h
        simp [readPairs] at h
  | succ fuel ih =>
      obtain ⟨ihAny, ihItems, ihPairs⟩ := ih
      refine ⟨?_, ?_, ?_⟩
      · intro depth tokens v rest h
        unfold readAny at h
        split at h
        · cases h
          rfl
        · cases h
          rfl
        · cases h
          simp [Value.tokens]
        · split at h
          · cases h
          · cases h
            rfl
        · cases h
          rfl
        · next more depth _ =>
          obtain ⟨first, items, rfl, rfl⟩ := ihItems _ _ _ _ _ h
          simp [Value.tokens, Value.itemTokens_eq_map]
        · cases h
          rfl
        · next more depth _ =>
          obtain ⟨first, members, rfl, rfl⟩ := ihPairs _ _ _ _ _ h
          simp [Value.tokens]
        · cases h
      · intro depth done tokens v rest h
        rw [readItems] at h
        split at h
        · cases h
        · next w more hw =>
          obtain rfl := ihAny _ _ _ _ hw
          obtain ⟨first, items, rfl, rfl⟩ := ihItems _ _ _ _ _ h
          refine ⟨w, first :: items, by simp, ?_⟩
          simp [joined, moreTokens_cons]
        · next w more hw =>
          obtain rfl := ihAny _ _ _ _ hw
          cases h
          exact ⟨w, [], by simp, by simp [joined, moreTokens]⟩
        · cases h
      · intro depth done tokens v rest h
        unfold readPairs at h
        split at h
        · next k more =>
          split at h
          · cases h
          · next w more hw =>
            obtain rfl := ihAny _ _ _ _ hw
            obtain ⟨first, members, rfl, rfl⟩ := ihPairs _ _ _ _ _ h
            refine ⟨(String.ofList k, w), first :: members, by simp, ?_⟩
            simp [joined, moreTokens_cons, pairTokens, Value.pairs]
          · next w more hw =>
            obtain rfl := ihAny _ _ _ _ hw
            cases h
            refine ⟨(String.ofList k, w), [], by simp, ?_⟩
            simp [joined, moreTokens, pairTokens, Value.pairs]
          · cases h
        · cases h

/-- A value that is **read** is the one that the tokens taken spell. -/
theorem readValue_sound {depth : Nat} {tokens rest : List Token} {v : Value}
    (h : readValue depth tokens = .ok (v, rest)) : tokens = v.tokens ++ rest :=
  (readAny_sound _).1 _ _ _ _ h

end BearerGate.Json
