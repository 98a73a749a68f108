import BearerGate.Proofs.Json.Lexing
import BearerGate.Proofs.Token.Parts
import BearerGate.Token.Issuer

/-!
# The Header and the Payload as They Are Written

The other half of what the header and the payload are as JSON: what is written for an algorithm
and an identity is read again as the same algorithm and the same claims. No assumption is made on
the user name, because escapes are undone whatever it holds.

## Main results

* `Json.Value.tokens_object`: the tokens of a written object are those of its members.
* `Json.readValue_texts`: a list of texts is read from the tokens that spell it.
* `Header.read_render`: a header that is written is read.
* `Claims.read_members`: a payload with any claims of the right kinds is read as these.
* `Claims.read_render`: a payload that is written is read, and its claims are those written.
-/

namespace BearerGate

open Json

/-! ### Objects and lists -/

namespace Json

/-- The members of an object as they are read. -/
def membersOf (members : List (String × Value)) : List Member :=
  members.map fun m => (m.1.toList, m.2.tokens)

/-- The tokens of an **object** are those of its members. -/
theorem Value.tokens_object (members : List (String × Value)) :
    (Value.object members).tokens = objectTokens (membersOf members) := by
  rw [Value.tokens, Value.pairs_eq_map, objectTokens, membersOf, List.map_map, List.map_map]
  rfl

/-- The written form of an object is an object. -/
theorem isObject_render {members : List (String × Value)}
    (h : (Value.object members).HasIntegers) :
    IsObject (Utf8.encode (Value.object members).render) (membersOf members) := by
  refine ⟨by rw [tokens_encode_render h, Value.tokens_object], fun m hm => ?_⟩
  obtain ⟨⟨k, v⟩, -, rfl⟩ := List.mem_map.mp hm
  exact v.isValue_tokens

/-- The values of a written object that have a name are those that were written under it. -/
theorem valuesNamed_membersOf (name : String) (members : List (String × Value)) :
    valuesNamed name (membersOf members) =
      (members.filter fun m => m.1 = name).map fun m => m.2.tokens := by
  rw [valuesNamed, membersOf, List.filter_map, List.map_map]
  simp only [Function.comp_def, String.toList_inj]

/-- Bytes that are a JSON object whose only member of a name is a **text**. -/
def HasText (bytes : Bytes) (name s : String) : Prop :=
  ∃ members, IsObject bytes members ∧ valuesNamed name members = [[.text (some s.toList)]]

/-- Bytes that are a JSON object whose only member of a name is an **integer**. -/
def HasInt (bytes : Bytes) (name : String) (i : Int) : Prop :=
  ∃ (members : List Member) (n : Number), IsObject bytes members ∧
    valuesNamed name members = [[.number n]] ∧ n.int? = some i

/-- Bytes that are a JSON object whose only member of a name is a **list of texts**. -/
def HasTexts (bytes : Bytes) (name : String) (texts : List String) : Prop :=
  ∃ members, IsObject bytes members ∧ valuesNamed name members = [textListTokens texts]

/-- Bytes that are a JSON object whose only member of a name is a **truth value**. -/
def HasBool (bytes : Bytes) (name : String) (b : Bool) : Prop :=
  ∃ members, IsObject bytes members ∧ valuesNamed name members = [[.bool b]]

/-- An integer of 64 bits that is the value of a member is read there. -/
theorem readInt64_int (i : Int64) (rest : List Token) :
    Json.readInt64 ((Value.int i.toInt).tokens ++ rest) = .ok (i, rest) :=
  readInt64_eq_ok_iff.mpr ⟨_, rfl, Number.int?_ofInt _⟩

/-- Texts, at least one, are read up to the closing bracket, behind those done. -/
theorem readItems_texts (texts : List String) (rest : List Token) :
    ∀ {fuel depth : Nat} {done : List Value} (s : String), texts.length + 2 ≤ fuel →
      readItems fuel depth done
        (joined ((s :: texts).map fun s => [.text (some s.toList)]) ++ .closeList :: rest) =
      .ok (.list (done.reverse ++ (s :: texts).map .text), rest) := by
  have htext : ∀ (fuel depth : Nat) (s : String) (rest : List Token),
      readAny (fuel + 1) depth (.text (some s.toList) :: rest) = .ok (.text s, rest) := by
    intro fuel depth s rest
    simp [readAny]
  induction texts with
  | nil =>
      intro fuel depth done s hfuel
      obtain _ | _ | fuel := fuel
      · cases hfuel
      · simp at hfuel
      · simp [readItems, joined, moreTokens, htext]
  | cons next texts ih =>
      intro fuel depth done s hfuel
      obtain _ | _ | fuel := fuel
      · cases hfuel
      · simp at hfuel
      · have hmore := @ih (fuel + 1) depth (.text s :: done) next (by simpa using hfuel)
        rw [readItems, List.map_cons, joined, List.map_cons, moreTokens_cons]
        simp only [List.cons_append, List.nil_append, htext]
        rw [List.map_cons, joined, List.append_assoc, List.singleton_append] at hmore
        rw [hmore]
        simp

/-- A **list of texts** is read from the tokens that spell it. -/
theorem readValue_texts {depth : Nat} (hdepth : 0 < depth) (texts : List String)
    (rest : List Token) :
    readValue depth (textListTokens texts ++ rest) = .ok (.list (texts.map .text), rest) := by
  obtain ⟨depth, rfl⟩ := Nat.exists_eq_succ_of_ne_zero (Nat.ne_of_gt hdepth)
  cases texts with
  | nil => simp [readValue, textListTokens, joined, readAny]
  | cons s texts =>
      have hlength := length_le_length_moreTokens (texts.map fun s => [Token.text (some s.toList)])
      have htokens : textListTokens (s :: texts) ++ rest = .openList ::
          (joined ((s :: texts).map fun s => [.text (some s.toList)]) ++ .closeList :: rest) := by
        simp [textListTokens]
      rw [readValue, htokens]
      refine readItems_texts texts rest s ?_
      simp only [List.map_cons, joined, List.length_cons, List.length_append] at hlength ⊢
      simp only [List.length_map] at hlength
      omega

end Json

/-! ### Headers -/

namespace Header

/-- The members of a header. -/
def written (algorithm : Algorithm) : List (String × Value) :=
  [("typ", .text "JWT"), ("alg", .text algorithm.name)]

/-- The members of a header that is written are taken one after the other. -/
theorem takesAll_written (a : Algorithm) :
    TakesAll member ⟨none, []⟩ (membersOf (written a)) ⟨some a, ["alg", "typ"]⟩ := by
  have htyp : ∀ rest, member ⟨none, []⟩ "typ".toList
      (.colon :: ((Value.text "JWT").tokens ++ rest)) = .ok (⟨none, ["typ"]⟩, rest) := by
    intro rest
    rfl
  have halg : ∀ rest, member ⟨none, ["typ"]⟩ "alg".toList
      (.colon :: ((Value.text a.name).tokens ++ rest)) = .ok (⟨some a, ["alg", "typ"]⟩, rest) := by
    intro rest
    have hread : afterColon readAlgorithm (.colon :: ((Value.text a.name).tokens ++ rest)) =
        .ok (a, rest) := afterColon_eq_ok_iff.mpr ⟨_, rfl, readAlgorithm_eq_ok_iff.mpr rfl⟩
    rw [member]
    rw [hread]
    rfl
  simp only [membersOf, written, List.map_cons, List.map_nil]
  exact .cons htyp (.cons halg (.nil _))

/-- A header that is **written** is read as the algorithm that it was written for. -/
theorem read_render (a : Algorithm) : read (Utf8.encode (render a)) = .ok a := by
  have hintegers : (Value.object (written a)).HasIntegers := by
    refine .object fun m hm => ?_
    simp only [written, List.mem_cons, List.not_mem_nil, or_false] at hm
    rcases hm with rfl | rfl <;> exact .text _
  have htokens : tokens (Utf8.encode (render a)) = objectTokens (membersOf (written a)) :=
    (isObject_render hintegers).1
  have hmembers := readMembers_of_takesAll (takesAll_written a) []
  rw [read, readWhole_eq_ok_iff, htokens, objectTokens, readTokens, hmembers]

end Header

/-! ### Payloads -/

namespace Claims

/-- The members of a payload with any claims of the right kinds. -/
def members (jti sub : String) (names : List String) (iat exp : Int) : List (String × Value) :=
  [("jti", .text jti), ("sub", .text sub), ("grants", .list (names.map .text)), ("iat", .int iat),
    ("exp", .int exp)]

/-- The members of a payload. -/
def written (who : Identity) (issuedAt expires : Int64) : List (String × Value) :=
  members (String.ofList (Text.writeInt64 who.id)) who.username who.grants.toList issuedAt.toInt
    expires.toInt

/-- Such members hold texts and integers only. -/
theorem hasIntegers_members (jti sub : String) (names : List String) (iat exp : Int) :
    (Value.object (members jti sub names iat exp)).HasIntegers := by
  refine .object fun m hm => ?_
  simp only [members, List.mem_cons, List.not_mem_nil, or_false] at hm
  rcases hm with rfl | rfl | rfl | rfl | rfl
  · exact .text _
  · exact .text _
  · exact .texts _
  · exact .int _
  · exact .int _

/-- A written payload holds texts and integers only. -/
theorem hasIntegers_written (who : Identity) (issuedAt expires : Int64) :
    (Value.object (written who issuedAt expires)).HasIntegers :=
  hasIntegers_members _ _ _ _ _

/-- A payload that is written is an **object** of its members. -/
theorem isObject_render (who : Identity) (issuedAt expires : Int64) :
    IsObject (Utf8.encode (render who issuedAt expires))
      (membersOf (written who issuedAt expires)) :=
  Json.isObject_render (hasIntegers_written who issuedAt expires)

/-- What is read where a value stands in whose place null might stand. -/
theorem afterColon_orNull {α : Type} {read : List Token → Json.Read α} {token : Token}
    {tokens rest : List Token} {a : α} (hnull : token ≠ .null)
    (h : read (token :: tokens) = .ok (a, rest)) :
    afterColon (orNull read) (.colon :: token :: tokens) = .ok (some a, rest) := by
  refine afterColon_eq_ok_iff.mpr ⟨_, rfl, ?_⟩
  unfold orNull
  split
  · next heq => exact absurd (List.cons.inj heq).1 hnull
  · rw [h]
    rfl

/-- The members of a payload that is written are taken one after the other. -/
theorem takesAll_written (jti sub : String) (names : List String) (iat exp : Int64) :
    TakesAll member ⟨⟨none, none, none, none, none⟩, []⟩
      [("jti".toList, (Value.text jti).tokens), ("sub".toList, (Value.text sub).tokens),
        ("grants".toList, textListTokens names), ("iat".toList, (Value.int iat.toInt).tokens),
        ("exp".toList, (Value.int exp.toInt).tokens)]
      ⟨⟨some jti, some sub, some (.list (names.map .text)), some iat, some exp⟩,
        ["exp", "iat", "grants", "sub", "jti"]⟩ := by
  have htext : ∀ s rest, afterColon readText (.colon :: ((Value.text s).tokens ++ rest)) =
      .ok (some s, rest) := by
    intro s rest
    refine afterColon_eq_ok_iff.mpr ⟨_, rfl, map_eq_ok_iff.mpr ⟨(some s.toList, rest), rfl, ?_⟩⟩
    simp
  have hlist : ∀ rest, afterColon (orNull (readValue maxDepth))
      (.colon :: (textListTokens names ++ rest)) = .ok (some (.list (names.map .text)), rest) :=
    fun rest => afterColon_orNull (by simp) (readValue_texts (by decide) names rest)
  have hint : ∀ (i : Int64) rest, afterColon (orNull Json.readInt64)
      (.colon :: ((Value.int i.toInt).tokens ++ rest)) = .ok (some i, rest) :=
    fun i rest => afterColon_orNull (by simp) (readInt64_int i rest)
  have hjti : ∀ rest, member ⟨⟨none, none, none, none, none⟩, []⟩ "jti".toList
      (.colon :: ((Value.text jti).tokens ++ rest)) =
        .ok (⟨⟨some jti, none, none, none, none⟩, ["jti"]⟩, rest) := by
    intro rest
    rw [member]
    dsimp only
    rw [htext]
    rfl
  have hsub : ∀ rest, member ⟨⟨some jti, none, none, none, none⟩, ["jti"]⟩ "sub".toList
      (.colon :: ((Value.text sub).tokens ++ rest)) =
        .ok (⟨⟨some jti, some sub, none, none, none⟩, ["sub", "jti"]⟩, rest) := by
    intro rest
    rw [member]
    dsimp only
    rw [htext]
    rfl
  have hgrants : ∀ rest, member ⟨⟨some jti, some sub, none, none, none⟩, ["sub", "jti"]⟩
      "grants".toList (.colon :: (textListTokens names ++ rest)) =
        .ok (⟨⟨some jti, some sub, some (.list (names.map .text)), none, none⟩,
          ["grants", "sub", "jti"]⟩, rest) := by
    intro rest
    rw [member]
    dsimp only
    rw [hlist]
    rfl
  have hiat : ∀ rest, member
      ⟨⟨some jti, some sub, some (.list (names.map .text)), none, none⟩, ["grants", "sub", "jti"]⟩
      "iat".toList (.colon :: ((Value.int iat.toInt).tokens ++ rest)) =
        .ok (⟨⟨some jti, some sub, some (.list (names.map .text)), some iat, none⟩,
          ["iat", "grants", "sub", "jti"]⟩, rest) := by
    intro rest
    rw [member]
    dsimp only
    rw [hint]
    rfl
  have hexp : ∀ rest, member
      ⟨⟨some jti, some sub, some (.list (names.map .text)), some iat, none⟩,
        ["iat", "grants", "sub", "jti"]⟩
      "exp".toList (.colon :: ((Value.int exp.toInt).tokens ++ rest)) =
        .ok (⟨⟨some jti, some sub, some (.list (names.map .text)), some iat, some exp⟩,
          ["exp", "iat", "grants", "sub", "jti"]⟩, rest) := by
    intro rest
    rw [member]
    dsimp only
    rw [hint]
    rfl
  exact .cons hjti (.cons hsub (.cons hgrants (.cons hiat (.cons hexp (.nil _)))))

/-- A payload is **read as the claims that its members are**, however these are spelled. -/
theorem read_members (jti sub : String) (names : List String) (iat exp : Int64) :
    read (Utf8.encode (Value.object (members jti sub names iat.toInt exp.toInt)).render) =
      .ok ⟨some jti, some sub, some (.list (names.map .text)), some iat, some exp⟩ := by
  have htokens := (Json.isObject_render
    (hasIntegers_members jti sub names iat.toInt exp.toInt)).1
  simp only [membersOf, members, List.map_cons, List.map_nil, tokens_texts] at htokens
  have hmembers := readMembers_of_takesAll (takesAll_written jti sub names iat exp) []
  rw [read, readWhole_eq_ok_iff, members, htokens, objectTokens, readTokens, hmembers]
  rfl

/-- A payload that is **written** is read as the claims that it was written from. -/
theorem read_render (who : Identity) (issuedAt expires : Int64) :
    read (Utf8.encode (render who issuedAt expires)) =
      .ok ⟨some (String.ofList (Text.writeInt64 who.id)), some who.username,
        some (.list (who.grants.toList.map .text)), some issuedAt, some expires⟩ :=
  read_members _ _ _ issuedAt expires

end Claims

end BearerGate
