import BearerGate.Proofs.Json.Members
import BearerGate.Token.Claims
import BearerGate.Token.Header

/-!
# The Header and the Payload as JSON

What it takes, on the side of the bytes, for a header to be read as the name of an algorithm and
for a payload to be read as claims: the bytes are a JSON object, and each claim that was found is
the value of the one member of its name. Two members of one name would leave it open which of
them was meant; here there is never a second one.

## Main results

* `Header.read_sound`: a header that is read is an object with one member that names the algorithm.
* `Claims.member_sound`: what one member of a payload does to the claims.
* `Claims.read_sound`: a payload from which a time of expiry is read is an object, and its claims
  are the values of its members.
-/

namespace BearerGate

open Json

/-- Bytes that are a JSON **object** with the given members. -/
def Json.IsObject (bytes : Bytes) (members : List Member) : Prop :=
  Json.tokens bytes = objectTokens members ∧ ∀ m ∈ members, IsValue m.2

/-- A whole text is read when its tokens are, and none are left. -/
theorem Json.readWhole_eq_ok_iff {α : Type} {read : List Token → Read α} {bytes : Bytes} {a : α} :
    Json.readWhole read bytes = .ok a ↔ read (Json.tokens bytes) = .ok (a, []) := by
  rw [Json.readWhole]
  constructor
  · intro h
    split at h
    · next found hread =>
      cases h
      exact hread
    · cases h
    · cases h
  · intro h
    rw [h]

/-- A field **reflects** the members of a name if, once it is filled, there is one such member,
and its value spells what the field holds. -/
def Json.Reflects {α : Type} (name : String) (spells : α → List Token → Prop) (field : Option α)
    (members : List Member) : Prop :=
  ∀ a, field = some a → ∃ value, spells a value ∧ valuesNamed name members = [value]

/-- A field still reflects its name after a member of another name. -/
theorem Json.Reflects.concat_of_ne {α : Type} {name : String} {spells : α → List Token → Prop}
    {field : Option α} {members : List Member} (h : Reflects name spells field members)
    {cs : List Char} (hne : String.ofList cs ≠ name) (value : List Token) :
    Reflects name spells field (members ++ [(cs, value)]) := by
  intro a ha
  rw [valuesNamed_concat_of_ne hne]
  exact h a ha

/-- A field that is filled from the first member of its name reflects it. -/
theorem Json.Reflects.concat_self {α : Type} {name : String} {spells : α → List Token → Prop}
    {field : Option α} {members : List Member} (hfresh : valuesNamed name members = [])
    {cs : List Char} (heq : String.ofList cs = name) {value : List Token}
    (hspells : ∀ a, field = some a → spells a value) :
    Reflects name spells field (members ++ [(cs, value)]) := by
  intro a ha
  rw [valuesNamed_concat_self heq, hfresh]
  exact ⟨value, hspells a ha, rfl⟩

/-- A value that is spelled by a text. -/
def Json.SpellsText (s : String) (value : List Token) : Prop :=
  value = [.text (some s.toList)]

/-- A value that is spelled by a number in integer notation. -/
def Json.SpellsInt64 (i : Int64) (value : List Token) : Prop :=
  ∃ n : Number, value = [.number n] ∧ n.int? = some i.toInt

/-- The tokens of a list of texts. -/
def Json.textListTokens (texts : List String) : List Token :=
  .openList :: (joined (texts.map fun s => [.text (some s.toList)]) ++ [.closeList])

/-- A list of texts is spelled by its texts. -/
theorem Json.tokens_texts (texts : List String) :
    (Value.list (texts.map .text)).tokens = textListTokens texts := by
  rw [Value.tokens, Value.itemTokens_eq_map, List.map_map, textListTokens]
  rfl

/-! ### Headers -/

/-- The name of an algorithm is that of no other. -/
theorem Algorithm.ofName?_eq_some_iff {text : String} {a : Algorithm} :
    Algorithm.ofName? text = some a ↔ text = a.name := by
  constructor
  · intro h
    have hname := List.find?_some h
    exact (of_decide_eq_true hname).symm
  · rintro rfl
    cases a <;> decide

namespace Header

/-- What has been read of a header reflects the members so far. -/
structure Partial.Reflects (h : Partial) (members : List Member) : Prop where
  fresh : "alg" ∉ h.seen → valuesNamed "alg" members = []
  algorithm : Json.Reflects "alg" (fun a : Algorithm => SpellsText a.name) h.algorithm members

/-- The tokens that are read as the name of an algorithm. -/
theorem readAlgorithm_eq_ok_iff {tokens rest : List Token} {a : Algorithm} :
    readAlgorithm tokens = .ok (a, rest) ↔ tokens = .text (some a.name.toList) :: rest := by
  constructor
  · intro h
    rw [readAlgorithm] at h
    split at h
    · cases h
    · next name more hname =>
      split at h
      · next found hfound =>
        rw [Algorithm.ofName?_eq_some_iff] at hfound
        cases h
        rw [readText_eq_ok_iff] at hname
        rw [hname, ← hfound, String.toList_ofList]
      · cases h
  · rintro rfl
    have hname : Algorithm.ofName? (String.ofList a.name.toList) = some a := by
      rw [String.ofList_toList, Algorithm.ofName?_eq_some_iff]
    simp only [readAlgorithm, Json.readText, hname]

/-- A key is a value. -/
theorem takesValue_readWebKey : TakesValue readWebKey := by
  intro tokens a rest h
  unfold readWebKey at h
  split at h
  · cases h
  · next value more hread =>
    split at h
    · cases h
      exact ⟨value.tokens, value.isValue_tokens, readValue_sound hread⟩
    · cases h

/-- A member of another name is passed: the algorithm stays, and what has been seen is at most
noted. -/
theorem Partial.Reflects.pass {p q : Partial} {members : List Member} (h : p.Reflects members)
    {name : List Char} (hne : String.ofList name ≠ "alg") (hsame : q.algorithm = p.algorithm)
    (hseen : ∀ x ∈ p.seen, x ∈ q.seen) (value : List Token) :
    q.Reflects (members ++ [(name, value)]) where
  fresh hq := by
    rw [valuesNamed_concat_of_ne hne]
    exact h.fresh fun hp => hq (hseen _ hp)
  algorithm := by
    rw [hsame]
    exact h.algorithm.concat_of_ne hne value

/-- The name of an algorithm is spelled by the tokens taken. -/
theorem takesSpelled_readAlgorithm :
    TakesSpelled readAlgorithm fun a value => SpellsText a.name value := by
  intro tokens a rest h
  obtain rfl := readAlgorithm_eq_ok_iff.mp h
  exact ⟨_, .text _, rfl, rfl⟩

/-- Every member that is read keeps it so. -/
theorem keepsInvariant_member : KeepsInvariant member Partial.Reflects := by
  intro p members name tokens q rest hp h
  rw [member] at h
  dsimp only at h
  split at h
  · cases h
  · next hseen =>
    split at h
    · next halg =>
      have hfresh : valuesNamed "alg" members = [] := by
        refine hp.fresh fun hmem => hseen ?_
        rw [List.contains_iff_mem, halg]
        exact hmem
      refine takesSpelled_readAlgorithm.keeps h (fun _ => rfl) fun a value hspells => ⟨?_, ?_⟩
      · intro hnot
        exact absurd (by rw [halg]; exact List.mem_cons_self) hnot
      · refine .concat_self hfresh halg ?_
        intro b hb
        cases hb
        exact hspells
    · next hne =>
      have hnoted : ∀ value, Partial.Reflects ⟨p.algorithm, String.ofList name :: p.seen⟩
          (members ++ [(name, value)]) :=
        hp.pass hne rfl fun x hx => List.mem_cons_of_mem _ hx
      split at h
      · exact takesValue_readText.takesSpelled.orNull.keeps h (fun _ => rfl)
          fun _ value _ => hnoted value
      · split at h
        · exact takesValue_readText.readList.takesSpelled.orNull.keeps h (fun _ => rfl)
            fun _ value _ => hnoted value
        · split at h
          · exact takesValue_readWebKey.takesSpelled.orNull.keeps h (fun _ => rfl)
              fun _ value _ => hnoted value
          · exact takesValue_readText.takesSpelled.keeps h (fun _ => rfl)
              fun _ value _ => hp.pass hne rfl (fun _ hx => hx) value

/-- A header that is **read** is an object, and one of its members, which is the only one of its
name, names the algorithm. -/
theorem read_sound {bytes : Bytes} {a : Algorithm} (h : read bytes = .ok a) :
    ∃ members, IsObject bytes members ∧
      valuesNamed "alg" members = [[.text (some a.name.toList)]] := by
  rw [read, readWhole_eq_ok_iff] at h
  unfold readTokens at h
  split at h
  · next tokens htokens =>
    split at h
    · next found seen rest hread =>
      cases h
      have hstart : Partial.Reflects ⟨none, []⟩ [] :=
        ⟨fun _ => rfl, fun _ hnone => by cases hnone⟩
      obtain ⟨members, hvalues, heq, hreflects⟩ :=
        readMembers_sound keepsInvariant_member hstart hread
      obtain ⟨value, rfl, halg⟩ := hreflects.algorithm a rfl
      rw [List.append_nil] at heq
      exact ⟨members, ⟨htokens.trans heq, hvalues⟩, halg⟩
    · cases h
    · cases h
  · cases h

end Header

/-! ### Payloads -/

namespace Claims

/-- What has been read of a payload reflects the members so far: a known name that has not been
seen has no member, and each claim found is the value of the one member of its name. -/
structure Partial.Reflects (p : Partial) (members : List Member) : Prop where
  fresh : ∀ name ∈ known, name ∉ p.seen → valuesNamed name members = []
  tokenId : Json.Reflects "jti" SpellsText p.claims.tokenId members
  subject : Json.Reflects "sub" SpellsText p.claims.subject members
  grants : Json.Reflects "grants" (fun v value => value = v.tokens) p.claims.grants members
  issuedAt : Json.Reflects "iat" SpellsInt64 p.claims.issuedAt members
  expires : Json.Reflects "exp" SpellsInt64 p.claims.expires members

/-- A text is spelled by the tokens taken, or null stands for it. -/
theorem takesSpelled_readText : TakesSpelled readText (StandsFor SpellsText) := by
  have htext : TakesSpelled Json.readText fun cs value => SpellsText (String.ofList cs) value := by
    intro tokens cs rest h
    obtain rfl := readText_eq_ok_iff.mp h
    exact ⟨_, .text _, rfl, by simp [SpellsText]⟩
  intro tokens found rest h
  obtain ⟨⟨cs, after⟩, hcs, heq⟩ := map_eq_ok_iff.mp h
  cases heq
  obtain ⟨value, hvalue, rfl, hnone, hspells⟩ := htext.orNull hcs
  refine ⟨value, hvalue, rfl, Option.map_eq_none_iff.trans hnone, fun s hs => ?_⟩
  obtain ⟨cs, hcs, rfl⟩ := Option.map_eq_some_iff.mp hs
  exact hspells cs hcs

/-- A number is spelled by the token taken. -/
theorem takesSpelled_readInt64 : TakesSpelled Json.readInt64 SpellsInt64 := by
  intro tokens i rest h
  obtain ⟨n, rfl, hn⟩ := readInt64_eq_ok_iff.mp h
  exact ⟨_, .number n, rfl, n, rfl, hn⟩

/-- Any value is spelled by its tokens. -/
theorem takesSpelled_readValue :
    TakesSpelled (readValue maxDepth) fun v value => value = v.tokens := by
  intro tokens v rest h
  exact ⟨v.tokens, v.isValue_tokens, readValue_sound h, rfl⟩

/-- Whatever is passed over as flat is a value. -/
theorem takesValue_skipFlat : TakesValue skipFlat := by
  intro tokens a rest h
  unfold skipFlat at h
  split at h
  · exact skip_sound h
  · exact skip_sound h
  · cases h
  · cases h
  · exact skip_sound h

/-- What a member does to a field: under the name of the field, its value stands for what the field
holds then; under another name, the field stays. -/
def Fills {α : Type} (name : String) (spells : α → List Token → Prop) (old new : Option α)
    (m : Member) : Prop :=
  (String.ofList m.1 = name → StandsFor spells new m.2) ∧ (String.ofList m.1 ≠ name → new = old)

/-- A member **takes claims to others**: it fills the one of its name, if there is one. -/
structure Takes (old new : Claims) (m : Member) : Prop where
  tokenId : Fills "jti" SpellsText old.tokenId new.tokenId m
  subject : Fills "sub" SpellsText old.subject new.subject m
  grants : Fills "grants" (fun v value => value = v.tokens) old.grants new.grants m
  issuedAt : Fills "iat" SpellsInt64 old.issuedAt new.issuedAt m
  expires : Fills "exp" SpellsInt64 old.expires new.expires m

/-- A field whose name is not that of a member stays. -/
theorem Fills.same {α : Type} {name : String} {spells : α → List Token → Prop} {field : Option α}
    {m : Member} (h : String.ofList m.1 ≠ name) : Fills name spells field field m :=
  ⟨fun heq => absurd heq h, fun _ => rfl⟩

/-- A field whose name is that of a member holds what the value stands for. -/
theorem Fills.new {α : Type} {name : String} {spells : α → List Token → Prop} {old new : Option α}
    {m : Member} (h : String.ofList m.1 = name) (hstands : StandsFor spells new m.2) :
    Fills name spells old new m :=
  ⟨fun _ => hstands, fun hne => absurd h hne⟩

/-- What it takes to **read a member**: its value stands behind a colon, its name has not been seen
before if it is a known one, and the claims are taken to others by it. -/
theorem member_sound {p q : Partial} {cs : List Char} {tokens rest : List Token}
    (h : member p cs tokens = .ok (q, rest)) :
    ∃ value, IsValue value ∧ tokens = .colon :: (value ++ rest) ∧
      (String.ofList cs ∈ known → String.ofList cs ∉ p.seen) ∧
      q.seen = String.ofList cs :: p.seen ∧ Takes p.claims q.claims (cs, value) := by
  rw [member] at h
  dsimp only at h
  split at h
  · cases h
  · next hseen =>
    have hnew : String.ofList cs ∈ known → String.ofList cs ∉ p.seen := fun hknown hmem => by
      rw [Bool.and_eq_true, List.contains_iff_mem, List.contains_iff_mem] at hseen
      exact hseen ⟨hknown, hmem⟩
    by_cases hjti : String.ofList cs = "jti"
    · rw [if_pos hjti] at h
      obtain ⟨value, found, after, hvalue, rfl, hstands, heq⟩ :=
        takesSpelled_readText.of_map_afterColon h
      cases heq
      exact ⟨value, hvalue, rfl, hnew, rfl, .new hjti hstands, .same (by simp [hjti]),
        .same (by simp [hjti]), .same (by simp [hjti]), .same (by simp [hjti])⟩
    rw [if_neg hjti] at h
    by_cases hsub : String.ofList cs = "sub"
    · rw [if_pos hsub] at h
      obtain ⟨value, found, after, hvalue, rfl, hstands, heq⟩ :=
        takesSpelled_readText.of_map_afterColon h
      cases heq
      exact ⟨value, hvalue, rfl, hnew, rfl, .same hjti, .new hsub hstands,
        .same (by simp [hsub]), .same (by simp [hsub]), .same (by simp [hsub])⟩
    rw [if_neg hsub] at h
    by_cases hgrants : String.ofList cs = "grants"
    · rw [if_pos hgrants] at h
      obtain ⟨value, found, after, hvalue, rfl, hstands, heq⟩ :=
        takesSpelled_readValue.orNull.of_map_afterColon h
      cases heq
      exact ⟨value, hvalue, rfl, hnew, rfl, .same hjti, .same hsub, .new hgrants hstands,
        .same (by simp [hgrants]), .same (by simp [hgrants])⟩
    rw [if_neg hgrants] at h
    by_cases hiat : String.ofList cs = "iat"
    · rw [if_pos hiat] at h
      obtain ⟨value, found, after, hvalue, rfl, hstands, heq⟩ :=
        takesSpelled_readInt64.orNull.of_map_afterColon h
      cases heq
      exact ⟨value, hvalue, rfl, hnew, rfl, .same hjti, .same hsub, .same hgrants,
        .new hiat hstands, .same (by simp [hiat])⟩
    rw [if_neg hiat] at h
    by_cases hexp : String.ofList cs = "exp"
    · rw [if_pos hexp] at h
      obtain ⟨value, found, after, hvalue, rfl, hstands, heq⟩ :=
        takesSpelled_readInt64.orNull.of_map_afterColon h
      cases heq
      exact ⟨value, hvalue, rfl, hnew, rfl, .same hjti, .same hsub, .same hgrants, .same hiat,
        .new hexp hstands⟩
    rw [if_neg hexp] at h
    -- A member of any other name is passed over, and changes no claim.
    split at h
    · obtain ⟨value, found, after, hvalue, rfl, -, heq⟩ :=
        takesValue_skipFlat.takesSpelled.of_map_afterColon h
      cases heq
      exact ⟨value, hvalue, rfl, hnew, rfl, .same hjti, .same hsub, .same hgrants, .same hiat,
        .same hexp⟩
    · obtain ⟨value, found, after, hvalue, rfl, -, heq⟩ :=
        takesValue_skip.takesSpelled.of_map_afterColon h
      cases heq
      exact ⟨value, hvalue, rfl, hnew, rfl, .same hjti, .same hsub, .same hgrants, .same hiat,
        .same hexp⟩

/-- A field that reflects the members before one reflects them with it. -/
theorem Fills.reflects {α : Type} {name : String} {spells : α → List Token → Prop}
    {old new : Option α} {m : Member} (h : Fills name spells old new m) {members : List Member}
    (hold : Json.Reflects name spells old members)
    (hfresh : String.ofList m.1 = name → valuesNamed name members = []) :
    Json.Reflects name spells new (members ++ [m]) := by
  by_cases hname : String.ofList m.1 = name
  · exact .concat_self (hfresh hname) hname (h.1 hname).2
  · rw [h.2 hname]
    exact hold.concat_of_ne hname m.2

/-- Once a name has been noted, what has not been seen is as fresh as before. -/
theorem fresh_concat {seen : List String} {members : List Member}
    (h : ∀ name ∈ known, name ∉ seen → valuesNamed name members = []) (m : Member) :
    ∀ name ∈ known, name ∉ String.ofList m.1 :: seen → valuesNamed name (members ++ [m]) = [] := by
  intro name hknown hseen
  rw [List.mem_cons, not_or] at hseen
  rw [valuesNamed_concat_of_ne (Ne.symm hseen.1)]
  exact h name hknown hseen.2

/-- Every member that is read keeps it so. -/
theorem keepsInvariant_member : KeepsInvariant member Partial.Reflects := by
  rintro p members cs tokens ⟨claims, seen⟩ rest hp h
  obtain ⟨value, hvalue, rfl, hnew, rfl, htakes⟩ := member_sound h
  have hfresh : ∀ name ∈ known, String.ofList cs = name → valuesNamed name members = [] := by
    rintro name hknown rfl
    exact hp.fresh _ hknown (hnew hknown)
  refine ⟨value, hvalue, rfl, fresh_concat hp.fresh (cs, value), ?_, ?_, ?_, ?_, ?_⟩
  · exact htakes.tokenId.reflects hp.tokenId (hfresh _ (by decide))
  · exact htakes.subject.reflects hp.subject (hfresh _ (by decide))
  · exact htakes.grants.reflects hp.grants (hfresh _ (by decide))
  · exact htakes.issuedAt.reflects hp.issuedAt (hfresh _ (by decide))
  · exact htakes.expires.reflects hp.expires (hfresh _ (by decide))

/-- Claims that are written as a list are never found to expire. -/
theorem expires_of_readElements {tokens rest : List Token} {claims : Claims}
    (h : readElements tokens = .ok (claims, rest)) : claims.expires = none := by
  obtain ⟨⟨tokenId, rest₁⟩, -, h⟩ := bind_eq_ok_iff.mp h
  obtain ⟨⟨subject, rest₂⟩, -, h⟩ := bind_eq_ok_iff.mp h
  obtain ⟨⟨grants, rest₃⟩, -, h⟩ := bind_eq_ok_iff.mp h
  obtain ⟨⟨issuedAt, rest₄⟩, -, h⟩ := bind_eq_ok_iff.mp h
  obtain ⟨⟨expires, rest₅⟩, -, h⟩ := bind_eq_ok_iff.mp h
  dsimp only at h
  split at h
  · cases h
  · cases h
  · cases h
    rfl
  · cases h

/-- A payload from which a time of expiry is read is an object, and an **invariant of its members**
holds of its claims: it has to hold at the start, and each member that is read has to keep it. -/
theorem read_invariant {inv : Partial → List Member → Prop} (hkeeps : KeepsInvariant member inv)
    (hstart : inv ⟨⟨none, none, none, none, none⟩, []⟩ []) {bytes : Bytes} {claims : Claims}
    (h : read bytes = .ok claims) (hexpires : claims.expires.isSome = true) :
    ∃ members seen, IsObject bytes members ∧ inv ⟨claims, seen⟩ members := by
  rw [read, readWhole_eq_ok_iff] at h
  unfold readTokens at h
  split at h
  · next tokens htokens =>
    obtain ⟨⟨p, rest⟩, hread, heq⟩ := map_eq_ok_iff.mp h
    cases heq
    obtain ⟨members, hvalues, heq, hinv⟩ := readMembers_sound hkeeps hstart hread
    rw [List.append_nil] at heq
    exact ⟨members, p.seen, ⟨htokens.trans heq, hvalues⟩, hinv⟩
  · rw [expires_of_readElements h] at hexpires
    cases hexpires
  · cases h

/-- A payload from which a time of expiry is **read** is an object, and its claims are the values
of its members. -/
theorem read_sound {bytes : Bytes} {claims : Claims} (h : read bytes = .ok claims)
    (hexpires : claims.expires.isSome = true) :
    ∃ members seen, IsObject bytes members ∧ Partial.Reflects ⟨claims, seen⟩ members :=
  read_invariant keepsInvariant_member
    ⟨fun _ _ _ => rfl, fun _ hnone => (by cases hnone), fun _ hnone => (by cases hnone),
      fun _ hnone => (by cases hnone), fun _ hnone => (by cases hnone),
      fun _ hnone => (by cases hnone)⟩ h hexpires

end Claims

end BearerGate
