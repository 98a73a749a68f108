import BearerGate.Proofs.Service.Setup
import BearerGate.Proofs.Settings.Padding
import BearerGate.Proofs.Text.Numerals

/-!
# Revoked Numbers

A token is revoked by its number. How the number is spelled makes no difference: not in the token,
not in the list of revoked numbers, which has numbers in any order and as often as it likes, and not
in a store, whose keys are made from the number itself. Three readers and a writer meet here, and
they agree because each of them is right about what a text denotes.

## Main results

* `Settings.mem_of_ids?`: the numbers that are read from a list are those that its entries denote.
* `Revocation.Source.key_eq_toString`: the key of a number has its usual decimal form.
* `Verifier.AcceptsNumbered.denotes`: the number of a token that verifies is what a text denotes.
* `Screen.revokes_by_number`: which tokens are turned away as revoked.
-/

namespace BearerGate

/-! ### Lists of numbers -/

/-- A comma-separated list **lists** an integer: one of its entries, trimmed, denotes it. -/
def Text.Lists (cs : List Char) (i : Int) : Prop :=
  ∃ entry ∈ splitAt ',' cs, Denotes (trim entry) i

/-- An entry that denotes something is not left out for being blank. -/
theorem Text.lists_iff_mem_entries {cs : List Char} {i : Int} :
    Lists cs i ↔ ∃ entry ∈ entries cs, Denotes entry i := by
  constructor
  · rintro ⟨piece, hpiece, hdenotes⟩
    refine ⟨trim piece, List.mem_filter.mpr ⟨List.mem_map_of_mem hpiece, ?_⟩, hdenotes⟩
    cases htrim : trim piece with
    | nil =>
        rw [htrim, ← readInt_eq_some_iff] at hdenotes
        cases hdenotes
    | cons c cs => rfl
  · rintro ⟨entry, hentry, hdenotes⟩
    obtain ⟨piece, hpiece, rfl⟩ := List.mem_map.mp (List.mem_filter.mp hentry).1
    exact ⟨piece, hpiece, hdenotes⟩

namespace Settings

variable {env : Environment}

/-- The numbers that are read from entries are **those that the entries denote**. -/
theorem mem_of_ids? {entries : List (List Char)} {ids : List Int64} (h : ids? entries = some ids)
    (n : Int64) : n ∈ ids ↔ ∃ entry ∈ entries, Text.Denotes entry n.toInt := by
  induction entries generalizing ids with
  | nil =>
      cases h
      simp
  | cons entry entries ih =>
      obtain ⟨id, hid, h⟩ := Option.bind_eq_some_iff.mp h
      obtain ⟨more, hmore, heq⟩ := Option.bind_eq_some_iff.mp h
      cases heq
      rw [Text.readInt64_eq_some_iff] at hid
      have hhead : n = id ↔ Text.Denotes entry n.toInt :=
        ⟨fun heq => heq ▸ hid, fun hn => Int64.toInt_inj.mp (hn.unique hid)⟩
      rw [List.mem_cons, ih hmore, hhead, List.exists_mem_cons_iff]

/-- A source that is a list has the numbers **that the variable lists**. -/
theorem mem_of_readRevocation {ids : List Int64} (h : readRevocation env = .ok (.fixed ids))
    (n : Int64) :
    n ∈ ids ↔ Text.Lists ((env Variable.staticIds.name).getD "").toList n.toInt := by
  cases readRevocation_eq_ok_iff.mp h with
  | fixed _ _ hids => rw [mem_of_ids? hids, entries_value?, Text.lists_iff_mem_entries]

/-- The variables that name one number as the list of revocations. -/
def withNumber (env : Environment) (n : Int64) : Environment :=
  withText (withText env .backend "static") .staticIds (String.ofList (Text.writeInt64 n))

/-- What is written of a number is the only entry of its list. -/
theorem entries_writeInt64 (n : Int64) :
    Text.entries (Text.writeInt64 n) = [Text.writeInt64 n] := by
  have hplain : ∀ c ∈ Text.writeInt64 n, c ≠ ',' ∧ Text.isBlank c = false := by
    intro c hc
    rcases Text.of_mem_writeInt64 hc with rfl | hdigit
    · decide
    · refine ⟨?_, Text.isBlank_of_isDigit hdigit⟩
      rintro rfl
      exact absurd hdigit (by decide)
  have hne : Text.writeInt64 n ≠ [] := by
    intro hnil
    have hread := Text.readInt64_writeInt64 n
    rw [hnil] at hread
    cases hread
  rw [Text.entries, Text.splitAt, Text.splitWhen_of_forall fun c hc => by simp [(hplain c hc).1],
    List.map_singleton, Text.trim_of_forall fun c hc => (hplain c hc).2, List.filter_singleton,
    List.isEmpty_eq_false_iff.mpr hne]
  rfl

/-- The name of the backend that is a list is spelled as it stands. -/
theorem spells_static : Text.Spells "static".toList "static".toList :=
  ⟨[], "static".toList, [], by simp, rfl, rfl, rfl⟩

/-- **Every number can be listed**, in any environment: by what is written of it. -/
theorem readRevocation_withNumber (env : Environment) (n : Int64) :
    readRevocation (withNumber env n) = .ok (.fixed [n]) := by
  have hbackend : Holds (withNumber env n) .backend "static" := ⟨rfl, rfl⟩
  refine readRevocation_eq_ok_iff.mpr (.fixed hbackend spells_static ?_)
  have htext : withNumber env n Variable.staticIds.name =
      some (String.ofList (Text.writeInt64 n)) := rfl
  rw [entries_value?, htext, Option.getD_some, String.toList_ofList, entries_writeInt64, ids?,
    Text.readInt64_writeInt64]
  rfl

end Settings

/-! ### Keys -/

/-- The key of a number has its **usual decimal form** after the space and a colon. -/
theorem Revocation.Source.key_eq_toString (space : String) (n : Int64) :
    key space n = space ++ ":" ++ toString n.toInt := by
  rw [key, Text.writeInt64_eq_toString, String.ofList_toList]

/-! ### Tokens -/

/-- A verifier **accepts a token and reads its number from a text**: the text is the claim that the
number is in. -/
def Verifier.AcceptsNumbered (v : Verifier) (now : Second) (raw spelling : String) : Prop :=
  ∃ claims who, v.Accepts now raw claims who ∧ claims.tokenId = some spelling

/-- The number of an accepted token is **what the trimmed text denotes**. -/
theorem Verifier.AcceptsNumbered.denotes {v : Verifier} {now : Second} {raw spelling : String}
    (h : v.AcceptsNumbered now raw spelling) :
    ∃ who, v.verify now raw = .ok who ∧
      Text.Denotes (Text.trim spelling.toList) who.id.toInt := by
  obtain ⟨claims, who, haccepts, hspelling⟩ := h
  obtain ⟨⟨text, htext, hid⟩, -⟩ := Claims.identity_eq_ok_iff.mp haccepts.identity
  rw [hspelling, Option.some.injEq] at htext
  subst htext
  exact ⟨who, haccepts.1, Text.readInt64_eq_some_iff.mp hid⟩

namespace Screen

variable {v : Verifier} {now : Second} {raw spelling : String} {store : Revocation.Store}
  {source : Revocation.Source} {who : Identity}

/-- A token that verifies is **turned away as revoked** when the source says so of its number. -/
theorem check_eq_revoked_iff_of_verify (h : v.verify now raw = .ok who) {n : Int64} :
    check ⟨v, source⟩ now store raw = .error (.revoked n) ↔
      who.id = n ∧ source.isRevoked store who.id = .ok true := by
  rw [check_eq_revoked_iff]
  simp only [h, Except.ok.injEq, exists_eq_left', and_comm]

/-- **Revocation is by number, not by spelling.** A token that is accepted is turned away as revoked

* by a list exactly when the list has the number that its text denotes;
* by a store that answers exactly when it holds the key of that number, in the usual decimal form;
  a store that is down makes it turned away as not to be checked.

Two tokens that are accepted, whether at the same time and by the same verifier or not, and whose
texts denote the same number are turned away for the same causes. And every number can be revoked:
by the list of what is written of it, in any environment, and by the key added to any store. -/
theorem revokes_by_number (hnumbered : v.AcceptsNumbered now raw spelling)
    (store : Revocation.Store) :
    (∃ n : Int64, Text.Denotes (Text.trim spelling.toList) n.toInt) ∧
    (∀ env ids, Settings.readRevocation env = .ok (.fixed ids) → ∀ n : Int64,
      (check ⟨v, .fixed ids⟩ now store raw = .error (.revoked n) ↔
        Text.Denotes (Text.trim spelling.toList) n.toInt ∧
          Text.Lists ((env Variable.staticIds.name).getD "").toList n.toInt)) ∧
    (∀ backend space,
      (store.outage = none → ∀ n : Int64,
        (check ⟨v, .stored backend space⟩ now store raw = .error (.revoked n) ↔
          Text.Denotes (Text.trim spelling.toList) n.toInt ∧
            space ++ ":" ++ toString n.toInt ∈ store.keys)) ∧
      ∀ outage, store.outage = some outage →
        check ⟨v, .stored backend space⟩ now store raw =
          .error (.unavailable (backend.fault outage))) ∧
    (∀ v' now' raw' spelling', Verifier.AcceptsNumbered v' now' raw' spelling' →
      ∀ n : Int64, Text.Denotes (Text.trim spelling.toList) n.toInt →
        Text.Denotes (Text.trim spelling'.toList) n.toInt → ∀ source cause,
        (check ⟨v, source⟩ now store raw = .error cause ↔
          check ⟨v', source⟩ now' store raw' = .error cause)) ∧
    ∀ n : Int64, Text.Denotes (Text.trim spelling.toList) n.toInt →
      (∀ env, Settings.readRevocation (Settings.withNumber env n) = .ok (.fixed [n]) ∧
        check ⟨v, .fixed [n]⟩ now store raw = .error (.revoked n)) ∧
      (∀ backend space, store.outage = none →
        check ⟨v, .stored backend space⟩ now (store.add (space ++ ":" ++ toString n.toInt)) raw =
          .error (.revoked n)) := by
  obtain ⟨who, hverify, hdenotes⟩ := hnumbered.denotes
  have hnumber : ∀ n : Int64, who.id = n ↔ Text.Denotes (Text.trim spelling.toList) n.toInt :=
    fun n => ⟨fun heq => heq ▸ hdenotes, fun hn => Int64.toInt_inj.mp (hdenotes.unique hn)⟩
  refine ⟨⟨who.id, hdenotes⟩, fun env ids hread n => ?_, fun backend space =>
    ⟨fun hup n => ?_, fun outage hdown => ?_⟩, ?_, fun n hn => ⟨fun env => ?_,
      fun backend space hup => ?_⟩⟩
  · rw [check_eq_revoked_iff_of_verify hverify, hnumber, ← Settings.mem_of_readRevocation hread]
    refine and_congr_right fun hn => ?_
    rw [(hnumber n).mpr hn, Revocation.Source.isRevoked, Except.ok.injEq, List.contains_iff_mem]
  · rw [check_eq_revoked_iff_of_verify hverify, hnumber, ← Revocation.Source.key_eq_toString]
    refine and_congr_right fun hn => ?_
    rw [(hnumber n).mpr hn, Revocation.Source.isRevoked, hup]
    simp [Revocation.Store.has]
  · rw [check_of_verify hverify, Revocation.Source.isRevoked, hdown]
    rfl
  · intro v' now' raw' spelling' hnumbered' n hn hn' source cause
    obtain ⟨who', hverify', hdenotes'⟩ := hnumbered'.denotes
    have hsame : who'.id = who.id :=
      Int64.toInt_inj.mp ((hdenotes'.unique hn').trans (hn.unique hdenotes))
    rw [check_of_verify hverify, check_of_verify hverify', hsame]
    rcases source.isRevoked store who.id with fault | (_ | _) <;> simp [judge, hsame]
  · refine ⟨Settings.readRevocation_withNumber env n, ?_⟩
    rw [check_eq_revoked_iff_of_verify hverify, hnumber]
    refine ⟨hn, ?_⟩
    rw [(hnumber n).mpr hn, Revocation.Source.isRevoked]
    simp
  · rw [check_eq_revoked_iff_of_verify hverify, hnumber]
    refine ⟨hn, ?_⟩
    rw [(hnumber n).mpr hn, Revocation.Source.isRevoked, Revocation.Store.outage_add, hup,
      Revocation.Source.key_eq_toString]
    simp [Revocation.Store.has_add]

/-- There is a token whose number, 7, is spelled with a plus, zeros and blanks. -/
theorem exists_respelled_token : ∃ raw, sampleVerifier.AcceptsNumbered 100 raw " +007 " := by
  obtain ⟨raw, haccepts⟩ := @exists_accepts_sampleVerifier " +007 " "ada" [] 0 9000000000
    (by decide +kernel) (by decide)
  have hidentity := @Claims.identity_eq_ok_iff ⟨some " +007 ", some "ada", some (.list []), some 0,
    some 9000000000⟩ Role.resolve 100 0 ⟨7, "ada", .empty⟩ |>.mpr
      ⟨⟨_, rfl, by decide⟩, rfl, ⟨_, rfl, rfl⟩, ⟨0, rfl, by decide⟩, rfl⟩
  exact ⟨raw, _, _, haccepts 100 _ (by decide) hidentity, rfl⟩

/-- Such a token is revoked by a list that has the number with other zeros, twice and not first, and
by the key of the number. -/
theorem revokes_by_number_respelled :
    Settings.readRevocation (Settings.withText (Settings.withText (fun _ => none) .backend "static")
      .staticIds "8,, -0, +0007 ,7") = .ok (.fixed [8, 0, 7, 7]) ∧
    ∃ raw, sampleVerifier.AcceptsNumbered 100 raw " +007 " ∧
      check ⟨sampleVerifier, .fixed [8, 0, 7, 7]⟩ 100 .empty raw = .error (.revoked 7) ∧
      check ⟨sampleVerifier, .stored .memory "auth:revoked"⟩ 100 ⟨["auth:revoked:7"], none⟩ raw =
        .error (.revoked 7) := by
  have hread : Settings.readRevocation (Settings.withText
      (Settings.withText (fun _ => none) .backend "static") .staticIds "8,, -0, +0007 ,7") =
        .ok (.fixed [8, 0, 7, 7]) :=
    Settings.readRevocation_eq_ok_iff.mpr (.fixed ⟨rfl, rfl⟩ Settings.spells_static
      (by decide +kernel))
  obtain ⟨raw, hnumbered⟩ := exists_respelled_token
  have hdenotes : Text.Denotes (Text.trim " +007 ".toList) (7 : Int64).toInt :=
    Text.readInt64_eq_some_iff.mp rfl
  have hlists : Text.Lists "8,, -0, +0007 ,7".toList (7 : Int64).toInt :=
    ⟨" +0007 ".toList, by decide, Text.readInt64_eq_some_iff.mp rfl⟩
  refine ⟨hread, raw, hnumbered, ?_, ?_⟩
  · exact ((revokes_by_number hnumbered .empty).2.1 _ _ hread 7).mpr ⟨hdenotes, hlists⟩
  · exact (((revokes_by_number hnumbered ⟨["auth:revoked:7"], none⟩).2.2.1 .memory
      "auth:revoked").1 rfl 7).mpr ⟨hdenotes, List.mem_singleton_self _⟩

/-- While a store is down, the same token is **not turned away as revoked** although the store holds
the key: it is not so that the key alone decides. -/
theorem not_every_listed_token_revoked :
    ¬∀ (v : Verifier) (now : Second) (raw spelling : String) (store : Revocation.Store)
      (backend : Revocation.Backend) (space : String) (n : Int64),
      v.AcceptsNumbered now raw spelling →
      (check ⟨v, .stored backend space⟩ now store raw = .error (.revoked n) ↔
        Text.Denotes (Text.trim spelling.toList) n.toInt ∧
          space ++ ":" ++ toString n.toInt ∈ store.keys) := by
  intro hclaim
  obtain ⟨raw, hnumbered⟩ := exists_respelled_token
  have hrevoked := (hclaim _ _ _ _ ⟨["auth:revoked:7"], some .connection⟩ .memory "auth:revoked" 7
    hnumbered).mpr ⟨Text.readInt64_eq_some_iff.mp rfl, List.mem_singleton_self _⟩
  obtain ⟨who, hverify, -⟩ := hnumbered.denotes
  rw [check_of_verify hverify] at hrevoked
  cases hrevoked

end Screen

end BearerGate
