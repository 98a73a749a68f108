import BearerGate.Caller

/-!
# Authentication Is One-Way

Whatever is done with a caller, in any order and as often as one likes: once it is authenticated it
stays so, and nothing else about it ever changes. One kind of call can be refused, the one that
would undo the authentication; it is refused whenever there is something to undo, and then does
nothing.

## Main results

* `Caller.authenticated_call`: after which calls a caller is authenticated.
* `Caller.setAuthenticated_cases`: which calls are refused, and what they do then.
* `Caller.sameBearing_calls`: what no calls change.
* `Caller.authenticated_calls_iff`: after which rows of calls a caller is authenticated.
* `Caller.authentication_is_one_way`: all that can be seen of a row of calls.
-/

namespace BearerGate

/-- A call that **authenticates** whatever caller it is made on. -/
def Call.Authenticates (call : Call) : Prop :=
  call = .authenticate ∨ call = .setAuthenticated true

namespace Caller

/-- Two callers are the **same but for authentication**. -/
structure SameBearing (c d : Caller) : Prop where
  name : d.name = c.name
  kind : d.kind = c.kind
  authorities : d.authorities = c.authorities

/-- The same authorities are held by callers that are the same but for authentication. -/
theorem SameBearing.hasAuthority {c d : Caller} (h : SameBearing c d) (authority : String) :
    d.hasAuthority authority = c.hasAuthority authority := by
  rw [Caller.hasAuthority, Caller.hasAuthority, h.authorities]

theorem SameBearing.trans {c d e : Caller} (h : SameBearing c d) (h' : SameBearing d e) :
    SameBearing c e :=
  ⟨h'.name.trans h.name, h'.kind.trans h.kind, h'.authorities.trans h.authorities⟩

variable (c : Caller)

/-! ### One call -/

/-- Setting the state of a caller is **refused** exactly when that would undo its authentication,
and then leaves it as it was; otherwise its state is as it was set. -/
theorem setAuthenticated_cases (value : Bool) :
    (value = false ∧ c.authenticated = true ∧
      c.setAuthenticated value = (.error .cannotUndoAuthentication, c)) ∨
    (¬(value = false ∧ c.authenticated = true) ∧
      c.setAuthenticated value = (.ok (), { c with authenticated := value })) := by
  rw [setAuthenticated]
  cases value <;> cases c.authenticated <;> simp

/-- After a call a caller **is authenticated** if it was so before, or if the call authenticates. -/
theorem authenticated_call (call : Call) :
    (c.call call).2.authenticated = true ↔ c.authenticated = true ∨ call.Authenticates := by
  cases call with
  | authenticate => simp [Caller.call, authenticate, Call.Authenticates]
  | setAuthenticated value =>
      simp only [Caller.call, setAuthenticated, Call.Authenticates]
      cases value <;> cases hauthenticated : c.authenticated <;> simp [hauthenticated]
  | hasAuthority authority => simp [Caller.call, Call.Authenticates]

/-- No call changes anything but the authentication. -/
theorem sameBearing_call (call : Call) : SameBearing c (c.call call).2 := by
  cases call with
  | authenticate => exact ⟨rfl, rfl, rfl⟩
  | setAuthenticated value =>
      simp only [Caller.call, setAuthenticated]
      split <;> exact ⟨rfl, rfl, rfl⟩
  | hasAuthority authority => exact ⟨rfl, rfl, rfl⟩

/-! ### Calls in a row -/

/-- Some calls and then others are the others made on the caller after the first. -/
theorem calls_append (before after : List Call) :
    c.calls (before ++ after) =
      ((c.calls before).1 ++ ((c.calls before).2.calls after).1,
        ((c.calls before).2.calls after).2) := by
  induction before generalizing c with
  | nil => rfl
  | cons call before ih => simp only [List.cons_append, calls, ih (c.call call).2]

/-- There are as many answers as calls. -/
theorem length_calls (calls : List Call) : (c.calls calls).1.length = calls.length := by
  induction calls generalizing c with
  | nil => rfl
  | cons call calls ih => exact congrArg (· + 1) (ih _)

/-- The **answer to a call** in a row is that of the caller as it is then. -/
theorem answer_of_calls (before after : List Call) (call : Call) :
    (c.calls (before ++ call :: after)).1[before.length]? =
      some ((c.calls before).2.call call).1 := by
  rw [calls_append, List.getElem?_append_right (Nat.le_of_eq (c.length_calls before)),
    length_calls, Nat.sub_self]
  rfl

/-- **No calls** change anything but the authentication. -/
theorem sameBearing_calls (calls : List Call) : SameBearing c (c.calls calls).2 := by
  induction calls generalizing c with
  | nil => exact ⟨rfl, rfl, rfl⟩
  | cons call calls ih => exact (c.sameBearing_call call).trans (ih (c.call call).2)

/-- After calls a caller **is authenticated** exactly if it was so before, or if one of the calls
authenticates. -/
theorem authenticated_calls_iff (calls : List Call) :
    (c.calls calls).2.authenticated = true ↔
      c.authenticated = true ∨ ∃ call ∈ calls, call.Authenticates := by
  induction calls generalizing c with
  | nil => simp [Caller.calls]
  | cons call calls ih =>
      simp only [Caller.calls, ih, authenticated_call, or_assoc, List.mem_cons, exists_eq_or_imp]

/-- The caller after one call more. -/
theorem calls_concat (before : List Call) (call : Call) :
    (c.calls (before ++ [call])).2 = ((c.calls before).2.call call).2 := by
  rw [calls_append]
  rfl

/-- **Authentication is one-way**, over any calls that are made on a caller one after the other.

* Once the caller is authenticated it stays so; after all calls it is authenticated exactly if it
  was so at the start or if one of the calls authenticates.
* To set its state is refused exactly when that would undo its authentication, and then leaves it as
  it was; otherwise its state is as it was set.
* Its name, its kind and its authorities are those of the start, so to the question whether it holds
  an authority the answer is the same at any time.

An anonymous caller is authenticated at any time, and refuses every attempt to change that; the
caller that a token stands for is authenticated as soon as a call authenticates it. -/
theorem authentication_is_one_way (calls : List Call) :
    (∀ before after, calls = before ++ after →
      (c.calls before).2.authenticated = true → (c.calls calls).2.authenticated = true) ∧
    ((c.calls calls).2.authenticated = true ↔
      c.authenticated = true ∨ ∃ call ∈ calls, call.Authenticates) ∧
    (∀ before value after, calls = before ++ .setAuthenticated value :: after →
      ((c.calls calls).1[before.length]? =
          some (.outcome (.error .cannotUndoAuthentication)) ∧
        value = false ∧ (c.calls before).2.authenticated = true ∧
        (c.calls (before ++ [.setAuthenticated value])).2 = (c.calls before).2) ∨
      ((c.calls calls).1[before.length]? = some (.outcome (.ok ())) ∧
        ¬(value = false ∧ (c.calls before).2.authenticated = true) ∧
        (c.calls (before ++ [.setAuthenticated value])).2 =
          { (c.calls before).2 with authenticated := value })) ∧
    ((c.calls calls).2.name = c.name ∧ (c.calls calls).2.kind = c.kind ∧
      (c.calls calls).2.authorities = c.authorities ∧
      ∀ before authority after, calls = before ++ .hasAuthority authority :: after →
        (c.calls calls).1[before.length]? = some (.holds (c.hasAuthority authority))) ∧
    (c = anonymous → (c.calls calls).2.authenticated = true ∧
      ∀ before after, calls = before ++ .setAuthenticated false :: after →
        (c.calls calls).1[before.length]? =
          some (.outcome (.error .cannotUndoAuthentication))) ∧
    ∀ who, c = ofIdentity who →
      ((c.calls calls).2.authenticated = true ↔ ∃ call ∈ calls, call.Authenticates) := by
  refine ⟨?_, c.authenticated_calls_iff calls, ?_, ?_, ?_, ?_⟩
  · rintro before after rfl hbefore
    rw [calls_append]
    exact ((c.calls before).2.authenticated_calls_iff after).mpr (Or.inl hbefore)
  · rintro before value after rfl
    rw [answer_of_calls, calls_concat]
    rcases (c.calls before).2.setAuthenticated_cases value with ⟨hvalue, hbefore, hset⟩ |
      ⟨hallowed, hset⟩
    · exact Or.inl ⟨by rw [Caller.call, hset], hvalue, hbefore, by rw [Caller.call, hset]⟩
    · exact Or.inr ⟨by rw [Caller.call, hset], hallowed, by rw [Caller.call, hset]⟩
  · obtain ⟨hname, hkind, hauthorities⟩ := c.sameBearing_calls calls
    refine ⟨hname, hkind, hauthorities, ?_⟩
    rintro before authority after rfl
    rw [answer_of_calls, Caller.call, (c.sameBearing_calls before).hasAuthority]
  · rintro rfl
    have halways : ∀ calls : List Call, (anonymous.calls calls).2.authenticated = true :=
      fun calls => (anonymous.authenticated_calls_iff calls).mpr (Or.inl rfl)
    refine ⟨halways calls, ?_⟩
    rintro before after rfl
    rcases (anonymous.calls before).2.setAuthenticated_cases false with ⟨-, -, hset⟩ | ⟨hallowed, -⟩
    · rw [answer_of_calls, Caller.call, hset]
    · exact absurd ⟨rfl, halways before⟩ hallowed
  · rintro who rfl
    rw [authenticated_calls_iff]
    simp [ofIdentity]

/-- A caller of a token can be left unauthenticated, is then authenticated, and that cannot be
undone; what it holds it holds before and after. -/
theorem authentication_is_one_way_for_ada :
    ∃ c calls, c = ofIdentity ⟨1, "ada", NameSet.ofList ["role-user"]⟩ ∧
      calls = [.setAuthenticated false, .authenticate, .setAuthenticated false,
        .hasAuthority "role-user"] ∧
      (c.calls calls).1[2]? = some (.outcome (.error .cannotUndoAuthentication)) ∧
      (c.calls calls).1[3]? = some (.holds true) ∧ (c.calls calls).2.authenticated = true := by
  obtain ⟨-, hfinal, hset, ⟨-, -, -, hholds⟩, -⟩ :=
    authentication_is_one_way (ofIdentity ⟨1, "ada", NameSet.ofList ["role-user"]⟩)
      [.setAuthenticated false, .authenticate, .setAuthenticated false, .hasAuthority "role-user"]
  refine ⟨_, _, rfl, rfl, ?_, ?_, hfinal.mpr (Or.inr ⟨.authenticate, by simp, Or.inl rfl⟩)⟩
  · rcases hset [.setAuthenticated false, .authenticate] false _ rfl with
      ⟨hrefused, -⟩ | ⟨-, hallowed, -⟩
    · exact hrefused
    · exact absurd ⟨rfl, rfl⟩ hallowed
  · have hheld : (ofIdentity ⟨1, "ada", NameSet.ofList ["role-user"]⟩).hasAuthority "role-user" =
        true := by decide
    rw [← hheld]
    exact hholds [.setAuthenticated false, .authenticate, .setAuthenticated false] _ [] rfl

end Caller

end BearerGate
