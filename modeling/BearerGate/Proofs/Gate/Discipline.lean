import BearerGate.Proofs.Gate.Credentials
import BearerGate.Proofs.Service.Setup

/-!
# What the Gate Does with a Request

Whatever answers for tokens, the gate asks it at most once for a request, and only for the word
after the scheme. A request that brings no such word is judged without asking, by what is wrong with
its credentials or, if it lacks them, by its method and path. A request that brings credentials is
judged by their first two words and by nothing else.

A request either lacks credentials, or brings another scheme, or the scheme only, or a token. The
lemmas give the run through the gate in each of the four cases.

## Main results

* `Gate.lacks_or_brings`: there are these four cases.
* `Gate.inOrder_attempt`: the stages that a request goes through.
* `Gate.verdict_eq_error_iff`: what a request is turned away for.
* `Gate.asked_of_bringsToken`, `Gate.asked_of_not_bringsToken`: what the provider is asked.
* `Gate.attempt_eq_of_leadsWith`: requests with the same two words fare the same.
* `Gate.run_discipline`: these, of every gate, provider and request.
-/

namespace BearerGate

open Http (IsPlain charsOf)

/-! ### Four cases -/

/-- Headers that bring **another scheme** under a name: the first field of that name is not plain
text, or its first word is not the scheme. -/
def BringsOtherScheme (name scheme : String) (headers : Http.Headers) : Prop :=
  ∃ value, headers.IsFirst name value ∧
    (¬IsPlain value ∨ ∃ first rest, Text.words (charsOf value) = first :: rest ∧
      first ≠ scheme.toList)

/-- Headers that bring **the scheme only** under a name: the first field of that name is plain text
whose only word is the scheme. -/
def BringsSchemeOnly (name scheme : String) (headers : Http.Headers) : Prop :=
  ∃ value, headers.IsFirst name value ∧ IsPlain value ∧
    Text.words (charsOf value) = [scheme.toList]

/-- Headers that **lead with** two words under a name, or with one: the first field of that name is
plain text that is not made of spaces and tabs, and these are the first two of its words. -/
def LeadsWith (name : String) (headers : Http.Headers) (two : List (List Char)) : Prop :=
  ∃ value, headers.IsFirst name value ∧ IsPlain value ∧
    (¬∀ b ∈ value, b.toNat = 0x20 ∨ b.toNat = 0x09) ∧ (Text.words (charsOf value)).take 2 = two

/-- A provider that keeps a **record** of the tokens that it is asked for. -/
def Provider.recorded {σ : Type} (provide : Provider σ) : Provider (σ × List String) :=
  fun world raw => ((provide world.1 raw).1, (provide world.1 raw).2, world.2 ++ [raw])

namespace Gate

variable {σ : Type} {gate : Gate} {provide : Provider σ} {world : σ} {head : RequestHead}

/-- A request **lacks credentials, or brings another scheme, the scheme only, or a token**. -/
theorem lacks_or_brings (gate : Gate) (head : RequestHead) :
    LacksCredentials gate.headerName head.headers ∨
    BringsOtherScheme gate.headerName gate.scheme head.headers ∨
    BringsSchemeOnly gate.headerName gate.scheme head.headers ∨
    ∃ raw, BringsToken gate.headerName gate.scheme head.headers raw := by
  cases hvalue : Http.Headers.first? head.headers gate.headerName with
  | none => exact Or.inl (Or.inl (Http.Headers.first?_eq_none_iff.mp hvalue))
  | some value =>
      have hfirst := Http.Headers.first?_eq_some_iff.mp hvalue
      by_cases hplain : IsPlain value
      · cases hwords : Text.words (charsOf value) with
        | nil =>
            rw [Text.words_eq_nil_iff, Http.isBlankText_charsOf_iff hplain] at hwords
            exact Or.inl (Or.inr ⟨value, hfirst, hwords⟩)
        | cons first rest =>
            by_cases hscheme : first = gate.scheme.toList
            · obtain rfl := hscheme
              cases rest with
              | nil => exact Or.inr (Or.inr (Or.inl ⟨value, hfirst, hplain, hwords⟩))
              | cons token more =>
                  refine Or.inr (Or.inr (Or.inr ⟨String.ofList token, value, hfirst, hplain, ?_⟩))
                  rw [String.toList_ofList]
                  exact Text.startsWith_iff.mpr ⟨more, hwords⟩
            · exact Or.inr (Or.inl ⟨value, hfirst, Or.inr ⟨first, rest, hwords, hscheme⟩⟩)
      · exact Or.inr (Or.inl ⟨value, hfirst, Or.inl hplain⟩)

/-- A request whose first value is plain and not blank has it as credentials. -/
theorem start_of_isPlain {value : Bytes} (hfirst : head.headers.IsFirst gate.headerName value)
    (hplain : IsPlain value) (hwords : Text.words (charsOf value) ≠ []) :
    gate.start head = .credentialsPresent (charsOf value) := by
  refine start_eq_credentialsPresent_iff.mpr ⟨value, hfirst, hplain, rfl, ?_⟩
  rwa [← Bool.not_eq_true, ← Text.words_eq_nil_iff]

/-- A request with **another scheme** is turned away for it, and the provider is not asked. -/
theorem attempt_of_bringsOtherScheme
    (h : BringsOtherScheme gate.headerName gate.scheme head.headers) :
    (gate.attempt provide world head).verdict = .error .unsupportedScheme ∧
      (gate.attempt provide world head).world = world := by
  obtain ⟨value, hfirst, hvalue⟩ := h
  by_cases hplain : IsPlain value
  · obtain ⟨first, rest, hwords, hscheme⟩ := hvalue.resolve_left (not_not_intro hplain)
    have hother : String.ofList first ≠ gate.scheme := by
      rintro heq
      rw [← heq, String.toList_ofList] at hscheme
      exact hscheme rfl
    rw [attempt_of_credentialsPresent
      (start_of_isPlain hfirst hplain (by rw [hwords]; exact List.cons_ne_nil _ _))]
    simp only [withCredentials, hwords, if_pos hother, and_self]
  · rw [attempt_of_decided (start_of_not_isPlain hfirst hplain)]
    exact ⟨rfl, rfl⟩

/-- A request with **the scheme only** is turned away for want of a token, and the provider is not
asked. -/
theorem attempt_of_bringsSchemeOnly
    (h : BringsSchemeOnly gate.headerName gate.scheme head.headers) :
    (gate.attempt provide world head).verdict = .error .missingTokenValue ∧
      (gate.attempt provide world head).world = world := by
  obtain ⟨value, hfirst, hplain, hwords⟩ := h
  rw [attempt_of_credentialsPresent
    (start_of_isPlain hfirst hplain (by rw [hwords]; exact List.cons_ne_nil _ _))]
  simp only [withCredentials, hwords, String.ofList_toList, ne_eq, not_true_eq_false, if_false,
    and_self]

/-- A request with **a token** is judged by what the provider answers, which is asked for it. -/
theorem attempt_of_bringsToken {raw : String}
    (h : BringsToken gate.headerName gate.scheme head.headers raw) :
    (gate.attempt provide world head).verdict = judge raw (provide world raw).1 ∧
      (gate.attempt provide world head).world = (provide world raw).2 := by
  obtain ⟨cs, hstart, hstarts⟩ := start_of_bringsToken h
  rw [attempt_of_credentialsPresent hstart, withCredentials_of_startsWith _ _ hstarts]
  exact ⟨rfl, rfl⟩

/-- A request **without credentials** is judged by its method and path, and the provider is not
asked. -/
theorem attempt_of_lacksCredentials (h : LacksCredentials gate.headerName head.headers) :
    (gate.attempt provide world head).verdict = gate.withoutCredentials head ∧
      (gate.attempt provide world head).world = world := by
  rw [attempt_of_noCredentials (start_eq_noCredentials_iff.mpr h)]
  exact ⟨rfl, rfl⟩

/-! ### Verdicts -/

/-- A gate **refuses** a request with a failure: for want of credentials where they are not optional,
for another scheme, for want of a token, or for what the provider answers for the token. -/
inductive Refuses (gate : Gate) (provide : Provider σ) (world : σ) (head : RequestHead) :
    GateFailure → Prop where
  | missing (hlacks : LacksCredentials gate.headerName head.headers)
      (hroutes : ¬∃ route ∈ gate.optionalRoutes, route.covers head.method head.path = true) :
      Refuses gate provide world head .missingCredentials
  | otherScheme (h : BringsOtherScheme gate.headerName gate.scheme head.headers) :
      Refuses gate provide world head .unsupportedScheme
  | schemeOnly (h : BringsSchemeOnly gate.headerName gate.scheme head.headers) :
      Refuses gate provide world head .missingTokenValue
  | answered {raw : String} {cause : Rejection}
      (hbrings : BringsToken gate.headerName gate.scheme head.headers raw)
      (hcause : (provide world raw).1 = .error cause) :
      Refuses gate provide world head (.authentication cause (fingerprint raw))

/-- A request without credentials is turned away exactly where they are not optional. -/
theorem withoutCredentials_eq_error_iff {failure : GateFailure} :
    gate.withoutCredentials head = .error failure ↔
      (¬∃ route ∈ gate.optionalRoutes, route.covers head.method head.path = true) ∧
        failure = .missingCredentials := by
  rw [withoutCredentials, isOptional, ← List.any_eq_true]
  split
  · next h => simp [h]
  · next h => simp [h, eq_comm]

/-- A screened token is turned away by what the provider answers. -/
theorem judge_eq_error_iff {raw : String} {answer : Except Rejection Identity}
    {failure : GateFailure} :
    judge raw answer = .error failure ↔
      ∃ cause, answer = .error cause ∧ failure = .authentication cause (fingerprint raw) := by
  cases answer with
  | ok who => simp [judge]
  | error cause => simp [judge, eq_comm]

/-- A request is turned away with a failure exactly if the gate **refuses** it with that. -/
theorem verdict_eq_error_iff {failure : GateFailure} :
    (gate.attempt provide world head).verdict = .error failure ↔
      gate.Refuses provide world head failure := by
  constructor
  · intro h
    rcases lacks_or_brings gate head with hlacks | hother | honly | ⟨raw, hbrings⟩
    · rw [(attempt_of_lacksCredentials hlacks).1, withoutCredentials_eq_error_iff] at h
      obtain ⟨hroutes, rfl⟩ := h
      exact .missing hlacks hroutes
    · rw [(attempt_of_bringsOtherScheme hother).1] at h
      cases h
      exact .otherScheme hother
    · rw [(attempt_of_bringsSchemeOnly honly).1] at h
      cases h
      exact .schemeOnly honly
    · rw [(attempt_of_bringsToken hbrings).1, judge_eq_error_iff] at h
      obtain ⟨cause, hcause, rfl⟩ := h
      exact .answered hbrings hcause
  · intro h
    cases h with
    | missing hlacks hroutes =>
        rw [(attempt_of_lacksCredentials hlacks).1, withoutCredentials_eq_error_iff]
        exact ⟨hroutes, rfl⟩
    | otherScheme hother => exact (attempt_of_bringsOtherScheme hother).1
    | schemeOnly honly => exact (attempt_of_bringsSchemeOnly honly).1
    | answered hbrings hcause =>
        rw [(attempt_of_bringsToken hbrings).1, judge_eq_error_iff]
        exact ⟨_, hcause, rfl⟩

/-! ### Stages -/

/-- The stages of a run are **in order**: it starts with no credentials, with credentials or with a
failure, and unless it has failed so it makes one turn, to the stage of its verdict. -/
def Run.InOrder (run : Run σ) : Prop :=
  ∃ t, (t = "authenticated" ∧ (∃ caller, run.verdict = .ok caller) ∨
      t = "failed" ∧ ∃ failure, run.verdict = .error failure) ∧
    (run.stages.map Stage.name = ["no_credentials", t] ∨
      run.stages.map Stage.name = ["credentials_present", t] ∨
      run.stages.map Stage.name = ["failed"] ∧ t = "failed")

/-- The last stage of a run has the name of its verdict. -/
theorem name_decided (verdict : Except GateFailure Caller) :
    (Stage.decided verdict).name = "authenticated" ∧ (∃ caller, verdict = .ok caller) ∨
      (Stage.decided verdict).name = "failed" ∧ ∃ failure, verdict = .error failure := by
  cases verdict with
  | error failure => exact Or.inr ⟨rfl, failure, rfl⟩
  | ok caller => exact Or.inl ⟨rfl, caller, rfl⟩

/-- Every request goes through its **stages** in order. -/
theorem inOrder_attempt (gate : Gate) (provide : Provider σ) (world : σ) (head : RequestHead) :
    (gate.attempt provide world head).InOrder := by
  refine ⟨(Stage.decided (gate.attempt provide world head).verdict).name, name_decided _, ?_⟩
  cases hstart : gate.start head with
  | noCredentials =>
      rw [attempt_of_noCredentials hstart]
      exact Or.inl rfl
  | credentialsPresent value =>
      rw [attempt_of_credentialsPresent hstart]
      exact Or.inr (Or.inl rfl)
  | decided verdict =>
      obtain rfl := start_eq_decided hstart
      rw [attempt_of_decided hstart]
      exact Or.inr (Or.inr ⟨rfl, rfl⟩)

/-! ### What the provider is asked -/

/-- Keeping a record makes no difference to credentials. -/
theorem withCredentials_recorded (gate : Gate) (provide : Provider σ) (world : σ)
    (asked : List String) (value : List Char) :
    (gate.withCredentials provide.recorded (world, asked) value).1 =
        (gate.withCredentials provide world value).1 ∧
      (gate.withCredentials provide.recorded (world, asked) value).2.1 =
        (gate.withCredentials provide world value).2 := by
  rw [withCredentials, withCredentials]
  split
  · exact ⟨rfl, rfl⟩
  · split
    · exact ⟨rfl, rfl⟩
    · split <;> exact ⟨rfl, rfl⟩

/-- Keeping a **record** makes no difference to a run. -/
theorem attempt_recorded (gate : Gate) (provide : Provider σ) (world : σ) (asked : List String)
    (head : RequestHead) :
    gate.attempt provide world head =
      ⟨(gate.attempt provide.recorded (world, asked) head).verdict,
        (gate.attempt provide.recorded (world, asked) head).stages,
        (gate.attempt provide.recorded (world, asked) head).world.1⟩ := by
  cases hstart : gate.start head with
  | noCredentials => rw [attempt_of_noCredentials hstart, attempt_of_noCredentials hstart]
  | credentialsPresent value =>
      obtain ⟨hverdict, hworld⟩ := withCredentials_recorded gate provide world asked value
      rw [attempt_of_credentialsPresent hstart, attempt_of_credentialsPresent hstart, hverdict,
        hworld]
  | decided verdict => rw [attempt_of_decided hstart, attempt_of_decided hstart]

/-- For a request with a token the provider is **asked once**, and for that token. -/
theorem asked_of_bringsToken {raw : String}
    (h : BringsToken gate.headerName gate.scheme head.headers raw) :
    (gate.attempt provide.recorded (world, []) head).world = ((provide world raw).2, [raw]) :=
  (attempt_of_bringsToken h).2

/-- For a request without a token the provider is **not asked**. -/
theorem asked_of_not_bringsToken
    (h : ∀ raw, ¬BringsToken gate.headerName gate.scheme head.headers raw) :
    (gate.attempt provide.recorded (world, []) head).world = (world, []) := by
  rcases lacks_or_brings gate head with hlacks | hother | honly | ⟨raw, hbrings⟩
  · exact (attempt_of_lacksCredentials hlacks).2
  · exact (attempt_of_bringsOtherScheme hother).2
  · exact (attempt_of_bringsSchemeOnly honly).2
  · exact absurd hbrings (h raw)

/-- A **store is asked** at most once for a request, after the token has been verified, and for the
key of its number. -/
theorem lookups_of_pass (gate : Gate) (now : Second) (store : Revocation.Store)
    (head : RequestHead) :
    (gate.pass now store head).lookups = [] ∨ ∃ raw who backend space,
      BringsToken gate.headerName gate.scheme head.headers raw ∧
      gate.screen.verifier.verify now raw = .ok who ∧
      gate.screen.source = .stored backend space ∧
      (gate.pass now store head).lookups = [Revocation.Source.key space who.id] := by
  rcases lacks_or_brings gate head with hlacks | hother | honly | ⟨raw, hbrings⟩
  · exact Or.inl (attempt_of_lacksCredentials hlacks).2
  · exact Or.inl (attempt_of_bringsOtherScheme hother).2
  · exact Or.inl (attempt_of_bringsSchemeOnly honly).2
  · rw [lookups_of_bringsToken hbrings, Screen.run]
    cases hverify : gate.screen.verifier.verify now raw with
    | error problem => exact Or.inl rfl
    | ok who =>
        cases hsource : gate.screen.source with
        | failClosed => exact Or.inl rfl
        | fixed ids => exact Or.inl rfl
        | stored backend space => exact Or.inr ⟨raw, who, backend, space, hbrings, hverify, rfl, rfl⟩

/-! ### Requests that lead with the same words -/

/-- Credentials are judged by their first two words. -/
theorem withCredentials_congr {cs other : List Char}
    (h : (Text.words cs).take 2 = (Text.words other).take 2) :
    gate.withCredentials provide world cs = gate.withCredentials provide world other := by
  rw [withCredentials, withCredentials]
  generalize Text.words cs = words at h
  generalize Text.words other = words' at h
  rcases words with _ | ⟨scheme, _ | ⟨token, more⟩⟩ <;>
    rcases words' with _ | ⟨scheme', _ | ⟨token', more'⟩⟩ <;>
    simp only [List.take_succ_cons, List.take_nil, List.take_zero, List.cons.injEq, reduceCtorEq,
      and_true, and_false] at h
  · rfl
  · rw [h]
  · rw [h.1, h.2]

/-- Headers lead with the first two words of the text that the first value reads as. -/
theorem leadsWith_of_text? {name : String} {headers : Http.Headers} {value : Bytes}
    {cs : List Char} {two : List (List Char)} (hfirst : headers.IsFirst name value)
    (htext : Http.text? value = some cs) (hblank : Text.isBlankText cs = false)
    (hwords : (Text.words cs).take 2 = two) : LeadsWith name headers two := by
  obtain ⟨hplain, rfl⟩ := Http.text?_eq_some_iff.mp htext
  refine ⟨value, hfirst, hplain, fun h => ?_, hwords⟩
  rw [← Http.isBlankText_charsOf_iff hplain, hblank] at h
  cases h

/-- Requests that **lead with the same words** fare the same: whatever else they are, the verdict is
the same, and so are the names of the stages and what the provider is asked. -/
theorem attempt_eq_of_leadsWith (provide : Provider σ) (world : σ) {other : RequestHead}
    {two : List (List Char)} (h : LeadsWith gate.headerName head.headers two)
    (hother : LeadsWith gate.headerName other.headers two) :
    (gate.attempt provide world head).verdict = (gate.attempt provide world other).verdict ∧
      (gate.attempt provide world head).stages.map Stage.name =
        (gate.attempt provide world other).stages.map Stage.name ∧
      (gate.attempt provide world head).world = (gate.attempt provide world other).world := by
  obtain ⟨value, hfirst, hplain, hblank, hwords⟩ := h
  obtain ⟨value', hfirst', hplain', hblank', hwords'⟩ := hother
  rw [← Http.isBlankText_charsOf_iff hplain, ← Text.words_eq_nil_iff] at hblank
  rw [← Http.isBlankText_charsOf_iff hplain', ← Text.words_eq_nil_iff] at hblank'
  rw [attempt_of_credentialsPresent (start_of_isPlain hfirst hplain hblank),
    attempt_of_credentialsPresent (start_of_isPlain hfirst' hplain' hblank'),
    withCredentials_congr (hwords.trans hwords'.symm)]
  exact ⟨rfl, rfl, rfl⟩

/-! ### All of it -/

/-- **What the gate does with a request**, whatever the gate, the provider and the request.

* It goes through one of three rows of stages, the last of which is that of its verdict, and makes
  one turn at most.
* It is turned away for want of credentials, for another scheme and for want of a token exactly if
  that is what is wrong with it, and otherwise only for what the provider answers.
* The provider is asked once if the request brings a token, for that token, and never otherwise; so
  a store is asked at most once, after the token has been verified, for the key of its number.
* A request that leads with the same words in plain text fares the same. -/
theorem run_discipline (gate : Gate) (head : RequestHead) :
    (∀ {σ : Type} (provide : Provider σ) (world : σ),
      (gate.attempt provide world head).InOrder ∧
      (∀ failure, (gate.attempt provide world head).verdict = .error failure ↔
        gate.Refuses provide world head failure) ∧
      gate.attempt provide world head =
        ⟨(gate.attempt provide.recorded (world, []) head).verdict,
          (gate.attempt provide.recorded (world, []) head).stages,
          (gate.attempt provide.recorded (world, []) head).world.1⟩ ∧
      (∀ raw, BringsToken gate.headerName gate.scheme head.headers raw →
        (gate.attempt provide.recorded (world, []) head).world =
          ((provide world raw).2, [raw])) ∧
      ((∀ raw, ¬BringsToken gate.headerName gate.scheme head.headers raw) →
        (gate.attempt provide.recorded (world, []) head).world = (world, [])) ∧
      ∀ other two, LeadsWith gate.headerName head.headers two →
        LeadsWith gate.headerName other.headers two →
        (gate.attempt provide world head).verdict = (gate.attempt provide world other).verdict ∧
          (gate.attempt provide world head).stages.map Stage.name =
            (gate.attempt provide world other).stages.map Stage.name ∧
          (gate.attempt provide world head).world = (gate.attempt provide world other).world) ∧
    ∀ now store, (gate.pass now store head).lookups = [] ∨ ∃ raw who backend space,
      BringsToken gate.headerName gate.scheme head.headers raw ∧
      gate.screen.verifier.verify now raw = .ok who ∧
      gate.screen.source = .stored backend space ∧
      (gate.pass now store head).lookups = [Revocation.Source.key space who.id] :=
  ⟨fun provide world => ⟨inOrder_attempt gate provide world head,
      fun _ => verdict_eq_error_iff, attempt_recorded gate provide world [] head,
      fun _ hbrings => asked_of_bringsToken hbrings, asked_of_not_bringsToken,
      fun _ _ hleads hother => attempt_eq_of_leadsWith provide world hleads hother⟩,
    fun now store => lookups_of_pass gate now store head⟩

/-- A provider that counts how often it is asked is asked once for a request with a token, however
the words are spaced, whatever follows them and whatever else the request is. -/
theorem run_discipline_of_counting :
    let count : Provider ℕ := fun n _ => (.ok ⟨1, "counted", .empty⟩, n + 1)
    let head : RequestHead :=
      ⟨"GET", "/health", [("authorization", Utf8.encode "Bearer abc".toList)]⟩
    let other : RequestHead := ⟨"POST", "/", [("accept", []),
      ("authorization", Utf8.encode " Bearer \t abc and more".toList), ("authorization", [])]⟩
    ((sampleGate (.fixed [])).attempt count.recorded (0, []) head).world = (1, ["abc"]) ∧
      ((sampleGate (.fixed [])).attempt count.recorded (0, []) other).world = (1, ["abc"]) := by
  intro count head other
  have hfirst : head.headers.IsFirst "authorization" (Utf8.encode "Bearer abc".toList) :=
    ⟨[], [], rfl, by simp⟩
  have hfirst' : other.headers.IsFirst "authorization"
      (Utf8.encode " Bearer \t abc and more".toList) :=
    ⟨[("accept", [])], [("authorization", [])], rfl, by simp⟩
  have htext : Http.text? (Utf8.encode "Bearer abc".toList) = some "Bearer abc".toList := by
    decide +kernel
  have htext' : Http.text? (Utf8.encode " Bearer \t abc and more".toList) =
      some " Bearer \t abc and more".toList := by
    decide +kernel
  have hleads : LeadsWith "authorization" head.headers ["Bearer".toList, "abc".toList] :=
    leadsWith_of_text? hfirst htext (by decide +kernel) (by decide +kernel)
  have hleads' : LeadsWith "authorization" other.headers ["Bearer".toList, "abc".toList] :=
    leadsWith_of_text? hfirst' htext' (by decide +kernel) (by decide +kernel)
  have hbrings : BringsToken "authorization" "Bearer" head.headers "abc" := by
    have hwords : Text.words "Bearer abc".toList = ["Bearer".toList, "abc".toList] := by
      decide +kernel
    obtain ⟨hplain, hchars⟩ := Http.text?_eq_some_iff.mp htext
    rw [hchars] at hwords
    exact ⟨_, hfirst, hplain, Text.startsWith_iff.mpr ⟨[], hwords⟩⟩
  obtain ⟨hrun, -⟩ := run_discipline (sampleGate (.fixed [])) head
  obtain ⟨-, -, -, hasked, -, -⟩ := hrun count 0
  obtain ⟨-, -, -, -, -, hsame⟩ := hrun count.recorded (0, [])
  have hone := hasked "abc" hbrings
  exact ⟨hone, (hsame other _ hleads hleads').2.2.symm.trans hone⟩

end Gate

end BearerGate
