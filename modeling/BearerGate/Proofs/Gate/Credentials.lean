import BearerGate.Proofs.Gate.Stages
import BearerGate.Proofs.Http.Headers
import BearerGate.Proofs.Text.Words
import BearerGate.Proofs.Token.Verification

/-!
# What a Request Brings to the Gate

A request brings a token, or it lacks credentials, or it does neither; which of these it is can
be said of its headers alone. This module says it without cutting or looking anything up, and
gives the passage through the gate in each of the three cases. Everything that is proved of the
gate elsewhere goes through these cases and opens none of its functions.

## Main results

* `Gate.pass_of_lacksCredentials`, `Gate.verdict_of_bringsToken`, `Gate.lookups_of_bringsToken`,
  `Gate.pass_of_neither`: the passage in the three cases.
* `Screen.check_eq_ok_iff`: which tokens get past the screen, and as whom.
* `Screen.check_eq_revoked_iff`: which tokens are turned away as revoked.
* `Gate.verdict_eq_ok_iff`: which requests get past the gate, and as whom.
-/

namespace BearerGate

open Http (IsPlain charsOf)

/-! ### Headers -/

/-- Headers that **lack credentials** under a name: there is no field of that name, or the first
one is made of spaces and tabs. -/
def LacksCredentials (name : String) (headers : Http.Headers) : Prop :=
  (∀ field ∈ headers, field.1 ≠ name) ∨
    ∃ value, headers.IsFirst name value ∧ ∀ b ∈ value, b.toNat = 0x20 ∨ b.toNat = 0x09

/-- Headers that **bring a token** under a name and with a scheme: the first field of that name
is plain text whose first word is the scheme and whose second word is the token. -/
def BringsToken (name scheme : String) (headers : Http.Headers) (raw : String) : Prop :=
  ∃ value, headers.IsFirst name value ∧ IsPlain value ∧
    Text.StartsWith scheme.toList raw.toList (charsOf value)

/-- Headers whose first value of a name is a visible scheme and a visible token with a space
between them **bring that token**. -/
theorem bringsToken_of_isVisible {name scheme raw : String} {headers : Http.Headers}
    (hscheme : Text.IsVisible scheme.toList) (hraw : Text.IsVisible raw.toList)
    (h : headers.IsFirst name (Utf8.encode (scheme ++ " " ++ raw).toList)) :
    BringsToken name scheme headers raw := by
  have htext : (scheme ++ " " ++ raw).toList = scheme.toList ++ ' ' :: raw.toList := by
    simp
  have hplain : ∀ c ∈ scheme.toList ++ ' ' :: raw.toList, 0x20 ≤ c.toNat ∧ c.toNat ≤ 0x7E := by
    intro c hc
    rcases List.mem_append.mp hc with hc | hc
    · have hvisible := hscheme.2 c hc
      omega
    · rcases List.mem_cons.mp hc with rfl | hc
      · decide
      · have hvisible := hraw.2 c hc
        omega
  rw [htext] at h
  refine ⟨_, h, Http.isPlain_encode hplain, ?_⟩
  rw [Http.charsOf_encode fun c hc => Nat.lt_of_le_of_lt (hplain c hc).2 (by decide)]
  exact Text.startsWith_of_isWord hscheme.isWord hraw.isWord

/-- Blanks of a header value are plain. -/
theorem isPlain_of_blank {value : Bytes} (h : ∀ b ∈ value, b.toNat = 0x20 ∨ b.toNat = 0x09) :
    IsPlain value := by
  intro b hb
  rw [Http.IsPlainByte]
  have := h b hb
  omega

/-! ### Stages -/

namespace Gate

variable {gate : Gate} {now : Second} {store : Revocation.Store} {head : RequestHead}

/-- A request is found to have no credentials exactly when its headers lack them. -/
theorem start_eq_noCredentials_iff :
    gate.start head = .noCredentials ↔ LacksCredentials gate.headerName head.headers := by
  constructor
  · intro h
    rw [start] at h
    split at h
    · next hnone => exact Or.inl (Http.Headers.first?_eq_none_iff.mp hnone)
    · next value hfirst =>
      split at h
      · cases h
      · next cs htext =>
        obtain ⟨hplain, rfl⟩ := Http.text?_eq_some_iff.mp htext
        split at h
        · next hblank =>
          exact Or.inr ⟨value, Http.Headers.first?_eq_some_iff.mp hfirst,
            (Http.isBlankText_charsOf_iff hplain).mp hblank⟩
        · cases h
  · rintro (hnone | ⟨value, hfirst, hblank⟩)
    · rw [start, Http.Headers.first?_eq_none_iff.mpr hnone]
    · have hplain := isPlain_of_blank hblank
      rw [start, Http.Headers.first?_eq_some_iff.mpr hfirst]
      simp only
      rw [Http.text?_eq_some_iff.mpr ⟨hplain, rfl⟩]
      simp only
      rw [if_pos ((Http.isBlankText_charsOf_iff hplain).mpr hblank)]

/-- A request is found to have credentials exactly when the first value of the credential header
is plain and not blank, and they are what it reads as. -/
theorem start_eq_credentialsPresent_iff {cs : List Char} :
    gate.start head = .credentialsPresent cs ↔
      ∃ value, head.headers.IsFirst gate.headerName value ∧ IsPlain value ∧
        cs = charsOf value ∧ Text.isBlankText cs = false := by
  constructor
  · intro h
    rw [start] at h
    split at h
    · cases h
    · next value hfirst =>
      split at h
      · cases h
      · next found htext =>
        obtain ⟨hplain, rfl⟩ := Http.text?_eq_some_iff.mp htext
        split at h
        · cases h
        · next hblank =>
          cases h
          exact ⟨value, Http.Headers.first?_eq_some_iff.mp hfirst, hplain, rfl,
            by simpa using hblank⟩
  · rintro ⟨value, hfirst, hplain, rfl, hblank⟩
    rw [start, Http.Headers.first?_eq_some_iff.mpr hfirst]
    simp only
    rw [Http.text?_eq_some_iff.mpr ⟨hplain, rfl⟩]
    simp only
    rw [if_neg (by rw [hblank]; simp)]

/-- A request that is decided at once is one whose credentials are not plain. -/
theorem start_eq_decided {verdict : Except GateFailure Caller}
    (h : gate.start head = .decided verdict) : verdict = .error .unsupportedScheme := by
  rw [start] at h
  split at h
  · cases h
  · split at h
    · cases h
      rfl
    · split at h <;> cases h

/-! ### Passages -/

/-- A request that **lacks credentials** is judged by its method and path. -/
theorem pass_of_lacksCredentials (h : LacksCredentials gate.headerName head.headers) :
    gate.pass now store head = ⟨gate.withoutCredentials head,
      [.noCredentials, .decided (gate.withoutCredentials head)], []⟩ := by
  rw [pass, attempt_of_noCredentials (start_eq_noCredentials_iff.mpr h)]

/-- A request whose credentials are not plain is decided at once. -/
theorem start_of_not_isPlain {value : Bytes}
    (hfirst : head.headers.IsFirst gate.headerName value) (hvalue : ¬IsPlain value) :
    gate.start head = .decided (.error .unsupportedScheme) := by
  have htext : Http.text? value = none :=
    Option.eq_none_iff_forall_ne_some.mpr fun cs hcs => hvalue (Http.text?_eq_some_iff.mp hcs).1
  rw [start, Http.Headers.first?_eq_some_iff.mpr hfirst]
  simp only [htext]

/-- A request whose credentials are **not plain** is turned away at once. -/
theorem verdict_of_not_isPlain {value : Bytes}
    (hfirst : head.headers.IsFirst gate.headerName value) (hvalue : ¬IsPlain value) :
    (gate.pass now store head).verdict = .error .unsupportedScheme := by
  rw [pass, attempt_of_decided (start_of_not_isPlain hfirst hvalue)]

/-- Credentials that start with the scheme and a token are judged by what is provided for the
token. -/
theorem withCredentials_of_startsWith {σ : Type} (provide : Provider σ) (world : σ)
    {cs : List Char} {raw : String} (h : Text.StartsWith gate.scheme.toList raw.toList cs) :
    gate.withCredentials provide world cs =
      (judge raw (provide world raw).1, (provide world raw).2) := by
  obtain ⟨more, hwords⟩ := Text.startsWith_iff.mp h
  rw [withCredentials]
  rw [hwords]
  simp only [String.ofList_toList, ne_eq, not_true_eq_false, if_false]

/-- Credentials that do not start with the scheme and some token are turned away unseen. -/
theorem withCredentials_of_not_startsWith {σ : Type} (provide : Provider σ) (world : σ)
    {cs : List Char} (h : ∀ raw : String, ¬Text.StartsWith gate.scheme.toList raw.toList cs) :
    ∃ failure, gate.withCredentials provide world cs = (.error failure, world) ∧
      failure.outward = .unauthenticated := by
  rw [withCredentials]
  split
  · exact ⟨.unsupportedScheme, rfl, rfl⟩
  · next first rest hwords =>
    split
    · exact ⟨.unsupportedScheme, rfl, rfl⟩
    · next hscheme =>
      split
      · exact ⟨.missingTokenValue, rfl, rfl⟩
      · next token more =>
        obtain hscheme : String.ofList first = gate.scheme := Classical.not_not.mp hscheme
        exfalso
        refine h (String.ofList token) (Text.startsWith_iff.mpr ⟨more, ?_⟩)
        rw [hwords, ← hscheme, String.toList_ofList, String.toList_ofList]

/-- What answers for tokens counts for the token that credentials start with, and for no other. -/
theorem withCredentials_congr_provider {σ : Type} {provide provide' : Provider σ} {world : σ}
    {cs : List Char} (h : ∀ raw : String, Text.StartsWith gate.scheme.toList raw.toList cs →
      provide world raw = provide' world raw) :
    gate.withCredentials provide world cs = gate.withCredentials provide' world cs := by
  rw [withCredentials, withCredentials]
  split
  · rfl
  · next first rest hwords =>
    split
    · rfl
    · next hscheme =>
      split
      · rfl
      · next token more =>
        have hscheme : String.ofList first = gate.scheme := Classical.not_not.mp hscheme
        have hstarts : Text.StartsWith gate.scheme.toList (String.ofList token).toList cs := by
          refine Text.startsWith_iff.mpr ⟨more, ?_⟩
          rw [hwords, ← hscheme, String.toList_ofList, String.toList_ofList]
        simp only [h _ hstarts]

/-- What answers for tokens counts for the token that a request brings, and **for no other**. -/
theorem attempt_congr_provider {σ : Type} {provide provide' : Provider σ} {world : σ}
    (h : ∀ raw, BringsToken gate.headerName gate.scheme head.headers raw →
      provide world raw = provide' world raw) :
    gate.attempt provide world head = gate.attempt provide' world head := by
  cases hstart : gate.start head with
  | noCredentials => rw [attempt_of_noCredentials hstart, attempt_of_noCredentials hstart]
  | decided verdict => rw [attempt_of_decided hstart, attempt_of_decided hstart]
  | credentialsPresent cs =>
      obtain ⟨value, hfirst, hplain, rfl, -⟩ := start_eq_credentialsPresent_iff.mp hstart
      have hjudged := withCredentials_congr_provider fun raw hstarts =>
        h raw ⟨value, hfirst, hplain, hstarts⟩
      rw [attempt_of_credentialsPresent hstart, attempt_of_credentialsPresent hstart, hjudged]

/-- A request that brings a token has credentials, which start with the scheme and the token. -/
theorem start_of_bringsToken {raw : String}
    (h : BringsToken gate.headerName gate.scheme head.headers raw) :
    ∃ cs, gate.start head = .credentialsPresent cs ∧
      Text.StartsWith gate.scheme.toList raw.toList cs := by
  obtain ⟨value, hfirst, hplain, hstarts⟩ := h
  refine ⟨charsOf value, start_eq_credentialsPresent_iff.mpr ⟨value, hfirst, hplain, rfl, ?_⟩,
    hstarts⟩
  obtain ⟨more, hwords⟩ := Text.startsWith_iff.mp hstarts
  rw [← Bool.not_eq_true, ← Text.words_eq_nil_iff, hwords]
  simp

/-- A request that **brings a token** is judged by screening it. -/
theorem verdict_of_bringsToken {raw : String}
    (h : BringsToken gate.headerName gate.scheme head.headers raw) :
    (gate.pass now store head).verdict = judge raw (gate.screen.check now store raw) := by
  obtain ⟨cs, hstart, hstarts⟩ := start_of_bringsToken h
  rw [pass, attempt_of_credentialsPresent hstart, withCredentials_of_startsWith _ _ hstarts]
  rfl

/-- For a request that brings a token a store is asked for what screening it asks for. -/
theorem lookups_of_bringsToken {raw : String}
    (h : BringsToken gate.headerName gate.scheme head.headers raw) :
    (gate.pass now store head).lookups = (gate.screen.run now store raw).lookups := by
  obtain ⟨cs, hstart, hstarts⟩ := start_of_bringsToken h
  rw [pass, attempt_of_credentialsPresent hstart, withCredentials_of_startsWith _ _ hstarts]
  rfl

/-- A request that brings something else than a token is turned away, and no store is asked. -/
theorem pass_of_neither (now : Second) (store : Revocation.Store)
    (hlacks : ¬LacksCredentials gate.headerName head.headers)
    (hbrings : ∀ raw, ¬BringsToken gate.headerName gate.scheme head.headers raw) :
    ∃ failure, (gate.pass now store head).verdict = .error failure ∧
      failure.outward = .unauthenticated ∧ (gate.pass now store head).lookups = [] := by
  rw [pass]
  cases hstart : gate.start head with
  | noCredentials => exact absurd (start_eq_noCredentials_iff.mp hstart) hlacks
  | decided verdict =>
      obtain rfl := start_eq_decided hstart
      rw [attempt_of_decided hstart]
      exact ⟨.unsupportedScheme, rfl, rfl, rfl⟩
  | credentialsPresent cs =>
      obtain ⟨value, hfirst, hplain, rfl, -⟩ := start_eq_credentialsPresent_iff.mp hstart
      have hstarts : ∀ raw : String,
          ¬Text.StartsWith gate.scheme.toList raw.toList (charsOf value) :=
        fun raw hraw => hbrings raw ⟨value, hfirst, hplain, hraw⟩
      obtain ⟨failure, heq, hclass⟩ := withCredentials_of_not_startsWith
        (gate.screen.provider now store) [] hstarts
      rw [attempt_of_credentialsPresent hstart, heq]
      exact ⟨failure, rfl, hclass, rfl⟩

end Gate

/-! ### Who gets past -/

/-- A token gets past the screen exactly when it verifies and its number is known not to have
been revoked. -/
theorem Screen.check_eq_ok_iff {screen : Screen} {now : Second} {store : Revocation.Store}
    {raw : String} {who : Identity} :
    screen.check now store raw = .ok who ↔
      screen.verifier.verify now raw = .ok who ∧
        screen.source.isRevoked store who.id = .ok false := by
  rw [check, run]
  cases hverify : screen.verifier.verify now raw with
  | error problem => simp
  | ok found =>
      simp only [Except.ok.injEq]
      constructor
      · intro h
        unfold judge at h
        split at h
        · next hrevoked =>
          cases h
          exact ⟨rfl, hrevoked⟩
        · cases h
        · cases h
      · rintro ⟨rfl, hrevoked⟩
        rw [hrevoked]
        rfl

/-- A token that verifies is judged by what the source says of its number. -/
theorem Screen.check_of_verify {v : Verifier} {source : Revocation.Source} {now : Second}
    {store : Revocation.Store} {raw : String} {who : Identity} (h : v.verify now raw = .ok who) :
    check ⟨v, source⟩ now store raw = judge who (source.isRevoked store who.id) := by
  simp only [check, run, h]

/-- A token is **turned away as revoked** exactly when it verifies and the source says so of its
number. -/
theorem Screen.check_eq_revoked_iff {screen : Screen} {now : Second} {store : Revocation.Store}
    {raw : String} {id : Int64} :
    screen.check now store raw = .error (.revoked id) ↔
      ∃ who, screen.verifier.verify now raw = .ok who ∧
        screen.source.isRevoked store who.id = .ok true ∧ who.id = id := by
  rw [check, run]
  cases hverify : screen.verifier.verify now raw with
  | error problem => simp
  | ok who =>
      simp only [Except.ok.injEq, exists_eq_left']
      rcases screen.source.isRevoked store who.id with fault | (_ | _) <;> simp [judge]

/-- A screened token is judged as the authenticated caller that it stands for. -/
theorem Gate.judge_eq_ok_iff {raw : String} {outcome : Except Rejection Identity}
    {caller : Caller} :
    Gate.judge raw outcome = .ok caller ↔
      ∃ who, outcome = .ok who ∧ caller = (Caller.ofIdentity who).authenticate := by
  cases outcome with
  | error cause => simp [Gate.judge]
  | ok who =>
      simp only [Gate.judge, Except.ok.injEq, exists_eq_left']
      exact eq_comm

/-- A request without credentials gets past exactly where they are optional. -/
theorem Gate.withoutCredentials_eq_ok_iff {gate : Gate} {head : RequestHead} {caller : Caller} :
    gate.withoutCredentials head = .ok caller ↔
      (∃ route ∈ gate.optionalRoutes, route.covers head.method head.path = true) ∧
        caller = Caller.anonymous := by
  rw [Gate.withoutCredentials, Gate.isOptional]
  rw [← List.any_eq_true]
  constructor
  · intro h
    split at h
    · next hoptional =>
      cases h
      exact ⟨hoptional, rfl⟩
    · cases h
  · rintro ⟨hoptional, rfl⟩
    rw [if_pos hoptional]

/-- **Who gets past the gate**: a request without credentials where they are optional, and a
request with a token that verifies and is known not to have been revoked. -/
theorem Gate.verdict_eq_ok_iff {gate : Gate} {now : Second} {store : Revocation.Store}
    {head : RequestHead} {caller : Caller} :
    (gate.pass now store head).verdict = .ok caller ↔
      (LacksCredentials gate.headerName head.headers ∧
        (∃ route ∈ gate.optionalRoutes, route.covers head.method head.path = true) ∧
        caller = Caller.anonymous) ∨
      ∃ raw who, BringsToken gate.headerName gate.scheme head.headers raw ∧
        gate.screen.verifier.verify now raw = .ok who ∧
        gate.screen.source.isRevoked store who.id = .ok false ∧
        caller = (Caller.ofIdentity who).authenticate := by
  constructor
  · intro h
    by_cases hlacks : LacksCredentials gate.headerName head.headers
    · rw [Gate.pass_of_lacksCredentials hlacks] at h
      exact Or.inl ⟨hlacks, Gate.withoutCredentials_eq_ok_iff.mp h⟩
    · by_cases hbrings : ∃ raw, BringsToken gate.headerName gate.scheme head.headers raw
      · obtain ⟨raw, hbrings⟩ := hbrings
        rw [Gate.verdict_of_bringsToken hbrings] at h
        obtain ⟨who, hcheck, rfl⟩ := Gate.judge_eq_ok_iff.mp h
        obtain ⟨hverify, hrevoked⟩ := Screen.check_eq_ok_iff.mp hcheck
        exact Or.inr ⟨raw, who, hbrings, hverify, hrevoked, rfl⟩
      · obtain ⟨failure, herror, -, -⟩ := Gate.pass_of_neither now store hlacks
          fun raw hraw => hbrings ⟨raw, hraw⟩
        rw [herror] at h
        cases h
  · rintro (⟨hlacks, hroute, rfl⟩ | ⟨raw, who, hbrings, hverify, hrevoked, rfl⟩)
    · rw [Gate.pass_of_lacksCredentials hlacks]
      exact Gate.withoutCredentials_eq_ok_iff.mpr ⟨hroute, rfl⟩
    · rw [Gate.verdict_of_bringsToken hbrings,
        Screen.check_eq_ok_iff.mpr ⟨hverify, hrevoked⟩]
      rfl

end BearerGate
