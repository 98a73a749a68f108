import BearerGate.Gate

/-!
# From Stage to Stage

A request is taken through the gate in turns, from its first stage to one in which it is decided.
There is at most one turn, since every stage that a turn leads to is decided; so what comes of a
request can be read off its first stage, whatever it is that answers for tokens.

## Main results

* `Gate.attempt_of_noCredentials`, `Gate.attempt_of_credentialsPresent`, `Gate.attempt_of_decided`:
  what comes of a request with each of the first stages.
-/

namespace BearerGate.Gate

variable {σ : Type} {gate : Gate} {provide : Provider σ} {head : RequestHead} {world : σ}

/-- A stage that is decided is the last. -/
theorem follow_decided (verdict : Except GateFailure Caller) :
    gate.follow provide head world (.decided verdict) =
      ⟨verdict, [.decided verdict], world⟩ := by
  rw [follow]
  rfl

/-- A stage that is not decided is followed by one that is. -/
theorem follow_of_turn {stage : Stage} {verdict : Except GateFailure Caller} {after : σ}
    (h : stage.verdict? = none)
    (hturn : gate.turn provide head world stage = (.decided verdict, after)) :
    gate.follow provide head world stage = ⟨verdict, [stage, .decided verdict], after⟩ := by
  rw [follow]
  split
  · next found hfound =>
    rw [h] at hfound
    cases hfound
  · simp only [hturn, follow_decided]

/-- A request **without credentials** is decided by its method and path. -/
theorem attempt_of_noCredentials (h : gate.start head = .noCredentials) :
    gate.attempt provide world head = ⟨gate.withoutCredentials head,
      [.noCredentials, .decided (gate.withoutCredentials head)], world⟩ := by
  rw [attempt, h]
  exact follow_of_turn rfl rfl

/-- A request **with credentials** is decided by these. -/
theorem attempt_of_credentialsPresent {value : List Char}
    (h : gate.start head = .credentialsPresent value) :
    gate.attempt provide world head = ⟨(gate.withCredentials provide world value).1,
      [.credentialsPresent value, .decided (gate.withCredentials provide world value).1],
      (gate.withCredentials provide world value).2⟩ := by
  rw [attempt, h]
  exact follow_of_turn rfl rfl

/-- A request may be **decided at once**. -/
theorem attempt_of_decided {verdict : Except GateFailure Caller}
    (h : gate.start head = .decided verdict) :
    gate.attempt provide world head = ⟨verdict, [.decided verdict], world⟩ := by
  rw [attempt, h, follow_decided]

/-- What comes of a request depends on the method, the path and the first value of the credential
header only. -/
theorem attempt_congr {other : RequestHead} (hmethod : head.method = other.method)
    (hpath : head.path = other.path)
    (hfirst : Http.Headers.first? head.headers gate.headerName =
      Http.Headers.first? other.headers gate.headerName) :
    gate.attempt provide world head = gate.attempt provide world other := by
  have hstart : gate.start head = gate.start other := by rw [start, start, hfirst]
  have hwithout : gate.withoutCredentials head = gate.withoutCredentials other := by
    rw [withoutCredentials, withoutCredentials, isOptional, isOptional, hmethod, hpath]
  cases h : gate.start other with
  | noCredentials =>
      rw [attempt_of_noCredentials h, attempt_of_noCredentials (hstart.trans h), hwithout]
  | credentialsPresent value =>
      rw [attempt_of_credentialsPresent h, attempt_of_credentialsPresent (hstart.trans h)]
  | decided verdict => rw [attempt_of_decided h, attempt_of_decided (hstart.trans h)]

end BearerGate.Gate
