import BearerGate.Revocation
import BearerGate.Token.Verifier

/-!
# Screening Tokens

Screening is verification followed by a revocation lookup. The lookup is made only for a token
that verifies, and with the number that it carries.

The gate knows of screening only that it is a provider: something that, given a token, answers whom
it stands for or why it is turned away.
-/

namespace BearerGate

/-- Why a token was turned away. -/
inductive Rejection where
  | token (problem : TokenProblem)
  | revoked (id : Int64)
  | unavailable (fault : Revocation.Fault)
  deriving DecidableEq

namespace Rejection

/-- The text of a rejection; it does not tell the number of a revoked token. -/
def message : Rejection → String
  | token problem => problem.message
  | revoked _ => "blacklisted token"
  | unavailable _ => "revocation check unavailable"

/-- The texts of the problems behind a rejection; `said` is what is said of a token that cannot be
read. -/
def causes (said : String) : Rejection → List String
  | token problem => (problem.detail? said).toList
  | revoked _ => []
  | unavailable fault => [fault.message]

/-- The text of a rejection and of all that is behind it, for logs. -/
def chain (r : Rejection) (said : String) : String :=
  ": ".intercalate (r.message :: r.causes said)

/-- The number of the token, if the rejection is about a number. -/
def tokenId? : Rejection → Option Int64
  | revoked id => some id
  | _ => none

end Rejection

/-- What answers for tokens: whom a token stands for, or why it is turned away. The answer is given
in view of a world, which may be another one after that. -/
abbrev Provider (σ : Type) := σ → String → Except Rejection Identity × σ

/-- What screens tokens. -/
structure Screen where
  verifier : Verifier
  source : Revocation.Source

/-- What is said where no source of revocations was configured. -/
def Screen.notWiredMessage : String :=
  "no revocation checker configured; refusing to start with the fail-closed default"

namespace Screen

/-- What the answer of a source means for an identity. -/
def judge (who : Identity) : Except Revocation.Fault Bool → Except Rejection Identity
  | .ok false => .ok who
  | .ok true => .error (.revoked who.id)
  | .error fault => .error (.unavailable fault)

/-- What came of screening a token: the verdict, and the keys that a store was asked for. -/
structure Outcome where
  verdict : Except Rejection Identity
  lookups : List String

/-- Screens a token. -/
def run (s : Screen) (now : Second) (store : Revocation.Store) (raw : String) : Outcome :=
  match s.verifier.verify now raw with
  | .error problem => ⟨.error (.token problem), []⟩
  | .ok who => ⟨judge who (s.source.isRevoked store who.id), s.source.lookups who.id⟩

/-- Screening as a provider; its world is the list of the keys that a store has been asked for. -/
def provider (s : Screen) (now : Second) (store : Revocation.Store) : Provider (List String) :=
  fun asked raw =>
    let outcome := s.run now store raw
    (outcome.verdict, asked ++ outcome.lookups)

/-- The identity that a token stands for, unless it is revoked or that cannot be known. -/
def check (s : Screen) (now : Second) (store : Revocation.Store) (raw : String) :
    Except Rejection Identity :=
  (s.run now store raw).verdict

end Screen

end BearerGate
