import BearerGate.LogEvent
import BearerGate.Role
import BearerGate.Service.Handlers
import BearerGate.Settings

/-!
# Setting Up the Service

From settings to a service in three stages: the source of revocations is connected, the gate is
built, and the issuer is loaded if there is a private key. Without a source of revocations the
gate is not built at all, rather than turning every request away later on.
-/

namespace BearerGate

/-- Why the gate was not built. -/
inductive GateProblem where
  | key (problem : Key.Problem)
  | notWired
  deriving DecidableEq

namespace GateProblem

/-- The text of a problem. -/
def message : GateProblem → String
  | key _ => "invalid key material"
  | notWired => Screen.notWiredMessage

/-- The texts of the problems behind a problem. -/
def causes : GateProblem → List String
  | key problem => problem.message :: problem.causes
  | notWired => []

end GateProblem

/-- Why the service was not set up, by the stage that failed. -/
inductive SetupProblem where
  | settings (problem : Settings.Problem)
  | revocation (fault : Revocation.Fault)
  | gate (problem : GateProblem)
  | issuer (problem : Key.Problem)
  deriving DecidableEq

namespace Service

/-- The source of revocations that settings ask for. A server is found by its address; one that
is not reached is a fault. -/
def connect (reachable : String → Bool) :
    RevocationSetting → Except Revocation.Fault (Option Revocation.Source)
  | .unset => .ok none
  | .fixed ids => .ok (some (.fixed ids))
  | .server url space =>
    if reachable url then .ok (some (.stored .server space)) else .error (.connection none)

/-- The screen of the gate that settings ask for. -/
def buildScreen (settings : Settings) (source : Option Revocation.Source) :
    Except GateProblem Screen :=
  match Verifier.load settings.algorithm settings.publicKey settings.leeway Role.resolve with
  | .error problem => .error (.key problem)
  | .ok verifier =>
    let screen : Screen := ⟨verifier, source.getD .failClosed⟩
    if screen.source.isPlaceholder then .error .notWired else .ok screen

/-- The gate that settings ask for. -/
def buildGate (settings : Settings) (source : Option Revocation.Source) :
    Except GateProblem Gate :=
  (buildScreen settings source).map fun screen =>
    ⟨settings.headerName, settings.scheme, settings.optionalRoutes, screen⟩

/-- The event for a gate that was built. -/
def readyEvent (settings : Settings) (gate : Gate) : LogEvent :=
  .gateReady settings.algorithm gate.screen.source

/-- The issuer that settings ask for; none without a private key. -/
def buildIssuer (settings : Settings) : Except Key.Problem (Option Issuer) :=
  match settings.privateKey with
  | none => .ok none
  | some material => (Issuer.load settings.algorithm material settings.lifetime).map some

/-- The service that settings ask for, with a source of revocations. -/
def assemble (settings : Settings) (source : Option Revocation.Source) :
    Except SetupProblem Service :=
  match buildGate settings source with
  | .error problem => .error (.gate problem)
  | .ok gate =>
    match buildIssuer settings with
    | .error problem => .error (.issuer problem)
    | .ok issuer => .ok ⟨gate, issuer⟩

/-- The service that settings ask for. -/
def setUp (reachable : String → Bool) (settings : Settings) : Except SetupProblem Service :=
  match connect reachable settings.revocation with
  | .error fault => .error (.revocation fault)
  | .ok source => assemble settings source

/-- The part of a store that revocation keys of a service are kept in, when the store is handed to
it: that of the settings, where they name one. -/
def keySpace : RevocationSetting → String
  | .server _ space => space
  | _ => Settings.defaultKeySpace

/-- The service that settings ask for, over a store in memory that takes the place of whatever
source of revocations they name. -/
def setUpInMemory (settings : Settings) : Except SetupProblem Service :=
  assemble settings (some (.stored .memory (keySpace settings.revocation)))

end Service

end BearerGate
