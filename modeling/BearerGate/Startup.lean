import BearerGate.Service.Setup

/-!
# Startup

What the service does before it serves: it reads its settings, is set up, and takes its port. A
startup that fails ends with a chain of texts, from what was being done to what went wrong.
-/

namespace BearerGate.Startup

/-- Why a startup failed. -/
inductive Problem where
  | setup (problem : SetupProblem)
  | addressInUse (address : String)
  deriving DecidableEq

/-- The texts of a failed setup, outermost first. -/
def setupChain : SetupProblem → List String
  | .settings problem => [problem.message]
  | .revocation fault => ["failed to connect revocation backend", fault.message]
  | .gate problem => "failed to build authentication gate" :: problem.message :: problem.causes
  | .issuer problem => "failed to load AUTH_PRIVATE_KEY" :: problem.message :: problem.causes

/-- The texts of a failed startup, outermost first. -/
def Problem.chain : Problem → List String
  | .setup problem => setupChain problem
  | .addressInUse address =>
    ["failed to bind " ++ address, "Address already in use (os error 98)"]

/-- The settings and the service that an environment describes. -/
def prepare (env : Settings.Environment) (reachable : String → Bool) :
    Except SetupProblem (Settings × Service) :=
  match Settings.read env with
  | .error problem => .error (.settings problem)
  | .ok settings => (Service.setUp reachable settings).map fun service => (settings, service)

/-- Starts the service; `portTaken` says which ports are in use. -/
def start (env : Settings.Environment) (reachable : String → Bool) (portTaken : Nat → Bool) :
    Except Problem Service :=
  match prepare env reachable with
  | .error problem => .error (.setup problem)
  | .ok (settings, service) =>
    if portTaken settings.port then .error (.addressInUse settings.address) else .ok service

end BearerGate.Startup
