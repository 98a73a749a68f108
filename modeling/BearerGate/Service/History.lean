import BearerGate.Service.Pipeline

/-!
# Histories of a Service

A service in use: time passes, others write to the revocation store, the store fails and comes
back, tokens are issued, and requests arrive. `World` is all that can change; `Service.step` takes
one step and `Service.run` takes many. The service itself never changes and keeps nothing from one
step to the next.
-/

namespace BearerGate

/-- What changes around a service: the time and the revocation store. -/
structure World where
  now : Second
  store : Revocation.Store

/-- One step of a history. -/
inductive Step where
  | clock (now : Second)
  | addKey (key : String)
  | removeKey (key : String)
  | setOutage (outage : Option Revocation.Outage)
  | issue (draw : Nat) (who : Identity)
  | pass (head : RequestHead)
  | request (fresh : Service.Fresh) (request : Http.Request)
  | bareRequest (request : Http.Request)

/-- What came of a step. -/
inductive Reply where
  | clock (now : Second)
  | changed (value : Bool)
  | outage (value : Option Revocation.Outage)
  | noIssuer
  | issued (result : Except IssuingProblem String)
  | passage (passage : Gate.Passage)
  | exchange (exchange : Service.Exchange)
  | bare (response : Http.Response)

namespace Service

/-- The world after a step. Only steps on the clock and the store change it. -/
def worldAfter (world : World) : Step → World
  | .clock now => { world with now }
  | .addKey key => { world with store := world.store.add key }
  | .removeKey key => { world with store := world.store.remove key }
  | .setOutage outage => { world with store := { world.store with outage } }
  | _ => world

/-- What comes of a step. -/
def reply (service : Service) (world : World) : Step → Reply
  | .clock now => .clock now
  | .addKey key => .changed !(world.store.has key)
  | .removeKey key => .changed (world.store.has key)
  | .setOutage outage => .outage outage
  | .issue draw who =>
    match service.issuer with
    | none => .noIssuer
    | some issuer => .issued (issuer.issue world.now draw who)
  | .pass head => .passage (service.gate.pass world.now world.store head)
  | .request fresh request => .exchange (service.handle world.now world.store fresh request)
  | .bareRequest request => .bare (service.handleBare request)

/-- Takes one step. -/
def step (service : Service) (world : World) (s : Step) : World × Reply :=
  (worldAfter world s, service.reply world s)

/-- Takes steps in order; the replies come in the same order. -/
def run (service : Service) (world : World) : List Step → World × List Reply
  | [] => (world, [])
  | s :: rest =>
    let (world, reply) := service.step world s
    let (world, replies) := service.run world rest
    (world, reply :: replies)

end Service

end BearerGate
