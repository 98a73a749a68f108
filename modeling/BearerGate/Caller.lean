import BearerGate.Identity

/-!
# Callers

Who a request comes from, as far as the rest of the service is concerned: a name and a set of
authorities. A caller without credentials is anonymous and holds one authority, which no token
grants. Being authenticated is a one-way street: once it is so, it cannot be undone.
-/

namespace BearerGate

/-- Where the identity of a caller comes from. -/
inductive CallerKind where
  | anonymous
  | token
  deriving DecidableEq

/-- Who a request comes from. -/
structure Caller where
  name : String
  authorities : NameSet
  kind : CallerKind
  authenticated : Bool
  deriving DecidableEq

/-- What is refused about the state of a caller. -/
inductive CallerProblem where
  | cannotUndoAuthentication
  deriving DecidableEq

/-- The text of a problem. -/
def CallerProblem.message : CallerProblem → String
  | .cannotUndoAuthentication => "can't undo authentication"

namespace Caller

/-- The name and only authority of a caller without credentials. -/
def anonymousName : String := "ANONYMOUS"

/-- A caller without credentials. -/
def anonymous : Caller where
  name := anonymousName
  authorities := NameSet.ofList [anonymousName]
  kind := .anonymous
  authenticated := true

/-- The caller that a token stands for, one authority for each grant; not yet authenticated. -/
def ofIdentity (who : Identity) : Caller where
  name := who.username
  authorities := who.grants
  kind := .token
  authenticated := false

/-- Whether a caller has no credentials. -/
def isAnonymous (c : Caller) : Bool :=
  c.kind = .anonymous

/-- Whether a caller holds an authority. -/
def hasAuthority (c : Caller) (authority : String) : Bool :=
  c.authorities.contains authority

/-- The caller, authenticated. -/
def authenticate (c : Caller) : Caller :=
  { c with authenticated := true }

/-- Sets the state of a caller: what came of that, and the caller afterwards. An authenticated
caller stays so, and stays as it is. -/
def setAuthenticated (c : Caller) (value : Bool) : Except CallerProblem Unit × Caller :=
  if c.authenticated && !value then (.error .cannotUndoAuthentication, c)
  else (.ok (), { c with authenticated := value })

end Caller

/-! ### Calls -/

/-- What can be done with a caller. -/
inductive Call where
  | authenticate
  | setAuthenticated (value : Bool)
  | hasAuthority (authority : String)
  deriving DecidableEq

/-- What comes of a call. -/
inductive CallAnswer where
  | done
  | outcome (outcome : Except CallerProblem Unit)
  | holds (value : Bool)

namespace Caller

/-- The answer to a call, and the caller after it. -/
def call (c : Caller) : Call → CallAnswer × Caller
  | .authenticate => (.done, c.authenticate)
  | .setAuthenticated value =>
    let (outcome, c) := c.setAuthenticated value
    (.outcome outcome, c)
  | .hasAuthority authority => (.holds (c.hasAuthority authority), c)

/-- The answers to calls in a row, and the caller after all of them. -/
def calls (c : Caller) : List Call → List CallAnswer × Caller
  | [] => ([], c)
  | call :: rest =>
    let (answer, c) := c.call call
    let (answers, c) := c.calls rest
    (answer :: answers, c)

end Caller

end BearerGate
