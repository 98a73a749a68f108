import BearerGate.Key.Algorithm
import BearerGate.RoutePattern
import BearerGate.Revocation

/-!
# Settings

The settings of the service, read from named variables. A variable that holds blanks only counts
as absent; the list of optional routes is the exception, where a blank value means an empty list.
Reading stops at the first variable, in a fixed order, that is missing or invalid.
-/

namespace BearerGate

/-- The variables that settings are read from. -/
inductive Variable where
  | port
  | mode
  | publicKey
  | privateKey
  | algorithm
  | lifetime
  | leeway
  | headerName
  | scheme
  | optionalRoutes
  | backend
  | staticIds
  | serverUrl
  | keySpace
  deriving DecidableEq

/-- The name of a variable. -/
def Variable.name : Variable → String
  | .port => "PORT"
  | .mode => "APP_ENV"
  | .publicKey => "AUTH_PUBLIC_KEY"
  | .privateKey => "AUTH_PRIVATE_KEY"
  | .algorithm => "AUTH_TOKEN_ALGORITHM"
  | .lifetime => "AUTH_TOKEN_LIFETIME_SECONDS"
  | .leeway => "AUTH_CLOCK_LEEWAY_SECONDS"
  | .headerName => "AUTH_HEADER_NAME"
  | .scheme => "AUTH_SCHEME"
  | .optionalRoutes => "AUTH_OPTIONAL_ROUTES"
  | .backend => "REVOCATION_BACKEND"
  | .staticIds => "REVOCATION_STATIC_IDS"
  | .serverUrl => "REVOCATION_VALKEY_URL"
  | .keySpace => "REVOCATION_KEY_PREFIX"

/-- Which source of revocations is wanted. -/
inductive RevocationSetting where
  | unset
  | fixed (ids : List Int64)
  | server (url space : String)
  deriving DecidableEq

/-- The settings of the service. -/
structure Settings where
  port : Nat
  production : Bool
  publicKey : String
  privateKey : Option String
  algorithm : Algorithm
  lifetime : Nat
  leeway : Nat
  headerName : String
  scheme : String
  optionalRoutes : List RoutePattern
  revocation : RevocationSetting
  deriving DecidableEq

namespace Settings

/-- What is wrong with the variables. -/
inductive Problem where
  | missing (which : Variable)
  | invalid (which : Variable)
  deriving DecidableEq

/-- The text of a problem. -/
def Problem.message : Problem → String
  | .missing v => "missing configuration: " ++ v.name
  | .invalid v => "invalid configuration: " ++ v.name

/-- Where variables are looked up. -/
abbrev Environment := String → Option String

/-- The value of a variable, unless it is blank. -/
def value? (env : Environment) (v : Variable) : Option String :=
  (env v.name).filter fun text => !Text.isBlankText text.toList

/-- The value of a variable as a reader makes it of the trimmed text, or a default. -/
def readOr {α : Type} (env : Environment) (v : Variable) (default : α)
    (read : List Char → Option α) : Except Problem α :=
  match value? env v with
  | none => .ok default
  | some text =>
    match read (Text.trim text.toList) with
    | some a => .ok a
    | none => .error (.invalid v)

/-- The value of a variable that has to be there. -/
def need (env : Environment) (v : Variable) : Except Problem String :=
  match value? env v with
  | some text => .ok text
  | none => .error (.missing v)

/-- Whether a mode is that of production; letter case does not matter. -/
def isProduction (mode : Option String) : Bool :=
  match mode with
  | none => false
  | some text =>
    let lower := String.ofList (text.toList.map Http.lowerChar)
    lower = "production" || lower = "prod"

/-- The algorithm that a text names, if it signs with one key and verifies with another. -/
def algorithm? (cs : List Char) : Option Algorithm :=
  (Algorithm.ofName? (String.ofList cs)).filter Algorithm.isAsymmetric

/-- A text that is one word. -/
def word? (cs : List Char) : Option String :=
  if (Text.words cs).length = 1 then some (String.ofList cs) else none

/-- Numbers of tokens, all of 64 bits with sign. -/
def ids? : List (List Char) → Option (List Int64)
  | [] => some []
  | entry :: rest => do
    let id ← Text.readInt64 entry
    let more ← ids? rest
    some (id :: more)

/-- The port if none is set. -/
def defaultPort : Nat := 3000

/-- The algorithm if none is set. -/
def defaultAlgorithm : Algorithm := .rs512

/-- The lifetime of tokens if none is set, in seconds. -/
def defaultLifetime : Nat := 3600

/-- The credential header if none is set. -/
def defaultHeaderName : String := "authorization"

/-- The credential scheme if none is set. -/
def defaultScheme : String := "Bearer"

/-- The optional routes if no list is set. -/
def defaultOptionalRoutes : String := "GET /health"

/-- What stands before the colon of revocation keys if nothing is set. -/
def defaultKeySpace : String := "auth:revoked"

/-- The routes that need no credentials. -/
def readOptionalRoutes (env : Environment) : Except Problem (List RoutePattern) :=
  match RoutePattern.parseList ((env Variable.optionalRoutes.name).getD defaultOptionalRoutes) with
  | .ok routes => .ok routes
  | .error _ => .error (.invalid .optionalRoutes)

/-- The source of revocations that is wanted. -/
def readRevocation (env : Environment) : Except Problem RevocationSetting :=
  match value? env .backend with
  | none => .ok .unset
  | some text =>
    let name := String.ofList ((Text.trim text.toList).map Http.lowerChar)
    if name = "static" then
      match ids? (Text.entries ((value? env .staticIds).getD "").toList) with
      | some ids => .ok (.fixed ids)
      | none => .error (.invalid .staticIds)
    else if name = "valkey" then do
      let url ← need env .serverUrl
      .ok (.server url ((value? env .keySpace).getD defaultKeySpace))
    else .error (.invalid .backend)

/-- The settings that variables describe. -/
def read (env : Environment) : Except Problem Settings := do
  let port ← readOr env .port defaultPort (Text.readUnsigned 16)
  let publicKey ← need env .publicKey
  let algorithm ← readOr env .algorithm defaultAlgorithm algorithm?
  let lifetime ← readOr env .lifetime defaultLifetime fun cs =>
    (Text.readUnsigned 64 cs).filter (0 < ·)
  let leeway ← readOr env .leeway 0 (Text.readUnsigned 64)
  let headerName ← readOr env .headerName defaultHeaderName Http.headerName?
  let scheme ← readOr env .scheme defaultScheme word?
  let optionalRoutes ← readOptionalRoutes env
  let revocation ← readRevocation env
  .ok
    { port
      production := isProduction (value? env .mode)
      publicKey
      privateKey := value? env .privateKey
      algorithm
      lifetime
      leeway
      headerName
      scheme
      optionalRoutes
      revocation }

/-- The address that the service listens on. -/
def address (s : Settings) : String :=
  "0.0.0.0:" ++ String.ofList (Text.writeNat s.port)

end Settings

end BearerGate
