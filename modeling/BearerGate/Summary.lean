import BearerGate.Service.Setup
import BearerGate.Text.Quoted

/-!
# Summaries

One-line descriptions of settings and of the parts of a service, for people who look for a fault.
They show no key and no name of a user: a private key is shown by whether there is one, a public
key not at all, and a user by a placeholder. How the library that checks tokens shows what it was
set up with is its own affair: that text is taken as given.
-/

namespace BearerGate.Summary

/-- A text between quotes. -/
def quoted (text : String) : String :=
  String.ofList (Text.quoted text.toList)

/-- A record: its name and its fields in braces; `partly` tells that some were left out. -/
def record (name : String) (fields : List (String × String)) (partly : Bool) : String :=
  let shown := fields.map fun (field, value) => field ++ ": " ++ value
  let all := if partly then shown ++ [".."] else shown
  name ++ " \x7b " ++ ", ".intercalate all ++ " \x7d"

/-- A list of descriptions in brackets. -/
def listed (items : List String) : String :=
  "[" ++ ", ".intercalate items ++ "]"

/-- A natural number. -/
def number (n : Nat) : String :=
  String.ofList (Text.writeNat n)

/-- A signed number. -/
def signed (n : Int64) : String :=
  String.ofList (Text.writeInt64 n)

/-- A truth value. -/
def flag (b : Bool) : String :=
  if b then "true" else "false"

/-- The summary of an identity, without the name of the user. -/
def identity (who : Identity) : String :=
  let grants := who.grants.toList.map fun name => "Grant(" ++ quoted name ++ ")"
  record "TokenData"
    [("id", signed who.id), ("username", quoted "[REDACTED]"),
      ("grants", "\x7b" ++ ", ".intercalate grants ++ "\x7d")]
    false

/-- The summary of an issuer, without its key. -/
def issuer (i : Issuer) : String :=
  record "TokenCodec"
    [("algorithm", i.algorithm.name), ("lifetime_seconds", number i.lifetime)] false

/-- The summary of a segment of a route pattern. -/
def segment : Segment → String
  | .literal text => "Literal(" ++ quoted text ++ ")"
  | .wildcard => "AnyOne"
  | .gap => "AnyMany"

/-- The summary of a route pattern. -/
def route (r : RoutePattern) : String :=
  record "RouteMatcher"
    [("method", r.method.elim "None" fun m => "Some(" ++ m ++ ")"),
      ("segments", listed (r.segments.map segment)), ("pattern", quoted r.path)]
    false

/-- The fields that a gate shares with the settings it was built from. -/
def gateFields (headerName scheme : String) (routes : List RoutePattern) :
    List (String × String) :=
  [("header_name", quoted headerName), ("scheme", quoted scheme),
    ("optional_routes", listed (routes.map route))]

/-- The summary of a gate. -/
def gate (g : Gate) : String :=
  record "AuthenticationGate" (gateFields g.headerName g.scheme g.optionalRoutes) false

/-- The summary of a screen; `validation` is how the library shows what it checks for an algorithm
and a leeway. -/
def screen (validation : Algorithm → Nat → String) (s : Screen) : String :=
  record "JwtTokenDataProvider"
    [("validator", record "TokenValidator"
        [("validation", validation s.verifier.algorithm s.verifier.leeway)] false),
      ("revocation", quoted s.source.name)]
    false

/-- The summary of the source of revocations that is wanted. -/
def revocation : RevocationSetting → String
  | .unset => "Unset"
  | .fixed ids => record "Static" [("revoked_ids", listed (ids.map signed))] false
  | .server url space =>
    record "Valkey" [("url", quoted url), ("key_prefix", quoted space)] false

/-- The summary of settings, without keys. -/
def settings (s : Settings) : String :=
  record "Config"
    [("addr", s.address),
      ("app_env", if s.production then "Production" else "Development"),
      ("auth", record "AuthConfig"
        ([("issuance_enabled", flag s.privateKey.isSome),
          ("algorithm", s.algorithm.name),
          ("token_lifetime_seconds", number s.lifetime),
          ("clock_leeway_seconds", number s.leeway)] ++
          gateFields s.headerName s.scheme s.optionalRoutes)
        true),
      ("revocation", revocation s.revocation)]
    false

end BearerGate.Summary
