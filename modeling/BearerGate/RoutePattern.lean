import BearerGate.Glob
import BearerGate.Http.Token

/-!
# Route Patterns

A route pattern says which requests belong to a route: an optional method and a path. In the path
`*` and any segment in braces stand for one segment, and `**` for any number of them. Patterns
are written in words, so blanks around and between them do not count and further words are
ignored; a list of patterns is separated by commas, and blank entries are left out.
-/

namespace BearerGate

/-- A route pattern; `path` is the written path that `segments` come from. -/
structure RoutePattern where
  method : Option String
  segments : List Segment
  path : String
  deriving DecidableEq

/-- Why a text is no route pattern. -/
inductive RouteProblem where
  | empty
  | invalidMethod (method : String)
  | notAbsolute (path : String)
  deriving DecidableEq

/-- The text of a problem. -/
def RouteProblem.message : RouteProblem → String
  | .empty => "empty route pattern"
  | .invalidMethod method => "invalid HTTP method in route pattern: " ++ method
  | .notAbsolute path => "route pattern must start with '/': " ++ path

namespace RoutePattern

/-- The segment that a written segment stands for. -/
def segmentOf (text : String) : Segment :=
  if text = "**" then .gap
  else if text = "*" then .wildcard
  else if text.toList.head? == some '\x7b' && text.toList.getLast? == some '\x7d' then .wildcard
  else .literal text

/-- The pattern with a method and a written path. -/
def build (method : Option String) (path : List Char) : Except RouteProblem RoutePattern :=
  if path.head? == some '/' then
    .ok ⟨method, (Glob.segmentsOf path).map segmentOf, String.ofList path⟩
  else .error (.notAbsolute (String.ofList path))

/-- The pattern that a text describes. -/
def parse (cs : List Char) : Except RouteProblem RoutePattern :=
  match Text.words cs with
  | [] => .error .empty
  | [path] => build none path
  | method :: path :: _ =>
    match Http.method? (method.map Http.upperChar) with
    | none => .error (.invalidMethod (String.ofList method))
    | some m => build (some m) path

/-- The patterns of a list of entries; the first entry that is no pattern decides. -/
def parseAll : List (List Char) → Except RouteProblem (List RoutePattern)
  | [] => .ok []
  | entry :: rest => do
    let pattern ← parse entry
    let more ← parseAll rest
    .ok (pattern :: more)

/-- The patterns of a comma-separated list. -/
def parseList (text : String) : Except RouteProblem (List RoutePattern) :=
  parseAll (Text.entries text.toList)

/-- The text of a pattern. -/
def render (pattern : RoutePattern) : String :=
  match pattern.method with
  | some method => method ++ " " ++ pattern.path
  | none => pattern.path

/-- Whether a request with a method and a path belongs to a route. -/
def covers (pattern : RoutePattern) (method path : String) : Bool :=
  pattern.method.all (· = method) && Glob.covers pattern.segments (Glob.segmentsOf path.toList)

end RoutePattern

end BearerGate
