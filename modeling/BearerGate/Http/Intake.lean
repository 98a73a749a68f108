import BearerGate.Http.Target

/-!
# Taking In Requests

A request from the parts that came over the wire. The headers are looked at first, in order, each
name before its value; then the method; then the target. The first part that may not stand in a
request decides.
-/

namespace BearerGate.Http

/-- Why some parts make no request. -/
inductive IntakeProblem where
  | headerName
  | headerValue
  | method
  | target
  deriving DecidableEq

/-- The characters of a byte sequence, one for each byte. -/
def charsOf (bytes : Bytes) : List Char :=
  bytes.map fun b => Char.ofNat b.toNat

/-- The headers that some fields make. -/
def headersOf : List (Bytes × Bytes) → Except IntakeProblem Headers
  | [] => .ok []
  | (name, value) :: rest =>
    match headerName? (charsOf name) with
    | none => .error .headerName
    | some name =>
      if !isValue value then .error .headerValue
      else (headersOf rest).map ((name, value) :: ·)

/-- The method that some bytes spell. -/
def methodOf (bytes : Bytes) : Except IntakeProblem String :=
  match method? (charsOf bytes) with
  | some method => .ok method
  | none => .error .method

/-- The request that some parts make. -/
def Request.ofParts (fields : List (Bytes × Bytes)) (method target body : Bytes) :
    Except IntakeProblem Request := do
  let headers ← headersOf fields
  let method ← methodOf method
  match Target.path? target with
  | none => .error .target
  | some path => .ok ⟨method, path, headers, body⟩

end BearerGate.Http
