import BearerGate.Text.Decimal

/-!
# Revocation

Which tokens have been revoked, by their number. There are three sources of the answer.

* `failClosed` stands in where nothing was configured: every token counts as revoked.
* `fixed` is a list of numbers that never changes.
* `stored` asks a key-value store, which others write to, whether the key of a number exists.

A store that is down gives no answer; that is never taken for "not revoked". The store belongs to
the world and not to the source, so a lookup gets the store as it is at that moment.
-/

namespace BearerGate.Revocation

/-- How a store is down. -/
inductive Outage where
  | connection
  | command
  deriving DecidableEq

/-- A key-value store, as far as it can be seen from here. -/
structure Store where
  keys : List String
  outage : Option Outage
  deriving DecidableEq

namespace Store

/-- The store without keys. -/
def empty : Store := ⟨[], none⟩

/-- Whether a key exists. -/
def has (s : Store) (key : String) : Bool :=
  s.keys.contains key

/-- The store with a key more. -/
def add (s : Store) (key : String) : Store :=
  if s.has key then s else { s with keys := key :: s.keys }

/-- The store without a key. -/
def remove (s : Store) (key : String) : Store :=
  { s with keys := s.keys.filter (· ≠ key) }

theorem has_add (s : Store) (key other : String) :
    (s.add key).has other = (other == key || s.has other) := by
  unfold add
  split
  · next h =>
    by_cases heq : other = key
    · simp [heq, h]
    · simp [heq]
  · by_cases heq : other = key <;> simp [has, heq]

theorem has_remove (s : Store) (key other : String) :
    (s.remove key).has other = (other != key && s.has other) := by
  by_cases heq : other = key <;> simp [has, remove, heq]

theorem outage_add (s : Store) (key : String) : (s.add key).outage = s.outage := by
  unfold add
  split <;> rfl

end Store

/-- How a store is reached. -/
inductive Backend where
  | memory
  | server
  deriving DecidableEq

/-- The name of a backend. -/
def Backend.name : Backend → String
  | .memory => "memory"
  | .server => "valkey"

/-- Why a store gave no answer; what it said of the reason is kept where it is known. -/
inductive Fault where
  | connection (reason : Option String)
  | command (reason : Option String)
  deriving DecidableEq

/-- The text of a fault. -/
def Fault.message : Fault → String
  | .connection reason => "cache connection error" ++ (reason.elim "" (": " ++ ·))
  | .command reason => "cache command error" ++ (reason.elim "" (": " ++ ·))

/-- The fault that a backend reports when its store is down. A server that is lost after the
connection was made fails command by command. -/
def Backend.fault : Backend → Outage → Fault
  | .memory, .connection => .connection (some "refused")
  | .memory, .command => .command (some "timeout")
  | .server, _ => .command none

/-- Where it is known which tokens have been revoked. -/
inductive Source where
  | failClosed
  | fixed (ids : List Int64)
  | stored (backend : Backend) (space : String)
  deriving DecidableEq

namespace Source

/-- The name of a source. -/
def name : Source → String
  | failClosed => "fail-closed"
  | fixed _ => "static"
  | stored backend _ => backend.name

/-- Whether a source only stands in for one that is missing. -/
def isPlaceholder : Source → Bool
  | failClosed => true
  | _ => false

/-- The key under which a number is looked up. -/
def key (space : String) (id : Int64) : String :=
  space ++ ":" ++ String.ofList (Text.writeInt64 id)

/-- Whether the token with a number has been revoked. -/
def isRevoked (source : Source) (store : Store) (id : Int64) : Except Fault Bool :=
  match source with
  | failClosed => .ok true
  | fixed ids => .ok (ids.contains id)
  | stored backend space =>
    match store.outage with
    | some outage => .error (backend.fault outage)
    | none => .ok (store.has (key space id))

/-- The keys that are asked for when a number is looked up. -/
def lookups (source : Source) (id : Int64) : List String :=
  match source with
  | stored _ space => [key space id]
  | _ => []

end Source

end BearerGate.Revocation
