import BearerGate.NameSet

/-!
# Identities

What a token says about its holder: the number by which the token can be revoked, the name of the
user, and the set of names that were granted.
-/

namespace BearerGate

/-- What a token says about its holder. -/
structure Identity where
  id : Int64
  username : String
  grants : NameSet
  deriving DecidableEq

end BearerGate
