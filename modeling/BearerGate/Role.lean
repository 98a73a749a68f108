import BearerGate.Text.Blank

/-!
# Roles

The roles that a caller can hold. A role is written in many ways (`role-user`, `ROLE_USER`,
` Role-User `): surrounding blanks do not count, an underscore stands for a hyphen, and letter
case of ASCII letters does not matter. Each role has one canonical name.
-/

namespace BearerGate

/-- A role. -/
inductive Role where
  | user
  | admin
  deriving DecidableEq

namespace Role

/-- The canonical name of a role. -/
def name : Role → String
  | user => "role-user"
  | admin => "role-admin"

/-- All roles. -/
def all : List Role := [user, admin]

/-- The lower-case form of an ASCII letter; other characters stay as they are. -/
def lower (c : Char) : Char :=
  if 'A' ≤ c ∧ c ≤ 'Z' then Char.ofNat (c.toNat + 32) else c

/-- One character of a role name, as it counts. -/
def foldChar (c : Char) : Char :=
  if c = '_' then '-' else lower c

/-- A written role, as it counts. -/
def normalize (text : String) : String :=
  String.ofList ((Text.trim text.toList).map foldChar)

/-- The role that a text names. -/
def ofName? (text : String) : Option Role :=
  let normal := normalize text
  all.find? fun role => role.name = normal

/-- The canonical name of the role that a text names. -/
def resolve (text : String) : Option String :=
  (ofName? text).map name

/-- What is said of a text that names no role. -/
def unknownMessage : String := "unknown role grant"

/-- The canonical names of a list of written roles; where some name no role, the first of these. -/
def resolveAll : List String → Except String (List String)
  | [] => .ok []
  | text :: rest =>
    match resolve text with
    | none => .error text
    | some name => (resolveAll rest).map (name :: ·)

end Role

end BearerGate
