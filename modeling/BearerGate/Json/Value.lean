import BearerGate.Json.Token

/-!
# JSON Values

Values as trees, and their written form: no blanks, the members of an object in the order in
which they are given.
-/

namespace BearerGate.Json

/-- A JSON value. -/
inductive Value where
  | null
  | bool (value : Bool)
  | number (value : Number)
  | text (value : String)
  | list (items : List Value)
  | object (members : List (String × Value))

/-- An integer as a value. -/
def Value.int (n : Int) : Value :=
  .number (.ofInt n)

mutual

/-- The written form of a value. -/
def Value.render : Value → List Char
  | .null => ['n', 'u', 'l', 'l']
  | .bool true => ['t', 'r', 'u', 'e']
  | .bool false => ['f', 'a', 'l', 's', 'e']
  | .number n => n.text
  | .text s => quote s.toList
  | .list items => '[' :: Value.renderItems items ++ [']']
  | .object members => '\x7b' :: Value.renderMembers members ++ ['\x7d']

/-- The written form of the items of a list, separated by commas. -/
def Value.renderItems : List Value → List Char
  | [] => []
  | [v] => v.render
  | v :: rest => v.render ++ ',' :: Value.renderItems rest

/-- The written form of the members of an object, separated by commas. -/
def Value.renderMembers : List (String × Value) → List Char
  | [] => []
  | [(k, v)] => quote k.toList ++ ':' :: v.render
  | (k, v) :: rest => quote k.toList ++ ':' :: (v.render ++ ',' :: Value.renderMembers rest)

end

end BearerGate.Json
