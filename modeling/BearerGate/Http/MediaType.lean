import BearerGate.Http.Message

/-!
# Media Types

Whether a `content-type` value says that a body is JSON: its type is `application`, and its subtype
is `json` or ends in `+json`, in any letter case. Parameters may follow; they do not matter, but
they have to be well formed.
-/

namespace BearerGate.Http.MediaType

/-- Whether a name inside a media type may hold a character. -/
def isNameChar (c : Char) : Bool :=
  isTokenChar c && c ≠ '*'

/-- How far the parameters of a media type have been read. -/
inductive Parameters where
  | before
  | name
  | equals
  | value
  | opening
  | quoted
  | closed

/-- One character of the parameters; `none` if it may not stand there. A blank may stand before
a name and after a closing quote; the first character inside quotes is taken as it is. -/
def Parameters.step (p : Parameters) (c : Char) : Option Parameters :=
  let inside := 31 < c.toNat && c.toNat ≠ 127
  match p with
  | .before => if c = ' ' then some .before else if isNameChar c then some .name else none
  | .name => if c = '=' then some .equals else if isNameChar c then some .name else none
  | .equals => if c = '"' then some .opening else if isNameChar c then some .value else none
  | .value => if c = ';' then some .before else if isNameChar c then some .value else none
  | .opening => if inside then some .quoted else none
  | .quoted => if c = '"' then some .closed else if inside then some .quoted else none
  | .closed => if c = ';' then some .before else if c = ' ' then some .closed else none

/-- Whether the parameters may end here. -/
def Parameters.mayEnd : Parameters → Bool
  | .before | .equals | .value | .closed => true
  | _ => false

/-- Whether a text is a row of parameters. -/
def areParameters (cs : List Char) : Bool :=
  (cs.foldlM Parameters.step Parameters.before).any Parameters.mayEnd

/-- Whether a subtype is that of JSON. -/
def isJsonSubtype (subtype : List Char) : Bool :=
  match Text.cutLast '+' subtype with
  | some (_ :: _, suffix) =>
    suffix = "json".toList || (Text.cutLast '+' subtype).any fun (front, _) => front = "json".toList
  | _ => subtype = "json".toList

/-- Whether a media type is that of JSON. -/
def isJson (cs : List Char) : Bool :=
  let mainType := cs.takeWhile isNameChar
  match cs.dropWhile isNameChar with
  | '/' :: rest =>
    let subtype := rest.takeWhile isNameChar
    let wellFormed := match rest.dropWhile isNameChar with
      | [] => true
      | ';' :: parameters => areParameters parameters
      | _ => false
    mainType.map lowerChar = "application".toList && isJsonSubtype (subtype.map lowerChar) &&
      wellFormed
  | _ => false

end BearerGate.Http.MediaType
