import BearerGate.Http.Message

/-!
# Request Targets

The target of a request as it is written in the request line, and the path in it. A target is

* a path that starts with a slash, with an optional query,
* `*`, or
* an authority, alone or after a scheme and `://` and before a path; alone it has no path, and
  after a scheme an absent path is `/`.

A fragment ends the target and is dropped. Percent signs are not decoded.
-/

namespace BearerGate.Http.Target

/-- The longest target, in bytes. -/
def maxLength : Nat := 65534

/-- The longest scheme. -/
def maxSchemeLength : Nat := 64

/-- Whether a path may hold a character. -/
def isPathChar (c : Char) : Bool :=
  let n := c.toNat
  n = 0x21 || n = 0x22 || (0x24 ≤ n && n ≤ 0x3B) || n = 0x3D || (0x40 ≤ n && n ≤ 0x5F) ||
    (0x61 ≤ n && n ≤ 0x7E) || 0x7F ≤ n

/-- Whether a query may hold a character. -/
def isQueryChar (c : Char) : Bool :=
  let n := c.toNat
  n = 0x21 || (0x24 ≤ n && n ≤ 0x3B) || n = 0x3D || 0x3F ≤ n

/-- The path at the front of a path with an optional query and fragment. -/
def pathOf? (cs : List Char) : Option (List Char) :=
  let path := cs.takeWhile fun c => c ≠ '?' && c ≠ '#'
  let rest := cs.dropWhile fun c => c ≠ '?' && c ≠ '#'
  let query := match rest with
    | '?' :: more => more.takeWhile (· ≠ '#')
    | _ => []
  if path.all isPathChar && query.all isQueryChar then some path else none

/-- Whether an authority may hold a character; the percent sign has rules of its own. -/
def isAuthorityChar (c : Char) : Bool :=
  isAlphanumeric c || ("!#$&'()*+,-.;=_~:@[]".toList).contains c

/-- What has been seen of an authority: colons and percent signs since the last `@` or bracket,
brackets, and whether an `@` came last. -/
structure Authority where
  colons : Nat
  opened : Bool
  closed : Bool
  percent : Bool
  atLast : Bool

/-- One character of an authority; `none` if it may not stand there. -/
def Authority.step (a : Authority) (c : Char) : Option Authority :=
  let a := { a with atLast := c = '@' }
  if c = ':' then (if 8 ≤ a.colons then none else some { a with colons := a.colons + 1 })
  else if c = '[' then (if a.percent || a.opened then none else some { a with opened := true })
  else if c = ']' then
    (if !a.opened || a.closed then none
      else some { a with closed := true, colons := 0, percent := false })
  else if c = '@' then some { a with colons := 0, percent := false }
  else if c = '%' then some { a with percent := true }
  else if isAuthorityChar c then some a
  else none

/-- Whether a text is an authority. -/
def isAuthority (cs : List Char) : Bool :=
  match cs.foldlM Authority.step ⟨0, false, false, false, false⟩ with
  | none => false
  | some a => a.opened == a.closed && a.colons ≤ 1 && !a.atLast && !a.percent

/-- Whether a scheme may hold a character. -/
def isSchemeChar (c : Char) : Bool :=
  isAlphanumeric c || c = '+' || c = '-' || c = '.'

/-- The scheme of a text and what follows it; a text without one is all rest. -/
def cutScheme (cs : List Char) : Option (List Char) × List Char :=
  let scheme := cs.takeWhile isSchemeChar
  match cs.dropWhile isSchemeChar with
  | ':' :: '/' :: '/' :: rest => (some scheme, rest)
  | _ => (none, cs)

/-- The path of a target that does not start with a slash. -/
def pathAfterAuthority? (cs : List Char) : Option (List Char) :=
  let (scheme, rest) := cutScheme cs
  let isEnd (c : Char) : Bool := c = '/' || c = '?' || c = '#'
  let authority := rest.takeWhile fun c => !isEnd c
  let after := rest.dropWhile fun c => !isEnd c
  if !isAuthority authority then none
  else match scheme with
    | none => if after.isEmpty then some [] else none
    | some scheme =>
      if maxSchemeLength < scheme.length || authority.isEmpty then none
      else (pathOf? after).map fun path => if path.isEmpty then ['/'] else path

/-- The path of a target, if it is one. -/
def path? (bytes : Bytes) : Option String :=
  if maxLength < bytes.length then none
  else
    (Utf8.decode? bytes).bind fun cs =>
      match cs with
      | [] => none
      | ['*'] => some "*"
      | '/' :: _ => (pathOf? cs).map String.ofList
      | _ => (pathAfterAuthority? cs).map String.ofList

end BearerGate.Http.Target
