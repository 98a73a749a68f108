import BearerGate.Text.Utf8

/-!
# DER Trees

Key files hold nested tag-length-value structures. `Node` is one of them, with the kinds that
keys are made of; `Der.parse?` reads a whole byte sequence as a row of nodes and refuses a length
that goes past the end, a boolean that is not one byte long, an empty bit string or object
identifier, and an object identifier whose last arc is not finished. Lengths need not be in their
shortest form.
-/

namespace BearerGate.Der

/-- A node of a DER tree. -/
inductive Node where
  | integer (content : Bytes)
  | bits (content : Bytes)
  | octets (content : Bytes)
  | identifier (arcs : List Nat)
  | sequence (items : List Node)
  | set (items : List Node)
  | other

/-- Reads a number in groups of seven bits, all but the last marked by the top bit. -/
def readBase128 (acc : Nat) : Bytes → Option (Nat × Bytes)
  | [] => none
  | b :: rest =>
    let acc := acc * 128 + b.toNat % 128
    if b.toNat < 128 then some (acc, rest) else readBase128 acc rest

/-- The number and the class bits of a tag, and what follows it. -/
def readTag : Bytes → Option (Nat × Nat × Bytes)
  | [] => none
  | b :: rest =>
    let group := b.toNat / 64
    if b.toNat % 32 = 31 then (readBase128 0 rest).map fun (n, rest) => (n, group, rest)
    else some (b.toNat % 32, group, rest)

/-- A length, and what follows it; a length takes at most eight bytes. -/
def readLength : Bytes → Option (Nat × Bytes)
  | [] => none
  | b :: rest =>
    let more := b.toNat - 128
    if b.toNat < 128 then some (b.toNat, rest)
    else if 8 < more || rest.length < more then none
    else some ((rest.take more).foldl (fun n b => 256 * n + b.toNat) 0, rest.drop more)

/-- The arcs of an object identifier after the first byte; `fuel` bounds their number. -/
def readArcs : Nat → Bytes → Option (List Nat)
  | _, [] => some []
  | 0, _ => none
  | fuel + 1, bytes =>
    match readBase128 0 bytes with
    | none => none
    | some (arc, rest) => (readArcs fuel rest).map (arc :: ·)

/-- The arcs of an object identifier; the first byte holds two of them. -/
def identifierOf? : Bytes → Option (List Nat)
  | [] => none
  | b :: rest =>
    let n := b.toNat
    let first := if n < 40 then 0 else if n < 80 then 1 else 2
    (readArcs rest.length rest).map fun arcs => first :: (n - 40 * first) :: arcs

mutual

/-- Reads a row of nodes; `fuel` bounds the steps. -/
def parseWithin : Nat → Bytes → Option (List Node)
  | _, [] => some []
  | 0, _ => none
  | fuel + 1, bytes => do
    let (tag, group, rest) ← readTag bytes
    let (length, rest) ← readLength rest
    if rest.length < length then none
    else
      let node ← nodeWithin fuel tag group (rest.take length)
      let more ← parseWithin fuel (rest.drop length)
      some (node :: more)

/-- The node with a tag and a content; `fuel` bounds the steps. -/
def nodeWithin : Nat → Nat → Nat → Bytes → Option Node
  | 0, _, _, _ => none
  | fuel + 1, tag, group, content =>
    if group ≠ 0 then some .other
    else match tag with
      | 0x01 => if content.length = 1 then some .other else none
      | 0x02 => some (.integer content)
      | 0x03 =>
        match content with
        | [] => none
        | unused :: bits => if 8 * bits.length < unused.toNat then none else some (.bits bits)
      | 0x04 => some (.octets content)
      | 0x06 => (identifierOf? content).map .identifier
      | 0x10 => (parseWithin fuel content).map .sequence
      | 0x11 => (parseWithin fuel content).map .set
      | _ => some .other

end

/-- Reads a whole byte sequence as a row of nodes. -/
def parse? (bytes : Bytes) : Option (List Node) :=
  parseWithin (2 * bytes.length + 1) bytes

/-- The value of a non-negative integer. -/
def natural? : Bytes → Option Nat
  | [] => none
  | b :: rest =>
    if b.toNat < 128 then some ((b :: rest).foldl (fun n b => 256 * n + b.toNat) 0) else none

mutual

/-- The first object identifier of a list that is reached through sequences only, depth first. -/
def Node.identifierAmong? (known : List (List Nat)) : Node → Option (List Nat)
  | .identifier arcs => if known.contains arcs then some arcs else none
  | .sequence items => identifierIn? known items
  | _ => none

/-- The first identifier of a list in a row of nodes. -/
def identifierIn? (known : List (List Nat)) : List Node → Option (List Nat)
  | [] => none
  | node :: rest => (node.identifierAmong? known).or (identifierIn? known rest)

end

mutual

/-- The first string of bits or octets that is reached through sequences only, depth first. -/
def Node.content? : Node → Option Bytes
  | .bits content => some content
  | .octets content => some content
  | .sequence items => contentIn? items
  | _ => none

/-- The first string of bits or octets in a row of nodes. -/
def contentIn? : List Node → Option Bytes
  | [] => none
  | node :: rest => node.content?.or (contentIn? rest)

end

end BearerGate.Der
