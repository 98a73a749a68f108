import BearerGate.Digest.Sha2
import BearerGate.Number.Modular

/-!
# Ed25519 Signatures

The signature scheme of RFC 8032 over the twisted Edwards curve `-x² + y² = 1 + d x² y²`. Points
are kept in extended coordinates, where one formula adds any two of them. A signature is the
encoding of a point and a scalar below the group order; it is valid if the equation holds for
the encodings, and there is one for each message and key.
-/

namespace BearerGate.Ed25519

/-- The prime of the field. -/
def p : Nat := Nat.pow 2 255 - 19

/-- The order of the base point. -/
def order : Nat := Nat.pow 2 252 + 27742317777372353535851937790883648493

/-- The constant of the curve. -/
def d : Nat := 0x52036cee2b6ffe738cc740797779e89800700a4d4141d8ab75eb4dca135978a3

/-- A square root of minus one. -/
def rootOfMinusOne : Nat := 0x2b8324804fc1df0b2b4d00993dfbd7a72f431806ad2fe478c4ee1b274a0ea0b0

/-- A point `(x / z, y / z)` with `t = x y / z`. -/
structure Point where
  x : Nat
  y : Nat
  z : Nat
  t : Nat

/-- The neutral point. -/
def neutral : Point := ⟨0, 1, 1, 0⟩

/-- The point with the given coordinates on the plane. -/
def Point.ofPlane (x y : Nat) : Point := ⟨x, y, 1, x * y % p⟩

/-- The base point. -/
def base : Point :=
  Point.ofPlane 0x216936d3cd6e53fec0a4e231fdd6dc5c692cc7609525a7b2c9562d608f25d51a
    0x6666666666666666666666666666666666666666666666666666666666666658

/-- The sum of two points. -/
def Point.add (a b : Point) : Point :=
  let m := Modular.sub p a.y a.x * Modular.sub p b.y b.x % p
  let n := (a.y + a.x) * (b.y + b.x) % p
  let c := 2 * (a.t * b.t % p) * d % p
  let w := 2 * (a.z * b.z) % p
  let e := Modular.sub p n m
  let f := Modular.sub p w c
  let g := w + c
  let h := n + m
  ⟨e * f % p, g * h % p, f * g % p, e * h % p⟩

/-- The negative of a point. -/
def Point.neg (a : Point) : Point :=
  ⟨Modular.sub p 0 a.x, a.y, a.z, Modular.sub p 0 a.t⟩

/-- `acc + k * a`, for a factor of at most as many bits as the first argument says. -/
def mulStep : Nat → Nat → Point → Point → Point
  | 0, _, _, acc => acc
  | bits + 1, k, a, acc => mulStep bits (k / 2) (a.add a) (if k % 2 = 1 then acc.add a else acc)

/-- A multiple of a point. -/
def Point.mul (k : Nat) (a : Point) : Point :=
  mulStep (k.log2 + 1) k a neutral

/-- A little-endian byte sequence as a number. -/
def ofLittleEndian (bytes : Bytes) : Nat :=
  Bytes.toNat bytes.reverse

/-- A number as 32 bytes, least significant byte first. -/
def toLittleEndian (n : Nat) : Bytes :=
  (Bytes.ofNat 32 n).reverse

/-- The encoding of a point: the second coordinate, with the parity of the first on top. -/
def Point.encode (a : Point) : Bytes :=
  let inv := Modular.inverse p a.z
  let x := a.x * inv % p
  let y := a.y * inv % p
  toLittleEndian (y + (x % 2) * Nat.pow 2 255)

/-- The point that 32 bytes encode, if they encode one. -/
def Point.decode? (bytes : Bytes) : Option Point :=
  let n := ofLittleEndian bytes
  let y := n % Nat.pow 2 255
  let parity := n / Nat.pow 2 255
  let u := Modular.sub p (y * y) 1
  let v := (d * (y * y % p) + 1) % p
  let v3 := v * v % p * v % p
  let candidate := u * v3 % p * Modular.pow p (u * (v3 * v3 % p * v % p)) ((p - 5) / 8) % p
  let square := v * (candidate * candidate % p) % p
  let root :=
    if square = u then some candidate
    else if square = Modular.sub p 0 u then some (candidate * rootOfMinusOne % p)
    else none
  if bytes.length ≠ 32 || p ≤ y then none
  else match root with
    | none => none
    | some x =>
      if x = 0 && parity = 1 then none
      else some (Point.ofPlane (if x % 2 = parity then x else p - x) y)

/-- The scalar that a seed is expanded to. -/
def scalarOf (expanded : Bytes) : Nat :=
  let n := ofLittleEndian (expanded.take 32)
  n % Nat.pow 2 254 / 8 * 8 + Nat.pow 2 254

/-- The digest of several parts put together, as a scalar. -/
def challenge (parts : List Bytes) : Nat :=
  ofLittleEndian (Digest.sha512.hash parts.flatten) % order

/-- The public key of a seed. -/
def publicKey (seed : Bytes) : Bytes :=
  (Point.mul (scalarOf (Digest.sha512.hash seed)) base).encode

/-- The signature of a message under a seed. -/
def sign (seed message : Bytes) : Bytes :=
  let expanded := Digest.sha512.hash seed
  let a := scalarOf expanded
  let publicBytes := (Point.mul a base).encode
  let r := challenge [expanded.drop 32, message]
  let commitment := (Point.mul r base).encode
  let k := challenge [commitment, publicBytes, message]
  commitment ++ toLittleEndian ((r + k * a) % order)

/-- Whether a signature of a message is valid under a public key. -/
def verify (publicBytes message signature : Bytes) : Bool :=
  let commitment := signature.take 32
  let s := ofLittleEndian (signature.drop 32)
  signature.length == 64 && s < order &&
    match Point.decode? publicBytes with
    | none => false
    | some a =>
      let k := challenge [commitment, publicBytes, message]
      ((Point.mul s base).add (Point.mul k a.neg)).encode == commitment

end BearerGate.Ed25519
