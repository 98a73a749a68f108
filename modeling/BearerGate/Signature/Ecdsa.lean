import BearerGate.Digest.Sha2
import BearerGate.Number.Modular

/-!
# ECDSA Signatures

Signatures over the two curves that tokens use, P-256 with SHA-256 and P-384 with SHA-384. Both
are curves `y² = x³ - 3x + b` over a prime field with a prime group order. Points are kept in
Jacobian coordinates `(x / z², y / z³)`, so that a multiplication takes one inversion only;
`z = 0` is the point at infinity.

A signature is `r` and `s` side by side, each as long as the field; both have to lie between one
and the group order. Either of `s` and its negative is accepted. The nonce of a signature is drawn
at random, which is to say that it comes from outside; any nonce may be drawn.
-/

namespace BearerGate.Ecdsa

/-- A curve with its base point and its digest; `size` is the length of a coordinate. -/
structure Curve where
  size : Nat
  p : Nat
  b : Nat
  order : Nat
  baseX : Nat
  baseY : Nat
  digest : Digest

/-- The curves that tokens use. -/
inductive CurveName where
  | p256
  | p384
  deriving DecidableEq

/-- The curve P-256. -/
def p256 : Curve where
  size := 32
  p := 0xffffffff00000001000000000000000000000000ffffffffffffffffffffffff
  b := 0x5ac635d8aa3a93e7b3ebbd55769886bc651d06b0cc53b0f63bce3c3e27d2604b
  order := 0xffffffff00000000ffffffffffffffffbce6faada7179e84f3b9cac2fc632551
  baseX := 0x6b17d1f2e12c4247f8bce6e563a440f277037d812deb33a0f4a13945d898c296
  baseY := 0x4fe342e2fe1a7f9b8ee7eb4a7c0f9e162bce33576b315ececbb6406837bf51f5
  digest := .sha256

/-- The curve P-384. -/
def p384 : Curve where
  size := 48
  p := 0xfffffffffffffffffffffffffffffffffffffffffffffffffffffffffffffffeffffffff0000000000000000ffffffff
  b := 0xb3312fa7e23ee7e4988e056be3f82d19181d9c6efe8141120314088f5013875ac656398d8a2ed19d2a85c8edd3ec2aef
  order := 0xffffffffffffffffffffffffffffffffffffffffffffffffc7634d81f4372ddf581a0db248b0a77aecec196accc52973
  baseX := 0xaa87ca22be8b05378eb1c71ef320ad746e1d3b628ba79b9859f741e082542a385502f25dbf55296c3a545e3872760ab7
  baseY := 0x3617de4a96262c6f5d9e98bf9292dc29f8f41dbd289a147ce9da3113b5f0b8c00a60b1ce1d7e819d7a431d7c90ea0e5f
  digest := .sha384

/-- The curve of a name. -/
def CurveName.curve : CurveName → Curve
  | .p256 => Ecdsa.p256
  | .p384 => Ecdsa.p384

/-- A point in Jacobian coordinates. -/
structure Point where
  x : Nat
  y : Nat
  z : Nat

/-- The point at infinity. -/
def infinity : Point := ⟨1, 1, 0⟩

/-- The base point of a curve. -/
def Curve.base (c : Curve) : Point := ⟨c.baseX, c.baseY, 1⟩

/-- Twice a point. -/
def Curve.double (c : Curve) (a : Point) : Point :=
  if a.z = 0 || a.y = 0 then infinity
  else
    let zz := a.z * a.z % c.p
    let yy := a.y * a.y % c.p
    let xyy := a.x * yy % c.p
    let slope := 3 * (Modular.sub c.p a.x zz * (a.x + zz) % c.p)
    let x := Modular.sub c.p (slope * slope) (8 * xyy)
    let y := Modular.sub c.p (slope * Modular.sub c.p (4 * xyy) x) (8 * (yy * yy))
    ⟨x, y, 2 * a.y * a.z % c.p⟩

/-- The sum of two points. -/
def Curve.add (c : Curve) (a b : Point) : Point :=
  if a.z = 0 then b
  else if b.z = 0 then a
  else
    let zza := a.z * a.z % c.p
    let zzb := b.z * b.z % c.p
    let xa := a.x * zzb % c.p
    let ya := a.y * (zzb * b.z % c.p) % c.p
    let h := Modular.sub c.p (b.x * zza) xa
    let r := Modular.sub c.p (b.y * (zza * a.z % c.p)) ya
    if h = 0 then (if r = 0 then c.double a else infinity)
    else
      let hh := h * h % c.p
      let hhh := h * hh % c.p
      let v := xa * hh % c.p
      let x := Modular.sub c.p (r * r) (hhh + 2 * v)
      ⟨x, Modular.sub c.p (r * Modular.sub c.p v x) (ya * hhh), a.z * b.z % c.p * h % c.p⟩

/-- `acc + k * a`, for a factor of at most as many bits as the first argument says. -/
def Curve.mulStep (c : Curve) : Nat → Nat → Point → Point → Point
  | 0, _, _, acc => acc
  | bits + 1, k, a, acc =>
    c.mulStep bits (k / 2) (c.double a) (if k % 2 = 1 then c.add acc a else acc)

/-- A multiple of a point. -/
def Curve.mul (c : Curve) (k : Nat) (a : Point) : Point :=
  c.mulStep (k.log2 + 1) k a infinity

/-- The first coordinate of a point on the plane; `none` at infinity. -/
def Curve.affineX? (c : Curve) (a : Point) : Option Nat :=
  if a.z = 0 then none
  else
    let inv := Modular.inverse c.p a.z
    some (a.x * (inv * inv % c.p) % c.p)

/-- The right-hand side of the equation of a curve. -/
def Curve.rhs (c : Curve) (x : Nat) : Nat :=
  Modular.sub c.p (x * x % c.p * x + c.b) (3 * x)

/-- The point that a byte sequence stands for: both coordinates after `04`, or the first one
after a byte that tells the parity of the second. -/
def Curve.point? (c : Curve) (bytes : Bytes) : Option Point :=
  match bytes with
  | 0x04 :: rest =>
    let x := Bytes.toNat (rest.take c.size)
    let y := Bytes.toNat (rest.drop c.size)
    if rest.length = 2 * c.size && x < c.p && y < c.p && y * y % c.p = c.rhs x then
      some ⟨x, y, 1⟩
    else none
  | tag :: rest =>
    let x := Bytes.toNat rest
    let root := Modular.pow c.p (c.rhs x) ((c.p + 1) / 4)
    if (tag = 0x02 || tag = 0x03) && rest.length = c.size && x < c.p &&
        root * root % c.p = c.rhs x then
      some ⟨x, if root % 2 = tag.toNat % 2 then root else c.p - root, 1⟩
    else none
  | [] => none

/-- The number that a signature is made over. -/
def Curve.digestOf (c : Curve) (message : Bytes) : Nat :=
  Bytes.toNat (c.digest.hash message)

/-- The nonce of a number: those from one up to the group order, over and over. -/
def Curve.nonce (c : Curve) (n : Nat) : Nat :=
  1 + n % (c.order - 1)

/-- The signature of a message with a nonce; `none` where one of its numbers would be zero. -/
def signWith (c : Curve) (secret : Nat) (message : Bytes) (k : Nat) : Option Bytes := do
  let e := c.digestOf message
  let x ← c.affineX? (c.mul k c.base)
  let r := x % c.order
  let s := Modular.inverse c.order k * ((e + r * secret) % c.order) % c.order
  if r = 0 || s = 0 then none else some (Bytes.ofNat c.size r ++ Bytes.ofNat c.size s)

/-- How many nonces are tried before signing is given up. -/
def maxTries : Nat := 32

/-- The signature of a message with the nonce of a number that was drawn, or with the next one that
gives a signature. -/
def sign (c : Curve) (secret draw : Nat) (message : Bytes) : Option Bytes :=
  (List.range maxTries).findSome? fun i => signWith c secret message (c.nonce (draw + i))

/-- Whether a signature of a message is valid under the point of a public key. -/
def verify (c : Curve) (publicPoint message signature : Bytes) : Bool :=
  let r := Bytes.toNat (signature.take c.size)
  let s := Bytes.toNat (signature.drop c.size)
  let e := c.digestOf message
  let w := Modular.inverse c.order s
  signature.length == 2 * c.size && 0 < r && r < c.order && 0 < s && s < c.order &&
    match c.point? publicPoint with
    | none => false
    | some q =>
      let sum := c.add (c.mul (e * w % c.order) c.base) (c.mul (r * w % c.order) q)
      (c.affineX? sum).any fun x => x % c.order = r

end BearerGate.Ecdsa
