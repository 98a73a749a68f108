/-!
# Arithmetic Modulo a Number

Powers by squaring and multiplying, one step for each bit of the exponent, and inverses modulo
a prime as powers.
-/

namespace BearerGate.Modular

/-- `acc * base ^ exponent` modulo `m`, for an exponent of at most as many bits as the first
argument says. -/
def powStep (m : Nat) : Nat → Nat → Nat → Nat → Nat
  | 0, _, _, acc => acc
  | bits + 1, base, exponent, acc =>
    powStep m bits (base * base % m) (exponent / 2)
      (if exponent % 2 = 1 then acc * base % m else acc)

/-- `base ^ exponent` modulo `m`. -/
def pow (m base exponent : Nat) : Nat :=
  powStep m (exponent.log2 + 1) (base % m) exponent (1 % m)

/-- The inverse of a number modulo a prime `p`. -/
def inverse (p a : Nat) : Nat :=
  pow p a (p - 2)

/-- The difference of two numbers modulo `m`. -/
def sub (m a b : Nat) : Nat :=
  (a % m + (m - b % m)) % m

end BearerGate.Modular
