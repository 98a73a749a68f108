import BearerGate.Text.Decimal

/-!
# JSON Numbers

A number keeps its digits as they were written, because whether it is an integer is a matter of
notation: a fraction or an exponent makes it none, and so does the sign of minus zero. A number
whose nearest double is infinite cannot be held at all; `isHuge` says which these are, by the
arithmetic of doubles carried out on natural numbers.
-/

namespace BearerGate.Json

/-- A number by its notation; the digits of an exponent follow whether it is negative. -/
structure Number where
  negative : Bool
  whole : List Char
  fraction : Option (List Char)
  exponent : Option (Bool × List Char)
  deriving DecidableEq

namespace Number

/-- The number with the text of an integer. -/
def ofInt (n : Int) : Number :=
  ⟨n < 0, Text.writeNat n.natAbs, none, none⟩

/-- The text of a number. -/
def text (n : Number) : List Char :=
  let sign := if n.negative then ['-'] else []
  let fraction := match n.fraction with
    | none => []
    | some ds => '.' :: ds
  let exponent := match n.exponent with
    | none => []
    | some (negative, ds) => 'e' :: (if negative then '-' :: ds else ds)
  sign ++ n.whole ++ fraction ++ exponent

/-- The number a text in number notation stands for. -/
def ofText (cs : List Char) : Number :=
  let negative := cs.head? == some '-'
  let body := if negative then cs.tail else cs
  let afterWhole := body.dropWhile Text.isDigit
  let fractional := afterWhole.head? == some '.'
  let afterFraction := if fractional then afterWhole.tail.dropWhile Text.isDigit else afterWhole
  ⟨negative, body.takeWhile Text.isDigit,
    if fractional then some (afterWhole.tail.takeWhile Text.isDigit) else none,
    match afterFraction with
    | [] => none
    | _ :: '-' :: ds => some (true, ds)
    | _ :: '+' :: ds => some (false, ds)
    | _ :: ds => some (false, ds)⟩

/-- The value of a number that is written as an integer. -/
def int? (n : Number) : Option Int :=
  if n.fraction.isSome || n.exponent.isSome then none
  else
    let size := Text.ofDigits n.whole
    if n.negative then (if size = 0 then none else some (-(size : Int))) else some size

/-- Adds a digit to a significand as long as it stays below `2 ^ 64`. Past that point digits are
dropped, and each counts towards the exponent where it stands before the decimal point. -/
def addDigit (beforePoint : Bool) (state : Nat × Int × Bool) (c : Char) : Nat × Int × Bool :=
  let (significand, exponent, full) := state
  let next := 10 * significand + (c.toNat - '0'.toNat)
  if full || Nat.pow 2 64 ≤ next then (significand, if beforePoint then exponent + 1 else exponent, true)
  else (next, if beforePoint then exponent else exponent - 1, false)

/-- The leading digits of a number as an integer, and the power of ten that scales it. -/
def scaled (n : Number) : Nat × Int :=
  let (significand, exponent, _) := n.whole.foldl (addDigit true) (0, 0, false)
  let (significand, exponent, _) :=
    (n.fraction.getD []).foldl (addDigit false) (significand, exponent, false)
  match n.exponent with
  | none => (significand, exponent)
  | some (true, ds) => (significand, exponent - Text.ofDigits ds)
  | some (false, ds) => (significand, exponent + Text.ofDigits ds)

/-- A natural number rounded to 53 significant bits, a tie to the even neighbour. -/
def toDouble (n : Nat) : Nat :=
  let extra := n.log2 + 1 - 53
  let unit := Nat.pow 2 extra
  let low := n / unit
  let rest := n % unit
  let up := 2 * rest > unit || (2 * rest = unit && low % 2 = 1)
  if extra = 0 then n else (if up then low + 1 else low) * unit

/-- Whether the double of a number is infinite. -/
def isHuge (n : Number) : Bool :=
  if n.int?.any (fun i => i.natAbs < Nat.pow 2 64) then false
  else
    let (significand, exponent) := n.scaled
    if significand = 0 || exponent < 0 then false
    else if 308 < exponent then true
    else Nat.pow 2 1024 ≤ toDouble (toDouble significand * toDouble (Nat.pow 10 exponent.toNat))

end Number

end BearerGate.Json
