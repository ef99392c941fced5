/-!
# Binary floating point numbers of 64 bits

A finite number is a mantissa below `2 ^ 53` times a power of two, so all
arithmetic here is exact arithmetic on natural numbers.  `ofDecimal` takes a
decimal numeral to the nearest such number; of two that are equally near it
takes the one with the even mantissa.
-/

namespace ClauseEditor

inductive Binary64 where
  | nan
  | infinite (negative : Bool)
  | finite (negative : Bool) (mantissa : Nat) (exponent : Int)
deriving DecidableEq

/-- The nearest natural number to a quotient; a half goes to the even one. -/
def roundQuotient (numerator denominator : Nat) : Nat :=
  let floor := numerator / denominator
  let twice := 2 * (numerator % denominator)
  if twice < denominator then floor
  else if denominator < twice then floor + 1
  else floor + floor % 2

namespace Binary64

/-- The least exponent of a finite number. -/
def leastExponent : Int := -1074

/-- The greatest exponent of a finite number. -/
def greatestExponent : Int := 971

/-- The quotient `numerator / denominator` over `2 ^ exponent`, rounded. -/
def mantissaAt (numerator denominator : Nat) (exponent : Int) : Nat :=
  roundQuotient (numerator * Nat.pow 2 (-exponent).toNat)
    (denominator * Nat.pow 2 exponent.toNat)

/-- The exponent that gives a positive quotient a mantissa of 53 bits. -/
def exponentOf (numerator denominator : Nat) : Int :=
  let low : Int := numerator.log2 - denominator.log2 - 53
  let reaches :=
    denominator * Nat.pow 2 (low + 53).toNat ≤
      numerator * Nat.pow 2 (-(low + 53)).toNat
  max leastExponent (if reaches then low + 1 else low)

/-- The number nearest to a positive quotient. -/
def ofQuotient (negative : Bool) (numerator denominator : Nat) : Binary64 :=
  let exponent := exponentOf numerator denominator
  let mantissa := mantissaAt numerator denominator exponent
  let (mantissa, exponent) :=
    if mantissa = Nat.pow 2 53 then (Nat.pow 2 52, exponent + 1)
    else (mantissa, exponent)
  if greatestExponent < exponent then .infinite negative
  else .finite negative mantissa exponent

/--
The number nearest to `digits * 10 ^ scale`.  A numeral whose leading digit
stands above `10 ^ 310` is infinite and one whose leading digit stands below
`10 ^ -330` is zero, so the powers that are computed stay small.
-/
def ofDecimal (negative : Bool) (digits : Nat) (scale : Int) : Binary64 :=
  let magnitude := (Nat.toDigits 10 digits).length + scale
  if digits = 0 ∨ magnitude < -330 then .finite negative 0 leastExponent
  else if 310 < magnitude then .infinite negative
  else
    ofQuotient negative (digits * Nat.pow 10 scale.toNat)
      (Nat.pow 10 (-scale).toNat)

/-- The integer part, without the fraction; `none` for no finite number. -/
def truncate? : Binary64 → Option Int
  | finite negative mantissa exponent =>
    let size :=
      mantissa * Nat.pow 2 exponent.toNat / Nat.pow 2 (-exponent).toNat
    some (if negative then -size else size)
  | _ => none

/-- The sum of an integer and a finite number, rounded to a number. -/
def addInt (n : Int) : Binary64 → Binary64
  | finite negative mantissa exponent =>
    let signed : Int := if negative then -mantissa else mantissa
    let sum :=
      n * Nat.pow 2 (-exponent).toNat + signed * Nat.pow 2 exponent.toNat
    if sum = 0 then .finite false 0 leastExponent
    else ofQuotient (sum < 0) sum.natAbs (Nat.pow 2 (-exponent).toNat)
  | other => other

end Binary64

end ClauseEditor
