import ClauseEditor.Decimal.Binary64

/-!
# The shortest decimal of a binary number

Of the decimals that a reader would round to a given binary number, the
shortest is the one with the fewest digits and, among those, the nearest to
the number.  It is found by trying one digit, two digits and so on: of each
decimal grid only the two neighbours of the number can be read back as it.
-/

namespace ClauseEditor

/-- The positive decimal `0.d₁d₂… * 10 ^ point` with the digits of `digits`. -/
structure ShortDecimal where
  digits : Nat
  point : Int
deriving DecidableEq

namespace Binary64

/--
The reals that round to `mantissa * 2 ^ exponent`, in quarters of the unit
`2 ^ exponent`: the ends lie half way to the neighbours, and the lower
neighbour of a power of two is nearer.  The ends belong to the number when
its mantissa is even.
-/
structure RoundingInterval where
  low : Nat
  middle : Nat
  high : Nat
  closed : Bool

def roundingInterval (mantissa : Nat) (exponent : Int) : RoundingInterval where
  low :=
    if mantissa = Nat.pow 2 52 ∧ leastExponent < exponent then 4 * mantissa - 1
    else 4 * mantissa - 2
  middle := 4 * mantissa
  high := 4 * mantissa + 2
  closed := mantissa % 2 = 0

/-- Whether a point on the scale of the ends belongs to the interval. -/
def RoundingInterval.holds
    (interval : RoundingInterval)
    (scale point : Nat) :
    Bool :=
  if interval.closed then
    interval.low * scale ≤ point && point ≤ interval.high * scale
  else interval.low * scale < point && point < interval.high * scale

/--
The better of the two neighbours on the grid of multiples of `step`, when
the number stands at `interval.middle * scale`.
-/
def neighbour?
    (interval : RoundingInterval)
    (scale step : Nat) :
    Option Nat :=
  let value := interval.middle * scale
  let below := value / step
  let above := below + 1
  match interval.holds scale (below * step),
      interval.holds scale (above * step) with
  | true, true => some (roundQuotient value step)
  | true, false => some below
  | false, true => some above
  | false, false => none

/-- The least `point` for which the value lies below `10 ^ point`. -/
def decimalPoint (numerator denominator : Nat) : Int :=
  let whole := numerator / denominator
  if whole = 0 then
    let inverse := (denominator - 1) / numerator
    1 - (Nat.toDigits 10 inverse).length
  else (Nat.toDigits 10 whole).length

/-- The first of the given digit counts whose grid has a hit. -/
def firstHit
    (interval : RoundingInterval)
    (exponent point : Int) :
    List Nat → ShortDecimal
  | [] => ⟨0, point⟩
  | count :: more =>
    let unit := point - count
    let quarter := exponent - 2
    let scale := Nat.pow 2 quarter.toNat * Nat.pow 10 (-unit).toNat
    let step := Nat.pow 2 (-quarter).toNat * Nat.pow 10 unit.toNat
    match neighbour? interval scale step with
    | some digits =>
      if digits = Nat.pow 10 count then ⟨1, point + 1⟩
      else ⟨digits, point⟩
    | none => firstHit interval exponent point more

/-- The shortest decimal of `mantissa * 2 ^ exponent`, for a positive mantissa. -/
def shortest (mantissa : Nat) (exponent : Int) : ShortDecimal :=
  let point :=
    decimalPoint (mantissa * Nat.pow 2 exponent.toNat)
      (Nat.pow 2 (-exponent).toNat)
  firstHit (roundingInterval mantissa exponent) exponent point
    (List.range' 1 17)

end Binary64

end ClauseEditor
