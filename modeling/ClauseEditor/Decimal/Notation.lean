import ClauseEditor.Decimal.Shortest
import ClauseEditor.Text.CodePoint

/-!
# Written form of a binary number

A number is written with the fewest digits that read back.  The form is
positional from `10 ^ -4` up to below `10 ^ 16` and shows at least one place
after the point; outside that span it has one digit before the point and an
exponent of at least two digits with a sign.
-/

namespace ClauseEditor

/-- The words for the values that have no digits. -/
structure NonFiniteWords where
  nan : Text
  infinity : Text

namespace ShortDecimal

/-- The digits around a decimal point. -/
def positional (digits : Text) (point : Int) : Text :=
  if point ≤ 0 then
    Text.ofString "0." ++ Text.zeros (-point).toNat ++ digits
  else if (digits.length : Int) ≤ point then
    digits ++ Text.zeros (point.toNat - digits.length) ++ Text.ofString ".0"
  else
    digits.take point.toNat ++ Text.ofString "." ++ digits.drop point.toNat

/-- The digits with the point after the first, and an exponent. -/
def scientific (digits : Text) (exponent : Int) : Text :=
  let fraction :=
    if digits.length ≤ 1 then [] else Text.ofString "." ++ digits.drop 1
  let sign := Text.ofString (if exponent < 0 then "-" else "+")
  let size := Text.ofNat exponent.natAbs
  digits.take 1 ++ fraction ++ Text.ofString "e" ++ sign ++
    Text.zeros (2 - size.length) ++ size

def render (decimal : ShortDecimal) : Text :=
  let digits := Text.ofNat decimal.digits
  if -4 < decimal.point ∧ decimal.point ≤ 16 then
    positional digits decimal.point
  else scientific digits (decimal.point - 1)

end ShortDecimal

/-- The written form; the sign of zero is kept. -/
def Binary64.render (words : NonFiniteWords) : Binary64 → Text
  | .nan => words.nan
  | .infinite negative =>
    Text.minusIf negative ++ words.infinity
  | .finite negative mantissa exponent =>
    Text.minusIf negative ++
      if mantissa = 0 then Text.ofString "0.0"
      else (shortest mantissa exponent).render

end ClauseEditor
