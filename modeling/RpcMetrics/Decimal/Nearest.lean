/-!
# The double nearest to a decimal

A decimal of any length and size is read as the double nearest to it.  Decimals that are out of
all bounds by their number of digits alone need no arithmetic.
-/
namespace RpcMetrics.Decimal

/-- No double has a decimal exponent of so much, above or below zero. -/
def exponentBound : Int := 400

/-- The double nearest to `digits · 10 ^ exponent`. -/
def nearest (digits : Nat) (exponent : Int) : Float :=
  let magnitude := exponent + ((Nat.toDigits 10 digits).length : Int)
  if digits = 0 || magnitude < -exponentBound then 0
  else if exponentBound < magnitude then 1.0 / 0.0
  else Float.ofScientific digits (decide (exponent < 0)) exponent.natAbs

end RpcMetrics.Decimal
