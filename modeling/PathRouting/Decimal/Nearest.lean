/-! The double nearest to a decimal number. -/

namespace PathRouting.Decimal

/-- The double nearest to `digits * 10 ^ exponent`. Numbers beyond all doubles give
infinity, and those below half of the least one give zero. -/
def nearest (digits : Nat) (exponent : Int) : Float :=
  let leading : Int := (Nat.toDigits 10 digits).length + exponent
  if digits = 0 || leading < -330 then 0.0
  else if 310 < leading then 1.0 / 0.0
  else if 0 ≤ exponent then Float.ofScientific digits false exponent.toNat
  else Float.ofScientific digits true (-exponent).toNat

end PathRouting.Decimal
