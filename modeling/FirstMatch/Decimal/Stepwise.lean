/-
# Decimals in floating-point steps

A decimal may be turned into a floating-point number in steps: the coefficient is rounded, and
then multiplied or divided by a power of ten, with a rounding at each step.  This is quick and
near the nearest number, but not always it.  The largest power that is used at once is the
largest one that is a floating-point number; what lies further below is divided again.
-/
import FirstMatch.Decimal.Shortest

namespace FirstMatch.Decimal

/-- The largest power of ten that is a floating-point number. -/
def greatestPower : Nat := 308

/-- A power of ten as the nearest floating-point number. -/
def powerOfTen (k : Nat) : Float := Float.ofScientific 1 false k

/-- A number times a power of ten, rounded at each step; nothing if it is too large.  A zero stays
what it is. -/
def scale (x : Float) (power : Int) : Option Float :=
  if power.natAbs ≤ greatestPower then
    if 0 ≤ power then
      let y := x * powerOfTen power.natAbs
      if y.isInf then none else some y
    else some (x / powerOfTen power.natAbs)
  else if x == 0 then some x
  else if 0 ≤ power then none
  else scale (x / powerOfTen greatestPower) (power + greatestPower)
termination_by (-power).toNat
decreasing_by
  simp only [greatestPower] at *
  omega

/-- The floating-point number that is reached in steps; nothing if it is too large. -/
def Scaled.stepwise (x : Scaled) : Option Float :=
  scale (Float.ofScientific x.coefficient false 0) x.exponent

end FirstMatch.Decimal
