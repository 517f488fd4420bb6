/-
# Doubles as exact numbers

A floating-point number of 64 bits is not a number, infinite, or a sign and an exact
`mantissa * 2 ^ exponent`.  A finite one stands for the span of reals that lie nearer to it than
to its neighbours; the ends of the span belong to it when the mantissa is even.
-/

namespace FirstMatch.Decimal

/-- What the 64 bits of a floating-point number say. -/
inductive Double where
  | nan
  | infinite (negative : Bool)
  | finite (negative : Bool) (mantissa : Nat) (exponent : Int)
  deriving DecidableEq, Repr

namespace Double

/-- The exponent of the numbers nearest to zero. -/
def leastExponent : Int := -1074

/-- The bit in front of the fraction, which the 64 bits leave out. -/
def leadingBit : Nat := Nat.pow 2 52

/-- Reads the sign bit, the eleven bits of the exponent and the 52 bits of the fraction. -/
def ofBits (bits : Nat) : Double :=
  let negative := bits / Nat.pow 2 63 % 2 == 1
  let field : Nat := bits / leadingBit % Nat.pow 2 11
  let fraction := bits % leadingBit
  if field = Nat.pow 2 11 - 1 then
    if fraction = 0 then infinite negative else nan
  else if field = 0 then finite negative fraction leastExponent
  else finite negative (leadingBit + fraction) (leastExponent + ((field : Int) - 1))

/-- The exact reading of a floating-point number. -/
def ofFloat (x : Float) : Double := ofBits x.toBits.toNat

end Double

/-- A positive rational `mid / den` with the ends of the interval that it stands for. -/
structure Span where
  low : Nat
  mid : Nat
  high : Nat
  den : Nat
  closed : Bool
  deriving DecidableEq, Repr

namespace Span

/-- The span of `mantissa * 2 ^ exponent`.  It reaches half a step to either side; below a power
of two the step is half as wide. -/
def ofBinary (mantissa : Nat) (exponent : Int) : Span :=
  let gap := if mantissa = Double.leadingBit ∧ exponent ≠ Double.leastExponent then 1 else 2
  let scale := Nat.pow 2 (exponent - 2).toNat
  { low := (4 * mantissa - gap) * scale
    mid := 4 * mantissa * scale
    high := (4 * mantissa + 2) * scale
    den := Nat.pow 2 (2 - exponent).toNat
    closed := mantissa % 2 == 0 }

end Span

end FirstMatch.Decimal
