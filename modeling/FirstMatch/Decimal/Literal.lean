/-
# Decimal literals

A decimal literal is a sign, the digits with the point taken out, and a power of ten.  It stands
for the nearest floating-point number; a literal beyond the largest one stands for infinity.
-/

namespace FirstMatch.Decimal

/-- The number `± coefficient * 10 ^ exponent`. -/
structure Literal where
  negative : Bool
  coefficient : Nat
  exponent : Int
  deriving DecidableEq, Repr

namespace Literal

/-- The literal with the given digits before and behind the point and a power of ten. -/
def ofParts (negative : Bool) (whole fraction : List Char) (power : Int) : Literal :=
  { negative
    coefficient := Nat.ofDigitChars 10 (whole ++ fraction) 0
    exponent := power - fraction.length }

/-- The size of the nearest floating-point number.  Powers of ten far outside the range are
decided without computing them. -/
def magnitude (l : Literal) : Float :=
  let digits := (Nat.toDigits 10 l.coefficient).length
  if l.coefficient = 0 ∨ l.exponent + digits < -400 then 0
  else if l.exponent > 400 then 1 / 0
  else if l.exponent < 0 then Float.ofScientific l.coefficient true l.exponent.natAbs
  else Float.ofScientific l.coefficient false l.exponent.natAbs

/-- The nearest floating-point number. -/
def toFloat (l : Literal) : Float := if l.negative then -l.magnitude else l.magnitude

/-- An optional sign in front of a text. -/
def splitSign : List Char → Bool × List Char
  | '-' :: cs => (true, cs)
  | '+' :: cs => (false, cs)
  | cs => (false, cs)

/-- A whole number with an optional sign and at least one digit. -/
def power? (cs : List Char) : Option Int :=
  let (negative, digits) := splitSign cs
  if digits.isEmpty || !digits.all Char.isDigit then none
  else
    let size : Int := Nat.ofDigitChars 10 digits 0
    some (if negative then -size else size)

/-- Reads a literal: an optional sign, digits with at most one point, at least one of them, and
an optional power of ten behind the letter `e`. -/
def ofText? (cs : List Char) : Option Literal := do
  let (negative, cs) := splitSign cs
  let whole := cs.takeWhile Char.isDigit
  let (fraction, rest) := match cs.dropWhile Char.isDigit with
    | '.' :: cs => (cs.takeWhile Char.isDigit, cs.dropWhile Char.isDigit)
    | cs => ([], cs)
  if whole.isEmpty && fraction.isEmpty then none
  else match rest with
    | [] => some (ofParts negative whole fraction 0)
    | c :: cs => if c = 'e' ∨ c = 'E' then (power? cs).map (ofParts negative whole fraction) else none

end Literal

/-- Reads a floating-point number: a literal, or in any case a name of infinity or of what is not
a number, each with an optional sign. -/
def float? (text : String) : Option Float :=
  let (negative, name) := Literal.splitSign (text.toList.map Char.toLower)
  let special :=
    if name = "inf".toList ∨ name = "infinity".toList then some (1 / 0)
    else if name = "nan".toList then some (0 / 0)
    else none
  match special with
  | some x => some (if negative then -x else x)
  | none => (Literal.ofText? text.toList).map Literal.toFloat

end FirstMatch.Decimal
