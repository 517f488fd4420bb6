/-
# Decimal notations

A notation fixes what digits leave open: between which powers of ten a number is written plainly,
how the exponent of the others is signed, and which of two equally near shortest decimals is
taken.  A plain number always has a digit behind the point.
-/
import FirstMatch.Decimal.Shortest

namespace FirstMatch.Decimal

/-- The decisions of a way to write floating-point numbers. -/
structure Notation where
  /-- The least power of ten that is written plainly. -/
  plainFrom : Int
  /-- The least power of ten that is again written with an exponent. -/
  plainBelow : Int
  /-- Whether an exponent that is not negative has a plus sign. -/
  plusSign : Bool
  /-- The choice between two equally near decimals. -/
  tie : Tie

namespace Notation

/-- Digits without the zeros at their end. -/
def significant (digits : List Char) : List Char :=
  (digits.reverse.dropWhile (· == '0')).reverse

/-- Digits with the point behind the first `point` of them, filled up with zeros. -/
def plain (digits : List Char) (point : Int) : List Char :=
  if point ≤ 0 then '0' :: '.' :: (List.replicate (-point).toNat '0' ++ digits)
  else
    let before := digits.take point.toNat
    let after := digits.drop point.toNat
    before ++ List.replicate (point.toNat - digits.length) '0'
      ++ '.' :: (if after.isEmpty then ['0'] else after)

/-- Digits with the point behind the first one and a power of ten. -/
def scientific (plusSign : Bool) (digits : List Char) (power : Int) : List Char :=
  let sign := if power < 0 then ['-'] else if plusSign then ['+'] else []
  digits.take 1 ++ (if digits.length ≤ 1 then [] else '.' :: digits.drop 1)
    ++ 'e' :: (sign ++ Nat.toDigits 10 power.natAbs)

/-- The text of a positive decimal. -/
def writeScaled (n : Notation) (x : Scaled) : List Char :=
  let all := Nat.toDigits 10 x.coefficient
  let point := all.length + x.exponent
  if n.plainFrom ≤ point - 1 ∧ point - 1 < n.plainBelow then plain (significant all) point
  else scientific n.plusSign (significant all) (point - 1)

/-- The text of what the bits of a floating-point number say. -/
def write (n : Notation) (x : Double) : String :=
  let signed (negative : Bool) (digits : String) := if negative then "-" ++ digits else digits
  match x with
  | .nan => "NaN"
  | .infinite negative => signed negative "inf"
  | .finite negative 0 _ => signed negative "0.0"
  | .finite negative mantissa exponent =>
    signed negative
      (String.ofList (n.writeScaled ((Span.ofBinary mantissa exponent).shortest n.tie)))

/-- The text of a floating-point number. -/
def text (n : Notation) (x : Float) : String := n.write (Double.ofFloat x)

end Notation

end FirstMatch.Decimal
