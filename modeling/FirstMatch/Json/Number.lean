/-
# The numbers of JSON

A number has digits, perhaps a point and further digits, and perhaps a power of ten.  Without the
latter two it is an integer if it fits into 64 bits.  Every other number is read as a
floating-point number: its digits are gathered into a coefficient of 64 bits, digits for which
there is no room are left out, and the coefficient is scaled in steps.  Digits behind the point
still enter a coefficient that digits in front of it had left no longer room for, if they are
small enough.
-/
import FirstMatch.Decimal.Literal
import FirstMatch.Decimal.Stepwise
import FirstMatch.Json.Token

namespace FirstMatch.Json

/-! ## Digits -/

/-- The digits that a text begins with, and the text behind them. -/
def digits (cs : List Char) : List Char × List Char :=
  (cs.takeWhile Char.isDigit, cs.dropWhile Char.isDigit)

/-- Whether a text begins with a digit. -/
def startsWithDigit : List Char → Bool
  | [] => false
  | c :: _ => c.isDigit

/-- A number with one more digit behind its others. -/
def appendDigit (n : Nat) (c : Char) : Nat := 10 * n + (c.toNat - '0'.toNat)

/-- Appends digits to a coefficient as long as it stays below the limit, and answers with it the
digits from the first one on for which there was no room. -/
def gather (limit n : Nat) : List Char → Nat × List Char
  | [] => (n, [])
  | c :: cs =>
    if appendDigit n c < limit then gather limit (appendDigit n c) cs else (n, c :: cs)

/-- The coefficient and the power of ten of digits in front of and behind a point. -/
def gathered (whole fraction : List Char) : Decimal.Scaled :=
  let limit := Nat.pow 2 64
  let (n, dropped) := gather limit 0 whole
  let (coefficient, unread) := gather limit n fraction
  { coefficient, exponent := (dropped.length : Int) + unread.length - fraction.length }

/-! ## The parts of a number -/

/-- Reads the digits in front of the point: a single zero, or digits that do not begin with one. -/
def wholePart : List Char → Except Fault (Read (List Char))
  | [] => .error (.before (.ended .value) [])
  | c :: cs =>
    if !c.isDigit then .error (.within .badNumber (c :: cs))
    else if c = '0' then
      if startsWithDigit cs then .error (.within .badNumber cs) else .ok ([c], cs)
    else .ok (digits (c :: cs))

/-- Reads a point and the digits behind it, if there is a point. -/
def fractionPart : List Char → Except Fault (Read (Option (List Char)))
  | '.' :: cs =>
    if startsWithDigit cs then .ok (some (digits cs).1, (digits cs).2)
    else if cs.isEmpty then .error (.within (.ended .value) cs)
    else .error (.within .badNumber cs)
  | cs => .ok (none, cs)

/-- Reads further digits of a power of ten.  A bounded power is refused behind the first digit
with which it no longer fits into 32 bits. -/
def powerDigits (bounded : Bool) (power : Nat) : List Char → Except Fault (Read Nat)
  | [] => .ok (power, [])
  | c :: cs =>
    if !c.isDigit then .ok (power, c :: cs)
    else if bounded && Nat.pow 2 31 ≤ appendDigit power c then
      .error (.before .numberTooLarge cs)
    else powerDigits bounded (appendDigit power c) cs

/-- Reads a power of ten, at least one digit. -/
def powerSize (bounded : Bool) : List Char → Except Fault (Read Nat)
  | [] => .error (.before (.ended .value) [])
  | c :: cs =>
    if c.isDigit then powerDigits bounded 0 (c :: cs) else .error (.within .badNumber (c :: cs))

/-- Reads a power of ten, if there is one.  It is bounded where it makes the number larger. -/
def powerPart (isZero : Bool) : List Char → Except Fault (Read (Option Int))
  | [] => .ok (none, [])
  | c :: cs =>
    if c = 'e' ∨ c = 'E' then do
      let (negative, cs) := Decimal.Literal.splitSign cs
      let (size, cs) ← powerSize (!isZero && !negative) cs
      return (some (if negative then -size else size), cs)
    else .ok (none, c :: cs)

/-! ## Numbers -/

/-- The value of a number that is written without point and power: an integer if it fits into 64
bits, with or without a sign.  A negative zero is no integer. -/
def integer? (negative : Bool) (whole : List Char) : Option Int :=
  let size := Nat.ofDigitChars 10 whole 0
  if negative then if size = 0 ∨ Nat.pow 2 63 < size then none else some (-size)
  else if size < Nat.pow 2 64 then some size else none

/-- Reads a number, from its sign or its first digit on. -/
def number (cs : List Char) : Except Fault (Read Found) := do
  let (negative, cs) := match cs with
    | '-' :: cs => (true, cs)
    | cs => (false, cs)
  let (whole, cs) ← wholePart cs
  let (fraction, cs) ← fractionPart cs
  let decimal := gathered whole (fraction.getD [])
  let (power, cs) ← powerPart (decimal.coefficient = 0) cs
  let plain := if fraction.isNone && power.isNone then integer? negative whole else none
  match plain with
  | some n => return (.integer n, cs)
  | none =>
    match { decimal with exponent := decimal.exponent + power.getD 0 }.stepwise with
    | none => .error (.before .numberTooLarge cs)
    | some x => return (.decimal (.ofFloat (if negative then -x else x)), cs)

end FirstMatch.Json
