/-
# The fewest digits that read back

Among the decimal numbers that lie in a span, the shortest ones are taken, and of those the one
nearest to the middle.  The search goes over the grids of one, two, ... seventeen digits; on each
grid only the two neighbours of the middle can be the nearest.  All comparisons are between
natural numbers.
-/
import FirstMatch.Decimal.Double

namespace FirstMatch.Decimal

/-- Which of two equally near neighbours is taken: the larger one or the even one. -/
inductive Tie where
  | up
  | even
  deriving DecidableEq, Repr

/-- The number `coefficient * 10 ^ exponent`. -/
structure Scaled where
  coefficient : Nat
  exponent : Int
  deriving DecidableEq, Repr

namespace Span

/-- The largest multiple of `10 ^ grid` that is not above the middle, counted in grid steps. -/
def floorAt (s : Span) (grid : Int) : Nat :=
  s.mid * Nat.pow 10 (-grid).toNat / (s.den * Nat.pow 10 grid.toNat)

/-- Whether `count * 10 ^ grid` lies in the span. -/
def holds (s : Span) (grid : Int) (count : Nat) : Bool :=
  let point := count * Nat.pow 10 grid.toNat * s.den
  let low := s.low * Nat.pow 10 (-grid).toNat
  let high := s.high * Nat.pow 10 (-grid).toNat
  if s.closed then low ≤ point && point ≤ high else low < point && point < high

/-- The nearer one of the middle's two neighbours on a grid. -/
def nearestAt (tie : Tie) (s : Span) (grid : Int) : Nat :=
  let below := s.floorAt grid
  let middle := 2 * s.mid * Nat.pow 10 (-grid).toNat
  let halfway := (2 * below + 1) * Nat.pow 10 grid.toNat * s.den
  if middle < halfway then below
  else if halfway < middle then below + 1
  else match tie with
    | .up => below + 1
    | .even => if below % 2 = 0 then below else below + 1

/-- The best point of a grid in the span, if the grid has one there. -/
def pointAt? (tie : Tie) (s : Span) (grid : Int) : Option Nat :=
  let below := s.floorAt grid
  match s.holds grid below, s.holds grid (below + 1) with
  | true, true => some (s.nearestAt tie grid)
  | true, false => some below
  | false, true => some (below + 1)
  | false, false => none

/-- The `k` with `10 ^ (k - 1) ≤ mid / den < 10 ^ k`. -/
def magnitude (s : Span) : Int :=
  if s.den ≤ s.mid then (Nat.toDigits 10 (s.mid / s.den)).length
  else
    let places := (Nat.toDigits 10 (s.den / s.mid)).length
    if s.mid * Nat.pow 10 (places - 1) = s.den then 2 - places else 1 - places

/-- The shortest decimal of a span, and of the shortest ones the nearest. -/
def shortest (tie : Tie) (s : Span) : Scaled :=
  let grids := (List.range 17).map fun digits => s.magnitude - (digits + 1 : Nat)
  let found := grids.findSome? fun grid => (s.pointAt? tie grid).map (Scaled.mk · grid)
  found.getD ⟨s.nearestAt tie (s.magnitude - 17), s.magnitude - 17⟩

end Span

end FirstMatch.Decimal
