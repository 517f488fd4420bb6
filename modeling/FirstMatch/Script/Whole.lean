/-
# Whole numbers of a width

Whole numbers with or without a sign that fit into a given number of bits.
-/

namespace FirstMatch.Script

/-- The widths of whole numbers; those that begin with `u` have no sign. -/
inductive Width where
  | u8
  | u16
  | u32
  | u64
  | i8
  | i16
  | i32
  | i64
  | i128
  deriving DecidableEq, Repr

namespace Width

/-- The name of a width. -/
def name : Width → String
  | u8 => "u8"
  | u16 => "u16"
  | u32 => "u32"
  | u64 => "u64"
  | i8 => "i8"
  | i16 => "i16"
  | i32 => "i32"
  | i64 => "i64"
  | i128 => "i128"

/-- The number of bits. -/
def bits : Width → Nat
  | u8 | i8 => 8
  | u16 | i16 => 16
  | u32 | i32 => 32
  | u64 | i64 => 64
  | i128 => 128

/-- Whether the numbers have a sign. -/
def signed : Width → Bool
  | u8 | u16 | u32 | u64 => false
  | i8 | i16 | i32 | i64 | i128 => true

/-- The smallest number of a width. -/
def least (w : Width) : Int := if w.signed then -Nat.pow 2 (w.bits - 1) else 0

/-- The largest number of a width. -/
def greatest (w : Width) : Int :=
  if w.signed then Nat.pow 2 (w.bits - 1) - 1 else Nat.pow 2 w.bits - 1

/-- There are numbers of every width. -/
theorem least_le_greatest (w : Width) : w.least ≤ w.greatest := by
  cases w <;> decide

end Width

/-- A whole number that fits into a width. -/
structure Whole (w : Width) where
  val : Int
  least_le : w.least ≤ val
  le_greatest : val ≤ w.greatest
  deriving DecidableEq

namespace Whole

variable {w : Width}

/-- The number, if it fits. -/
def ofInt? (w : Width) (n : Int) : Option (Whole w) :=
  if h : w.least ≤ n ∧ n ≤ w.greatest then some ⟨n, h.1, h.2⟩ else none

/-- The number of the width that is nearest to a whole number. -/
def nearest (w : Width) (n : Int) : Whole w where
  val := max w.least (min n w.greatest)
  least_le := Int.le_max_left ..
  le_greatest := Int.max_le.mpr ⟨w.least_le_greatest, Int.min_le_right ..⟩

end Whole

end FirstMatch.Script
