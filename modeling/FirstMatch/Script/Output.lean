/-
# Outputs, failures and notes of scripts

What scripted actions answer, what they fail with, and what scripted functions note when they are
called.
-/
import FirstMatch.Script.Whole
import FirstMatch.Text.Layout

namespace FirstMatch.Script

open Text (Layout)

/-- What a scripted action answers. -/
inductive Output where
  | unit
  | int (n : Whole .i128)
  | text (s : String)
  deriving DecidableEq

namespace Output

/-- The number that is nearest to a whole number. -/
def ofInt (n : Int) : Output := int (.nearest .i128 n)

/-- An output is shown as what it holds inside the name of its kind. -/
def layout : Output → Layout
  | unit => .word "Unit"
  | int n => .tuple "Int" [.word (toString n.val)]
  | text s => .tuple "Text" [.quoted s]

end Output

/-- What a scripted action fails with. -/
structure Fail where
  code : Int
  message : String
  deriving DecidableEq

namespace Fail

/-- A failure in words. -/
def describe (f : Fail) : String := f.message ++ " (code " ++ toString f.code ++ ")"

/-- A failure is shown with its code and its message. -/
def layout (f : Fail) : Layout :=
  .record "Fail" [("code", .word (toString f.code)), ("message", .quoted f.message)] false

end Fail

/-- What a scripted function notes when it is called, each with the tag of the function and with
the value shown, or with the output that a map received. -/
inductive Note where
  | guard (tag shown : String)
  | narrow (variant shown : String)
  | compare (left right : String)
  | condition (tag shown : String)
  | action (tag shown : String)
  | map (tag : String) (out : Output)
  deriving DecidableEq

/-- How often each counting function has been called; every such function has a cell of its own,
wherever it is held. -/
abbrev Tally := Nat → Nat

namespace Tally

/-- No call is counted yet. -/
def zero : Tally := fun _ => 0

/-- Counts one more call in a cell, and answers the new count. -/
def tick (cell : Nat) (t : Tally) : Nat × Tally :=
  let count := t cell + 1
  (count, fun other => if other = cell then count else t other)

end Tally

end FirstMatch.Script
