/-
# Scripted functions

Functions of the user that are given by data: tests of values, answers for values, and changes of
outputs.  They see values through their facets only.  Some count their calls, some panic.
-/
import FirstMatch.Selection
import FirstMatch.Script.Output
import FirstMatch.Script.World

namespace FirstMatch.Script

/-- Scripted functions run on the tally of calls and leave notes. -/
abbrev Act (α : Type) := Run Tally Note α

/-- Counts one more call in a cell, and answers the new count. -/
def count (cell : Nat) : Act Nat := Run.update (Tally.tick cell)

/-! ## Tests -/

/-- A test of a value. -/
inductive Test where
  | always
  | never
  /-- The value has a number above this one. -/
  | above (n : Int)
  /-- The value has a number below this one. -/
  | below (n : Int)
  /-- The value has an even number. -/
  | even
  /-- The value has a size above this one. -/
  | longer (n : Int)
  /-- The value has a text with this text in it. -/
  | contains (s : String)
  /-- True and false in turn, from the first call on. -/
  | alternate (cell : Nat)
  | panic (message : String)

/-- Whether one list of characters stands somewhere in another. -/
def isWithin (needle : List Char) : List Char → Bool
  | [] => needle.isEmpty
  | c :: cs => needle.isPrefixOf (c :: cs) || isWithin needle cs

namespace Test

/-- What a test says of a value, by the facets of the value. -/
def holds (f : Facets) : Test → Act Bool
  | always => pure true
  | never => pure false
  | above n => pure (f.number.any (n < ·))
  | below n => pure (f.number.any (· < n))
  | even => pure (f.number.any (· % 2 = 0))
  | longer n => pure (f.size.any (n < ·))
  | contains s => pure (f.text.any fun text => isWithin s.toList text.toList)
  | alternate cell => do return (← count cell) % 2 = 1
  | panic message => Run.panic message

/-- A test as a function of the user. -/
def callback {View : Type} (t : Test) (tag : String) (facets : View → Facets) :
    Callback Tally Note View Bool where
  shows v := some (.condition tag (facets v).shown)
  body v := t.holds (facets v)

end Test

/-- A tagged test, or two conditions of which both must hold. -/
inductive Criterion where
  | test (tag : String) (t : Test)
  | both (first second : Criterion)

namespace Criterion

/-- Criteria of which all must hold, joined from the left. -/
def all (first : Criterion) (others : List Criterion) : Criterion := others.foldl both first

/-- A criterion as a condition on values with facets. -/
def condition {View : Type} (facets : View → Facets) : Criterion → Condition Tally Note View
  | test tag t => .test (t.callback tag facets)
  | both first second => .both (first.condition facets) (second.condition facets)

end Criterion

/-! ## Answers -/

/-- An answer for a value. -/
inductive Response where
  | const (out : Output)
  /-- The value as it is shown. -/
  | echo
  /-- The number of the value and this one together. -/
  | add (n : Int)
  /-- The size of the value. -/
  | length
  /-- How often this function has been called. -/
  | count (cell : Nat)
  | fail (error : Fail)
  | panic (message : String)

namespace Response

/-- What a response answers for a value, by the facets of the value. -/
def answer (f : Facets) : Response → Act (Except Fail Output)
  | const out => return .ok out
  | echo => return .ok (.text f.shown)
  | add n =>
    match f.number with
    | some m => return .ok (.ofInt (m + n))
    | none => return .error ⟨-1, "not a number: " ++ f.shown⟩
  | length =>
    match f.size with
    | some n => return .ok (.ofInt n)
    | none => return .error ⟨-2, "no length: " ++ f.shown⟩
  | count cell => do return .ok (.ofInt (← Script.count cell))
  | fail error => return .error error
  | panic message => Run.panic message

/-- An answer as a function of the user. -/
def callback {View : Type} (r : Response) (tag : String) (facets : View → Facets) :
    Callback Tally Note View (Except Fail Output) where
  shows v := some (.action tag (facets v).shown)
  body v := r.answer (facets v)

end Response

/-! ## Changes of outputs -/

/-- A change of an output; outputs that it does not concern stay as they are. -/
inductive Change where
  /-- Adds to a number. -/
  | add (n : Int)
  /-- Doubles a number. -/
  | double
  /-- Turns a text into the number of its bytes. -/
  | length
  /-- Puts two texts around a text. -/
  | wrap (left right : String)
  /-- Turns every output into the text that shows it. -/
  | display
  | unit
  | panic (message : String)

namespace Change

/-- What a change makes of an output. -/
def apply : Change → Output → Act Output
  | add n, .int m => pure (.ofInt (m.val + n))
  | double, .int m => pure (.ofInt (m.val * 2))
  | length, .text s => pure (.ofInt s.utf8ByteSize)
  | wrap left right, .text s => pure (.text (left ++ s ++ right))
  | display, out => pure (.text out.layout.compact)
  | unit, _ => pure .unit
  | panic message, _ => Run.panic message
  | _, out => pure out

/-- A change as a function of the user. -/
def callback (c : Change) (tag : String) : Callback Tally Note Output Output where
  shows out := some (.map tag out)
  body out := c.apply out

end Change

end FirstMatch.Script
