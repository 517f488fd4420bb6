/-
# Selection

A guard recognises a view of the input: the input as a value of some type, a part of it, or the
input itself.  A condition then tests the view.  Both ask functions of the user, in a fixed order
and no more of them than needed.
-/
import FirstMatch.Callback

namespace FirstMatch

variable {σ ν In : Type}

/-! ## Conditions -/

/-- A test of a value: a function of the user, or two tests of which both must hold. -/
inductive Condition (σ ν View : Type) where
  | test (f : Callback σ ν View Bool)
  | both (first second : Condition σ ν View)

namespace Condition

variable {View : Type}

/-- Tests a value from left to right; behind a test that does not hold no other is made. -/
def holds : Condition σ ν View → View → Run σ (Event ν) Bool
  | test f, v => f.call .condition v
  | both first second, v => do
    if ← first.holds v then second.holds v else pure false

/-- The tests that a condition is made of, from left to right. -/
def tests : Condition σ ν View → List (Callback σ ν View Bool)
  | test f => [f]
  | both first second => first.tests ++ second.tests

/-- Tests the value inside a function of the user, which can only leave notes: what the tests
show becomes their note. -/
def holdsWithin (c : Condition σ ν View) (v : View) : Run σ ν Bool := fun s =>
  let e := c.holds v s
  ⟨e.outcome, e.events.filterMap Event.shown?, e.state⟩

end Condition

/-! ## Guards -/

/-- Recognises a view of the input. -/
inductive Guard (σ ν In : Type) : Type → Type 1 where
  /-- The input as a value of the named type. -/
  | exact {View : Type} (label : String) (narrow : Callback σ ν In (Option View)) :
    Guard σ ν In View
  /-- The input as a value that equals a literal; the comparison has the value on its left. -/
  | equals {View : Type} (shown : String) (narrow : Callback σ ν In (Option View))
    (same : Callback σ ν (View × View) Bool) (literal : View) : Guard σ ν In View
  /-- Whatever a function of the user finds in the input. -/
  | structural {View : Type} (label : String) (find : Callback σ ν In (Option View)) :
    Guard σ ν In View
  /-- Every input, whole. -/
  | any : Guard σ ν In In
  /-- The whole input, if a function of the user says so. -/
  | whole (label : String) (test : Callback σ ν In Bool) : Guard σ ν In In

namespace Guard

variable {View : Type}

/-- The name of a guard in texts and logs. -/
def label : Guard σ ν In View → String
  | exact label _ => label
  | equals shown _ _ _ => "== " ++ shown
  | structural label _ => label
  | any => "any"
  | whole label _ => label

/-- Whether a guard recognises every input without asking. -/
def acceptsAll : Guard σ ν In View → Bool
  | any => true
  | _ => false

/-- The view of an input, if the guard recognises it. -/
def view? : Guard σ ν In View → In → Run σ (Event ν) (Option View)
  | exact _ narrow, x => narrow.call .narrow x
  | equals _ narrow same literal, x => do
    match ← narrow.call .narrow x with
    | none => pure none
    | some v => return if ← same.call .compare (v, literal) then some v else none
  | structural _ find, x => find.call .guard x
  | any, x => pure (some x)
  | whole _ test, x => return if ← test.call .guard x then some x else none

/-- Whether a view meets a condition; without one every view does. -/
def admits : Option (Condition σ ν View) → View → Run σ (Event ν) Bool
  | none, _ => pure true
  | some c, v => c.holds v

/-- The view of an input, if the guard recognises it and the condition, if there is one, holds of
it.  The condition is asked only for a view that was recognised. -/
def select? (g : Guard σ ν In View) (c : Option (Condition σ ν View)) (x : In) :
    Run σ (Event ν) (Option View) := do
  match ← g.view? x with
  | none => pure none
  | some v => return if ← admits c v then some v else none

/-- A condition that is there admits what it holds of. -/
@[simp] theorem admits_some (c : Condition σ ν View) (v : View) : admits (some c) v = c.holds v :=
  rfl

/-- The guard for every input sees the input itself. -/
@[simp] theorem view?_any (x : In) : (any : Guard σ ν In In).view? x = pure (some x) := rfl

end Guard

/-- A function that finds a view, restricted to views for which a condition holds. -/
def Callback.keeping {View : Type} (find : Callback σ ν In (Option View))
    (c : Condition σ ν View) : Callback σ ν In (Option View) where
  shows := find.shows
  body x := do
    match ← find.body x with
    | none => pure none
    | some v => return if ← c.holdsWithin v then some v else none

end FirstMatch
