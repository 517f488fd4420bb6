/-
# Rules

A rule takes an input if its guard recognises a view of it and its condition, if it has one, holds
of the view.  Its action then answers for the view.  Maps may be put around an action; they turn
what it answers into another output, and leave its failures alone.
-/
import FirstMatch.Selection

namespace FirstMatch

variable {σ ν In : Type}

/-! ## Actions -/

/-- Answers for a view with an output or a failure: a function of the user, or an action with a
map around it. -/
inductive Action (σ ν View E : Type) : Type → Type 1 where
  | answer {Out : Type} (f : Callback σ ν View (Except E Out)) : Action σ ν View E Out
  | mapped {Mid Out : Type} (inner : Action σ ν View E Mid) (f : Callback σ ν Mid Out) :
    Action σ ν View E Out

namespace Action

variable {View E Mid Out : Type}

/-- Answers for a view; the maps see outputs only, the innermost one first. -/
def run {Out : Type} : Action σ ν View E Out → View → Run σ (Event ν) (Except E Out)
  | answer f, v => f.call .action v
  | mapped inner f, v => do
    match ← inner.run v with
    | .ok out => return .ok (← f.call .map out)
    | .error e => return .error e

/-- Behind a map an action runs first, and the map is called for an output only. -/
theorem run_mapped (inner : Action σ ν View E Mid) (f : Callback σ ν Mid Out) (v : View) :
    (mapped inner f).run v = inner.run v >>= fun result =>
      match result with
      | .ok out => f.call .map out >>= fun next => pure (.ok next)
      | .error e => pure (.error e) := rfl

end Action

/-! ## Rules -/

/-- A guard, an optional condition on the view it recognises, and an action for that view. -/
structure Rule (σ ν In Out E : Type) : Type 1 where
  {View : Type}
  guard : Guard σ ν In View
  condition : Option (Condition σ ν View) := none
  action : Action σ ν View E Out

namespace Rule

variable {Out Next E View : Type}

/-- The rule that answers for what a guard recognises. -/
def answering (g : Guard σ ν In View) (f : Callback σ ν View (Except E Out)) :
    Rule σ ν In Out E := ⟨g, none, .answer f⟩

/-- The rule that answers for what a guard recognises, if a test holds of it. -/
def answeringIf (g : Guard σ ν In View) (test : Callback σ ν View Bool)
    (f : Callback σ ν View (Except E Out)) : Rule σ ν In Out E := ⟨g, some (.test test), .answer f⟩

/-- The name of a rule is that of its guard. -/
def label (r : Rule σ ν In Out E) : String := r.guard.label

/-- Whether a rule takes every input: its guard recognises all of them and it has no condition. -/
def isCatchAll (r : Rule σ ν In Out E) : Bool := r.guard.acceptsAll && r.condition.isNone

/-- The view for which the action answers, if the rule takes the input. -/
def select? (r : Rule σ ν In Out E) (x : In) : Run σ (Event ν) (Option r.View) :=
  r.guard.select? r.condition x

/-- Whether the rule takes an input; the action is not asked. -/
def accepts (r : Rule σ ν In Out E) (x : In) : Run σ (Event ν) Bool := do
  return (← r.select? x).isSome

/-- The answer of the action, if the rule takes the input. -/
def react? (r : Rule σ ν In Out E) (x : In) : Run σ (Event ν) (Option (Except E Out)) := do
  match ← r.select? x with
  | none => pure none
  | some v => return some (← r.action.run v)

/-- The same rule with a map around its action. -/
def map (f : Callback σ ν Out Next) (r : Rule σ ν In Out E) : Rule σ ν In Next E :=
  { r with action := .mapped r.action f }

/-- What the parts of a rule say of an input when they are asked one after the other: nothing if
the guard does not recognise it, else the condition, and the action whatever the condition says. -/
def parts (r : Rule σ ν In Out E) (x : In) :
    Run σ (Event ν) (Option (Option Bool × Except E Out)) := do
  match ← r.guard.view? x with
  | none => pure none
  | some v =>
    let verdict ← match r.condition with
      | none => pure none
      | some c => some <$> c.holds v
    return some (verdict, ← r.action.run v)

/-- A map around its action leaves a rule its name. -/
@[simp] theorem label_map (f : Callback σ ν Out Next) (r : Rule σ ν In Out E) :
    (r.map f).label = r.label := rfl

end Rule

end FirstMatch
