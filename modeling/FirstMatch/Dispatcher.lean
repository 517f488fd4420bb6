/-
# Dispatchers

A dispatcher is an ordered list of rules.  An input goes through the rules from the first one on,
and the first rule that takes it answers; no rule behind it is asked.  That no rule takes an input
and that an action fails are two different ends.
-/
import FirstMatch.Rule

namespace FirstMatch

variable {σ ν In Out Next E : Type}

/-- No rule took the input; this many were asked. -/
structure NoMatch where
  rules : Nat
  deriving DecidableEq, Repr

namespace NoMatch

/-- The message of an input that no rule took. -/
def message (n : NoMatch) : String :=
  "no case matched the input (" ++ toString n.rules ++ " cases tried)"

end NoMatch

/-- Why a dispatch has no output. -/
inductive Failure (E : Type) where
  | noMatch (reason : NoMatch)
  /-- The action failed; the failure is what it answered. -/
  | action (error : E)
  deriving DecidableEq, Repr

namespace Failure

/-- How many rules were asked in vain, if no rule took the input. -/
def noMatch? : Failure E → Option NoMatch
  | noMatch reason => some reason
  | action _ => none

/-- The failure of the action, if it was the action that failed. -/
def action? : Failure E → Option E
  | noMatch _ => none
  | action error => some error

/-- The message of a failure; an action's failure speaks for itself. -/
def message (describe : E → String) : Failure E → String
  | noMatch reason => reason.message
  | action error => describe error

end Failure

/-- An ordered list of rules, and whether an input that none of them takes is logged. -/
structure Dispatcher (σ ν In Out E : Type) : Type 1 where
  rules : List (Rule σ ν In Out E)
  logUnhandled : Bool

namespace Dispatcher

/-- The dispatcher without rules; it logs nothing. -/
def empty : Dispatcher σ ν In Out E := ⟨[], false⟩

/-- The number of rules. -/
def size (d : Dispatcher σ ν In Out E) : Nat := d.rules.length

/-- Whether there are no rules. -/
def isEmpty (d : Dispatcher σ ν In Out E) : Bool := d.rules.isEmpty

/-- The names of the rules in their order. -/
def labels (d : Dispatcher σ ν In Out E) : List String := d.rules.map Rule.label

/-! ## Combining dispatchers -/

/-- The rules of one dispatcher and behind them those of another.  Unhandled input is logged if
either side asks for it. -/
def orElse (d e : Dispatcher σ ν In Out E) : Dispatcher σ ν In Out E :=
  ⟨d.rules ++ e.rules, d.logUnhandled || e.logUnhandled⟩

/-- The same dispatcher with a map around every action. -/
def map (f : Callback σ ν Out Next) (d : Dispatcher σ ν In Out E) :
    Dispatcher σ ν In Next E :=
  ⟨d.rules.map (Rule.map f), d.logUnhandled⟩

/-! ## Dispatching -/

/-- Asks rules in order whether one takes the input. -/
def anyAccepts : List (Rule σ ν In Out E) → In → Run σ (Event ν) Bool
  | [], _ => pure false
  | r :: rules, x => do if ← r.accepts x then pure true else anyAccepts rules x

/-- Asks rules in order until one answers, and logs the place of that one; the first rule has the
place `index`. -/
def scan (index : Nat) : List (Rule σ ν In Out E) → In →
    Run σ (Event ν) (Option (Except E Out))
  | [], _ => pure none
  | r :: rules, x => do
    match ← r.react? x with
    | some result =>
      Run.emit (.log (.handled index r.label))
      return some result
    | none => scan (index + 1) rules x

/-- Whether some rule takes the input; no action is asked and nothing is logged. -/
def accepts (d : Dispatcher σ ν In Out E) (x : In) : Run σ (Event ν) Bool :=
  anyAccepts d.rules x

/-- The answer of the first rule that takes the input, if there is one. -/
def dispatch? (d : Dispatcher σ ν In Out E) (x : In) :
    Run σ (Event ν) (Option (Except E Out)) := do
  match ← scan 0 d.rules x with
  | some result => return some result
  | none =>
    if d.logUnhandled then Run.emit (.log (.unhandled d.size))
    return none

/-- The output for an input, or why there is none. -/
def dispatch (d : Dispatcher σ ν In Out E) (x : In) :
    Run σ (Event ν) (Except (Failure E) Out) := do
  match ← d.dispatch? x with
  | none => return .error (.noMatch ⟨d.size⟩)
  | some (.ok out) => return .ok out
  | some (.error e) => return .error (.action e)

/-- The answer of the first rule that takes the input, or of the fallback for the whole input. -/
def dispatchOr (d : Dispatcher σ ν In Out E) (fallback : Callback σ ν In (Except E Out))
    (x : In) : Run σ (Event ν) (Except E Out) := do
  match ← d.dispatch? x with
  | some result => return result
  | none => fallback.call .fallback x

/-! ## Sizes and labels -/

/-- The sizes of dispatchers that are chained add up. -/
@[simp] theorem size_orElse (d e : Dispatcher σ ν In Out E) :
    (d.orElse e).size = d.size + e.size := by
  simp [size, orElse]

/-- A map leaves the number of rules. -/
@[simp] theorem size_map (f : Callback σ ν Out Next) (d : Dispatcher σ ν In Out E) :
    (d.map f).size = d.size := by
  simp [size, map]

/-- Without rules there are no names. -/
@[simp] theorem labels_empty : (empty : Dispatcher σ ν In Out E).labels = [] := rfl

/-- The names of the second of two dispatchers stand behind those of the first. -/
@[simp] theorem labels_orElse (d e : Dispatcher σ ν In Out E) :
    (d.orElse e).labels = d.labels ++ e.labels := by
  simp [labels, orElse]

/-- A map leaves the names of the rules. -/
@[simp] theorem labels_map (f : Callback σ ν Out Next) (d : Dispatcher σ ν In Out E) :
    (d.map f).labels = d.labels := by
  simp [labels, map, Function.comp_def]

/-! ## Laws of combination -/

/-- Nothing in front of a dispatcher makes no difference. -/
@[simp] theorem empty_orElse (d : Dispatcher σ ν In Out E) : empty.orElse d = d := by
  simp [orElse, empty]

/-- Nothing behind a dispatcher makes no difference. -/
@[simp] theorem orElse_empty (d : Dispatcher σ ν In Out E) : d.orElse empty = d := by
  simp [orElse, empty]

/-- Three dispatchers that are chained may be grouped in either way. -/
theorem orElse_assoc (a b c : Dispatcher σ ν In Out E) :
    (a.orElse b).orElse c = a.orElse (b.orElse c) := by
  simp [orElse, Bool.or_assoc]

/-- A map reaches the rules of both sides. -/
theorem map_orElse (f : Callback σ ν Out Next) (d e : Dispatcher σ ν In Out E) :
    (d.orElse e).map f = (d.map f).orElse (e.map f) := by
  simp [orElse, map]

end Dispatcher

end FirstMatch
