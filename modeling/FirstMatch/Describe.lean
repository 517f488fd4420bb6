/-
# How things are shown

Guards, rules, drafts, dispatchers and failures as laid-out values.  What is shown of them are
labels, flags and settings; functions of the user are not shown, so the records that hold some are
open.
-/
import FirstMatch.Draft

namespace FirstMatch

open Text (Layout)

variable {σ ν In Out E View : Type}

namespace Text.Layout

/-- A truth value. -/
def ofBool (b : Bool) : Layout := word (Settings.boolText b)

/-- A number. -/
def ofNat (n : Nat) : Layout := word (toString n)

/-- A list of quoted texts. -/
def ofTexts (texts : List String) : Layout := list (texts.map quoted)

end Text.Layout

/-- A guard is shown by its label and by whether it recognises every input. -/
def Guard.layout (g : Guard σ ν In View) : Layout :=
  .record "Guard" [("label", .quoted g.label), ("accepts_all", .ofBool g.acceptsAll)] true

/-- A condition is shown as a record of which nothing is known. -/
def Condition.layout (_ : Condition σ ν View) : Layout := .record "Predicate" [] true

/-- An action is shown as a record of which nothing is known. -/
def Action.layout (_ : Action σ ν View E Out) : Layout := .record "Handler" [] true

/-- A rule is shown by its guard and by whether it has a condition. -/
def Rule.layout (r : Rule σ ν In Out E) : Layout :=
  .record "CaseEntry"
    [("guard", r.guard.layout), ("has_predicate", .ofBool r.condition.isSome)] true

/-- A draft is shown by the labels of its rules and by its settings. -/
def Draft.layout (d : Draft σ ν In Out E) : Layout :=
  .record "Builder" [("cases", .ofTexts d.labels), ("config", d.settings.layout)] false

/-- A dispatcher is shown by the labels of its rules. -/
def Dispatcher.layout (d : Dispatcher σ ν In Out E) : Layout :=
  .record "Dispatcher" [("cases", .ofTexts d.labels)] true

/-- That no rule took an input is shown with the number of rules. -/
def NoMatch.layout (n : NoMatch) : Layout := .record "NoMatch" [("cases", .ofNat n.rules)] false

/-- A failure is shown as the kind of failure around what caused it. -/
def Failure.layout (describe : E → Layout) : Failure E → Layout
  | noMatch reason => .tuple "NoMatch" [reason.layout]
  | action error => .tuple "Handler" [describe error]

/-- A rule that cannot be reached is shown by its place, its label and the place of the
catch-all. -/
def Unreachable.layout (u : Unreachable) : Layout :=
  .record "UnreachableCase"
    [("index", .ofNat u.index), ("label", .quoted u.label),
      ("catch_all_index", .ofNat u.catchAll)]
    false

end FirstMatch
