/-
# Scripted guards and rules

Guards over a world that are given by data, the views that they recognise, and rules made of a
guard, a criterion and a response.
-/
import FirstMatch.Rule
import FirstMatch.Script.Function

namespace FirstMatch.Script

/-- Families of values, whatever their kind. -/
inductive Family where
  /-- Values with a number. -/
  | numeric
  /-- Values with a text. -/
  | textual
  /-- All values. -/
  | known
  deriving DecidableEq, Repr

/-- Whether a value with these facets belongs to a family. -/
def Family.contains (f : Facets) : Family → Bool
  | numeric => f.number.isSome
  | textual => f.text.isSome
  | known => true

/-- A guard over a world. -/
inductive Recognizer (W : World) where
  | exact (kind : W.Kind)
  | equals (kind : W.Kind) (literal : W.Carrier kind)
  /-- Values of a kind that meet a criterion, if one is given. -/
  | structural (label tag : String) (kind : W.Kind) (criterion : Option Criterion)
  /-- Values of a family. -/
  | family (label tag : String) (family : Family)
  | any
  /-- Whole inputs that meet a criterion. -/
  | whole (label tag : String) (criterion : Criterion)

namespace World

variable (W : World)

/-- A whole input as it is shown. -/
def shown (x : W.Input) : String := (W.inputLayout x).compact

/-- Sees an input as a value of a kind. -/
def narrowing (k : W.Kind) : Callback Tally Note W.Input (Option (W.Carrier k)) where
  shows x := (W.narrowNote k).map fun variant => .narrow variant (W.shown x)
  body x := pure (W.narrow k x)

/-- Compares two values of a kind. -/
def comparison (k : W.Kind) : Callback Tally Note (W.Carrier k × W.Carrier k) Bool where
  shows p :=
    if W.notesComparison k then some (.compare (W.facets k p.1).shown (W.facets k p.2).shown)
    else none
  body p := pure (W.same k p.1 p.2)

end World

namespace Recognizer

variable {W : World}

/-- What a guard recognises in an input. -/
def View : Recognizer W → Type
  | exact k => W.Carrier k
  | equals k _ => W.Carrier k
  | structural _ _ k _ => W.Carrier k
  | family .. => W.Value
  | any => W.Input
  | whole .. => W.Input

/-- What scripts know of a view. -/
def facets : (g : Recognizer W) → g.View → Facets
  | exact k => W.facets k
  | equals k _ => W.facets k
  | structural _ _ k _ => W.facets k
  | family .. => W.valueFacets
  | any => W.inputFacets
  | whole .. => W.inputFacets

/-- The function that finds values of a kind under a tag. -/
def finder (W : World) (tag : String) (k : W.Kind) :
    Callback Tally Note W.Input (Option (W.Carrier k)) where
  shows x := some (.guard tag (W.shown x))
  body := (W.narrowing k).within

/-- The function that finds values of a family under a tag. -/
def familyFinder (W : World) (tag : String) (f : Family) :
    Callback Tally Note W.Input (Option W.Value) where
  shows x := some (.guard tag (W.shown x))
  body x := pure ((W.content x).filter fun v => f.contains (W.valueFacets v))

/-- The function that tests whole inputs under a tag. -/
def wholeTest (W : World) (tag : String) (c : Criterion) : Callback Tally Note W.Input Bool where
  shows x := some (.guard tag (W.shown x))
  body := (c.condition W.inputFacets).holdsWithin

/-- A scripted guard as a guard. -/
def guard : (g : Recognizer W) → Guard Tally Note W.Input g.View
  | exact k => .exact (W.kindName k) (W.narrowing k)
  | equals k literal =>
    .equals (W.facets k literal).shown (W.narrowing k) (W.comparison k) literal
  | structural label tag k none => .structural label (finder W tag k)
  | structural label tag k (some c) =>
    .structural label ((finder W tag k).keeping (c.condition (W.facets k)))
  | family label tag f => .structural label (familyFinder W tag f)
  | any => .any
  | whole label tag c => .whole label (wholeTest W tag c)

/-- The rule that answers for what a guard recognises. -/
def rule (g : Recognizer W) (criterion : Option Criterion) (tag : String) (response : Response) :
    Rule Tally Note W.Input Output Fail where
  guard := g.guard
  condition := criterion.map fun c => c.condition g.facets
  action := .answer (response.callback tag g.facets)

end Recognizer

end FirstMatch.Script
