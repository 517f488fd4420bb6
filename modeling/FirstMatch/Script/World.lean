/-
# Worlds of scripted values

Scripts are about values that can be shown, compared and measured.  A world is a domain of input
with these abilities; what is known of a value in every world are its facets.
-/
import FirstMatch.Domain
import FirstMatch.Text.Layout

namespace FirstMatch.Script

open Text (Layout)

/-- What scripts know of a value: how it is shown, and its number, its text and its size if it has
them. -/
structure Facets where
  layout : Layout
  number : Option Int := none
  text : Option String := none
  size : Option Nat := none

namespace Facets

/-- The text of a value on one line. -/
def shown (f : Facets) : String := f.layout.compact

/-- A value that is a number. -/
def ofNumber (n : Int) (layout : Layout) : Facets := { layout, number := some n }

/-- A value that is a text; its size is the number of its bytes. -/
def ofText (s : String) (layout : Layout) : Facets :=
  { layout, text := some s, size := some s.utf8ByteSize }

end Facets

/-- A domain of input whose values can be shown, compared and measured. -/
structure World extends Domain where
  /-- The name of a kind of values. -/
  kindName : Kind → String
  facets : (k : Kind) → Carrier k → Facets
  /-- Whether two values of a kind are equal; not every value need equal itself. -/
  same : (k : Kind) → Carrier k → Carrier k → Bool
  /-- How a whole input is shown. -/
  inputLayout : Input → Layout
  /-- The name under which the narrowing to a kind is noted, if it is. -/
  narrowNote : Kind → Option String
  /-- Whether comparisons of a kind are noted. -/
  notesComparison : Kind → Bool

namespace World

variable (W : World)

/-- The facets of a value of some kind. -/
def valueFacets (v : W.Value) : Facets := W.facets v.1 v.2

/-- A whole input is shown in its own way and has the other facets of the value that it holds. -/
def inputFacets (x : W.Input) : Facets :=
  match W.content x with
  | some v => { W.valueFacets v with layout := W.inputLayout x }
  | none => { layout := W.inputLayout x }

end World

end FirstMatch.Script
