/-
# Shapes

The closed world: a shape is a circle, a square or a label.  Circles and squares hold a number; a
label holds nothing.  Seeing a shape as one of its variants is noted.
-/
import FirstMatch.Script.Whole
import FirstMatch.Script.World

namespace FirstMatch.Script

open Text (Layout)

/-- The variants of shapes that hold a value. -/
inductive Outline where
  | circle
  | square
  deriving DecidableEq, Repr

/-- A circle with its radius, a square with its side, or a label. -/
inductive Shape where
  | circle (radius : Whole .u32)
  | square (side : Whole .u32)
  | label

namespace Outline

/-- The name under which the narrowing to a variant is noted. -/
def name : Outline → String
  | circle => "circle"
  | square => "square"

/-- The name of a variant in texts. -/
def title : Outline → String
  | circle => "Circle"
  | square => "Square"

/-- The name of the number that a variant holds. -/
def measure : Outline → String
  | circle => "radius"
  | square => "side"

/-- A variant is shown with the number that it holds. -/
def layout (k : Outline) (n : Whole .u32) : Layout :=
  .record k.title [(k.measure, .word (toString n.val))] false

end Outline

namespace Shape

/-- The variant of a shape with its number; a label has none. -/
def content : Shape → Option (Σ _ : Outline, Whole .u32)
  | circle radius => some ⟨.circle, radius⟩
  | square side => some ⟨.square, side⟩
  | label => none

/-- How a shape is shown: what it holds inside the name of its variant. -/
def layout : Shape → Layout
  | circle radius => .tuple Outline.circle.title [Outline.circle.layout radius]
  | square side => .tuple Outline.square.title [Outline.square.layout side]
  | label => .word "Label"

end Shape

/-- The world of shapes. -/
def World.shapes : World where
  Input := Shape
  Kind := Outline
  decidableKind := inferInstance
  Carrier _ := Whole .u32
  content := Shape.content
  kindName k := "oracle_driver::" ++ k.title
  facets k n := .ofNumber n.val (k.layout n)
  same _ a b := decide (a = b)
  inputLayout := Shape.layout
  narrowNote k := some k.name
  notesComparison _ := false

end FirstMatch.Script
