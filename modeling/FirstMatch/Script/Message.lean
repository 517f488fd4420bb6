/-
# Messages of any kind

The open world: a message is a value of one of many kinds, or a box around another message.  A box
is not looked into.
-/
import FirstMatch.Decimal.Notation
import FirstMatch.Script.Whole
import FirstMatch.Script.World

namespace FirstMatch.Script

open Text (Layout)

/-- Floating-point values are shown plainly from `1e-4` up to `1e16`, exponents have no plus sign,
and of two equally near decimals the larger one is taken. -/
def valueNotation : Decimal.Notation := ⟨-4, 16, false, .up⟩

/-- The kinds of values in messages. -/
inductive Kind where
  | unit
  | bool
  | whole (w : Width)
  | float
  | char
  /-- A text of its own. -/
  | string
  /-- A text that is part of the program. -/
  | literal
  | list
  | optional
  | pair
  | point
  | greeting
  | stop
  | tracked
  deriving DecidableEq, Repr

/-- A point in the plane. -/
structure Point where
  x : Whole .i32
  y : Whole .i32
  deriving DecidableEq

namespace Kind

/-- The values of a kind. -/
abbrev Carrier : Kind → Type
  | unit => Unit
  | bool => Bool
  | whole w => Whole w
  | float => Float
  | char => Char
  | string => String
  | literal => String
  | list => List (Whole .i32)
  | optional => Option (Whole .i32)
  | pair => Whole .i32 × String
  | point => Point
  | greeting => String
  | stop => Unit
  | tracked => Whole .i64

/-- The name of a kind. -/
def name : Kind → String
  | unit => "()"
  | bool => "bool"
  | whole w => w.name
  | float => "f64"
  | char => "char"
  | string => "alloc::string::String"
  | literal => "&str"
  | list => "alloc::vec::Vec<i32>"
  | optional => "core::option::Option<i32>"
  | pair => "(i32, alloc::string::String)"
  | point => "oracle_driver::Point"
  | greeting => "oracle_driver::Greet"
  | stop => "oracle_driver::Stop"
  | tracked => "oracle_driver::Tracked"

/-- A whole number as a laid-out value. -/
def wholeLayout {w : Width} (n : Whole w) : Layout := .word (toString n.val)

/-- What scripts know of a value. -/
def facets : (k : Kind) → k.Carrier → Facets
  | unit, _ => { layout := .word "()" }
  | bool, b => { layout := .word (if b then "true" else "false") }
  | whole _, n => .ofNumber n.val (wholeLayout n)
  | float, x => { layout := .word (valueNotation.text x) }
  | char, c => { layout := .word (Text.quotedChar c) }
  | string, s => .ofText s (.quoted s)
  | literal, s => .ofText s (.quoted s)
  | list, ns => { layout := .list (ns.map wholeLayout), size := some ns.length }
  | optional, none => { layout := .word "None" }
  | optional, some n => { layout := .tuple "Some" [wholeLayout n] }
  | pair, (n, s) => { layout := .tuple "" [wholeLayout n, .quoted s] }
  | point, p =>
    { layout := .record "Point" [("x", wholeLayout p.x), ("y", wholeLayout p.y)] false }
  | greeting, s => .ofText s (.tuple "Greet" [.quoted s])
  | stop, _ => { layout := .word "Stop" }
  | tracked, n => .ofNumber n.val (.tuple "Tracked" [wholeLayout n])

/-- Whether two values of a kind are equal: floating-point values as such, so that what is not a
number differs from itself and the two zeros are equal; all others if they are the same. -/
def same : (k : Kind) → k.Carrier → k.Carrier → Bool
  | unit, _, _ => true
  | bool, a, b => a == b
  | whole _, a, b => decide (a = b)
  | float, a, b => a == b
  | char, a, b => a == b
  | string, a, b => a == b
  | literal, a, b => a == b
  | list, a, b => decide (a = b)
  | optional, a, b => decide (a = b)
  | pair, a, b => decide (a = b)
  | point, a, b => decide (a = b)
  | greeting, a, b => a == b
  | stop, _, _ => true
  | tracked, a, b => decide (a = b)

end Kind

/-- A value of any kind, or a box around a message. -/
inductive Message where
  | plain (v : Σ k : Kind, k.Carrier)
  | boxed (inner : Message)

namespace Message

/-- The value of a message; a box holds none. -/
def content : Message → Option (Σ k : Kind, k.Carrier)
  | plain v => some v
  | boxed _ => none

/-- How a message is shown. -/
def layout : Message → Layout
  | plain v => (v.1.facets v.2).layout
  | boxed inner => .tuple "boxed" [inner.layout]

end Message

/-- The world of messages of any kind.  Only comparisons of tracked values are noted. -/
def World.messages : World where
  Input := Message
  Kind := Kind
  decidableKind := inferInstance
  Carrier := Kind.Carrier
  content := Message.content
  kindName := Kind.name
  facets := Kind.facets
  same := Kind.same
  inputLayout := Message.layout
  narrowNote _ := none
  notesComparison k := k = .tracked

end FirstMatch.Script
