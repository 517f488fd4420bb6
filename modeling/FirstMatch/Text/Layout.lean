/-
# Laid-out values

The text of a value is read off a tree: words, quoted texts, lists, records and tuples.  Every
tree has a compact text on one line and a pretty text with one item per line.  A record that
keeps parts of itself back is *open* and ends in two dots.
-/
import FirstMatch.Text.Quoted

namespace FirstMatch.Text

/-- What the text of a value is made of. -/
inductive Layout where
  /-- A text that stands for itself: a number, a name. -/
  | word (text : String)
  /-- A text in double quotes. -/
  | quoted (text : String)
  /-- Items in square brackets. -/
  | list (items : List Layout)
  /-- A name and items in parentheses; without items the name alone. -/
  | tuple (name : String) (items : List Layout)
  /-- A name and named fields in braces; closed and without fields the name alone. -/
  | record (name : String) (fields : List (String × Layout)) (isOpen : Bool)

namespace Layout

/-- Texts with a separator between each two neighbours. -/
def separated (separator : String) : List String → String
  | [] => ""
  | [s] => s
  | s :: t :: rest => s ++ separator ++ separated separator (t :: rest)

/-- The start of a new line at the given depth: four blanks per level. -/
def newLine (depth : Nat) : String := String.ofList ('\n' :: List.replicate (4 * depth) ' ')

/-- Items on lines of their own at the given depth, each with a comma. -/
def itemLines (depth : Nat) : List String → String
  | [] => ""
  | item :: items => newLine depth ++ item ++ "," ++ itemLines depth items

/-- What stands between two brackets of the given depth: the items one level deeper. -/
def block (depth : Nat) (items : List String) : String :=
  itemLines (depth + 1) items ++ newLine depth

/-- The block of an open record: two dots follow the items, without a comma. -/
def openBlock (depth : Nat) (items : List String) : String :=
  itemLines (depth + 1) items ++ newLine (depth + 1) ++ ".." ++ newLine depth

mutual

/-- The text of a tree on one line. -/
def compact : Layout → String
  | word text => text
  | quoted text => Text.quoted text
  | list items => "[" ++ separated ", " (compactItems items) ++ "]"
  | tuple name [] => name
  | tuple name (item :: items) =>
    name ++ "(" ++ separated ", " (compactItems (item :: items)) ++ ")"
  | record name [] false => name
  | record name fields false =>
    name ++ " \x7b " ++ separated ", " (compactFields fields) ++ " \x7d"
  | record name fields true =>
    name ++ " \x7b " ++ separated ", " (compactFields fields ++ [".."]) ++ " \x7d"

/-- The texts of a list's items. -/
def compactItems : List Layout → List String
  | [] => []
  | item :: items => item.compact :: compactItems items

/-- The texts of a record's fields, each behind its name. -/
def compactFields : List (String × Layout) → List String
  | [] => []
  | (name, value) :: fields => (name ++ ": " ++ value.compact) :: compactFields fields

end

mutual

/-- The text of a tree over several lines, for a tree that begins at the given depth. -/
def prettyAt (depth : Nat) : Layout → String
  | word text => text
  | quoted text => Text.quoted text
  | list [] => "[]"
  | list (item :: items) => "[" ++ block depth (prettyItems (depth + 1) (item :: items)) ++ "]"
  | tuple name [] => name
  | tuple name (item :: items) =>
    name ++ "(" ++ block depth (prettyItems (depth + 1) (item :: items)) ++ ")"
  | record name [] false => name
  | record name [] true => name ++ " \x7b .. \x7d"
  | record name (field :: fields) false =>
    name ++ " \x7b" ++ block depth (prettyFields (depth + 1) (field :: fields)) ++ "\x7d"
  | record name (field :: fields) true =>
    name ++ " \x7b" ++ openBlock depth (prettyFields (depth + 1) (field :: fields)) ++ "\x7d"

/-- The texts of a list's items at the given depth. -/
def prettyItems (depth : Nat) : List Layout → List String
  | [] => []
  | item :: items => prettyAt depth item :: prettyItems depth items

/-- The texts of a record's fields at the given depth, each behind its name. -/
def prettyFields (depth : Nat) : List (String × Layout) → List String
  | [] => []
  | (name, value) :: fields =>
    (name ++ ": " ++ prettyAt depth value) :: prettyFields depth fields

end

/-- The text of a tree over several lines. -/
def pretty (layout : Layout) : String := prettyAt 0 layout

/-- Items are written compactly one by one. -/
theorem compactItems_eq_map (items : List Layout) : compactItems items = items.map compact := by
  induction items with
  | nil => simp [compactItems]
  | cons item items ih => simp [compactItems, ih]

/-- Items are written over several lines one by one, all at the same depth. -/
theorem prettyItems_eq_map (depth : Nat) (items : List Layout) :
    prettyItems depth items = items.map (prettyAt depth) := by
  induction items with
  | nil => simp [prettyItems]
  | cons item items ih => simp [prettyItems, ih]

end Layout

end FirstMatch.Text
