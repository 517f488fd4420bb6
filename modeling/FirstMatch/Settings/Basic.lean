/-
# Settings

The settings of a draft: what happens to rules that cannot be reached, and whether an input that
no rule takes is logged.  Their JSON text is an object with both fields.
-/
import FirstMatch.Settings.Policy

namespace FirstMatch

/-- How a list of rules is compiled, and whether unhandled input is logged. -/
structure Settings where
  unreachable : Policy := .standard
  logUnhandled : Bool := false
  deriving DecidableEq, Repr

namespace Settings

/-- The settings that hold where none are given. -/
def standard : Settings := {}

/-- The same settings with another policy. -/
def withUnreachable (s : Settings) (p : Policy) : Settings := { s with unreachable := p }

/-- The same settings with logging of unhandled input switched on or off. -/
def withLogUnhandled (s : Settings) (b : Bool) : Settings := { s with logUnhandled := b }

/-- The names of the two fields. -/
inductive Field where
  | unreachable
  | logUnhandled
  deriving DecidableEq, Repr

namespace Field

/-- The fields in the order in which they are written and in which a list gives them. -/
def all : List Field := [unreachable, logUnhandled]

/-- The name of a field in texts. -/
def name : Field → String
  | unreachable => "unreachable_cases"
  | logUnhandled => "log_unhandled"

/-- The field with exactly this name. -/
def ofName? (s : String) : Option Field := all.find? fun f => f.name = s

/-- A field is found by its name. -/
@[simp] theorem ofName?_name (f : Field) : ofName? f.name = some f := by
  cases f <;> decide

/-- A text is read exactly if it is the field's name. -/
theorem ofName?_eq_some_iff {s : String} {f : Field} : ofName? s = some f ↔ f.name = s := by
  constructor
  · intro h
    simpa using List.find?_some h
  · rintro rfl
    exact ofName?_name f

end Field

/-- A truth value in texts. -/
def boolText (b : Bool) : String := if b then "true" else "false"

/-- The JSON text of a policy. -/
def policyJson (p : Policy) : String := "\"" ++ p.name ++ "\""

/-- The JSON text of settings, without blanks. -/
def toJson (s : Settings) : String :=
  "\x7b\"" ++ Field.unreachable.name ++ "\":" ++ policyJson s.unreachable
    ++ ",\"" ++ Field.logUnhandled.name ++ "\":" ++ boolText s.logUnhandled ++ "\x7d"

/-- Settings as a laid-out value. -/
def layout (s : Settings) : Text.Layout :=
  .record "DispatchConfig"
    [(Field.unreachable.name, s.unreachable.layout),
      (Field.logUnhandled.name, .word (boolText s.logUnhandled))]
    false

end Settings

end FirstMatch
