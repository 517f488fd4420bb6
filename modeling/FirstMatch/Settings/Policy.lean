/-
# What to do about rules that cannot be reached

A rule behind one that accepts everything is dead.  The policy says whether that is tolerated,
reported, or a reason to refuse the whole list.  A policy has a name in small letters; read from
plain text its ASCII letters may be of either case, and nothing is trimmed.
-/
import FirstMatch.Text.Layout

namespace FirstMatch

/-- What happens to rules that cannot be reached. -/
inductive Policy where
  | tolerate
  | warn
  | reject
  deriving DecidableEq, Repr

namespace Policy

/-- The policy that holds where none is given. -/
def standard : Policy := warn

/-- All policies, in the order in which messages list them. -/
def all : List Policy := [tolerate, warn, reject]

/-- The name of a policy. -/
def name : Policy → String
  | tolerate => "tolerate"
  | warn => "warn"
  | reject => "reject"

/-- The policy with exactly this name. -/
def ofName? (s : String) : Option Policy := all.find? fun p => p.name = s

/-- Why a plain text is no policy. -/
inductive TextError where
  | unknownName
  deriving DecidableEq, Repr

/-- The message of a refused text. -/
def TextError.message : TextError → String
  | unknownName => "Matching variant not found"

/-- The policy with this name, when an ASCII capital counts as its small letter. -/
def ofText (s : String) : Except TextError Policy :=
  match ofName? (String.ofList (s.toList.map Char.toLower)) with
  | some p => .ok p
  | none => .error .unknownName

/-- A policy as a laid-out value. -/
def layout : Policy → Text.Layout
  | tolerate => .word "Tolerate"
  | warn => .word "Warn"
  | reject => .word "Reject"

/-- A policy is found by its name. -/
@[simp] theorem ofName?_name (p : Policy) : ofName? p.name = some p := by
  cases p <;> decide

/-- A text is read exactly if it is the policy's name. -/
theorem ofName?_eq_some_iff {s : String} {p : Policy} : ofName? s = some p ↔ p.name = s := by
  constructor
  · intro h
    simpa using List.find?_some h
  · rintro rfl
    exact ofName?_name p

end Policy

end FirstMatch
