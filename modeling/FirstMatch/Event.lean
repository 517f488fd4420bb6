/-
# Events

While an input is dispatched, functions of the user are called and log records are written.  An
event is one of these, or a note that a function left while it worked.  A call says in which role
the function was called and, if the caller wants that shown, on what.

The *entries* of a list of events are what a watcher sees who cannot tell a call from a note.
-/

namespace FirstMatch

/-- A rule that stands behind one that accepts everything. -/
structure Unreachable where
  /-- The place of the rule. -/
  index : Nat
  label : String
  /-- The place of the first rule that accepts everything. -/
  catchAll : Nat
  deriving DecidableEq, Repr

namespace Unreachable

/-- The message of an unreachable rule. -/
def message (u : Unreachable) : String :=
  "case " ++ toString u.index ++ " (" ++ u.label
    ++ ") is unreachable after the catch-all case at " ++ toString u.catchAll

end Unreachable

/-- How much a log record matters. -/
inductive Level where
  | warn
  | debug
  | trace
  deriving DecidableEq, Repr

/-- A log record. -/
inductive Record where
  /-- A list of rules was compiled although one of them cannot be reached. -/
  | unreachable (rule : Unreachable)
  /-- A list of this many rules was compiled. -/
  | compiled (rules : Nat)
  /-- The rule at this place took the input. -/
  | handled (index : Nat) (label : String)
  /-- None of this many rules took the input. -/
  | unhandled (rules : Nat)
  deriving DecidableEq, Repr

namespace Record

/-- A value in the fields of a record. -/
inductive Value where
  | number (n : Nat)
  | text (s : String)
  deriving DecidableEq, Repr

/-- The place to which all records are addressed. -/
def target : String := "casematch::dispatch"

/-- The level at which a record is logged. -/
def level : Record → Level
  | unreachable _ => .warn
  | compiled _ => .debug
  | handled .. => .trace
  | unhandled _ => .debug

/-- The message of a record. -/
def message : Record → String
  | unreachable _ => "dispatcher contains an unreachable case"
  | compiled _ => "compiled dispatcher"
  | handled .. => "case handled input"
  | unhandled _ => "no case matched input"

/-- The named values of a record. -/
def fields : Record → List (String × Value)
  | unreachable rule => [("error", .text rule.message)]
  | compiled rules => [("cases", .number rules)]
  | handled index label => [("index", .number index), ("case", .text label)]
  | unhandled rules => [("cases", .number rules)]

end Record

/-- What a function of the user is called for. -/
inductive Role where
  /-- To recognise the input as a whole. -/
  | guard
  /-- To see the input as a value of a type or variant. -/
  | narrow
  /-- To compare a value with a literal. -/
  | compare
  /-- To test a narrowed value. -/
  | condition
  /-- To answer for a narrowed value. -/
  | action
  /-- To turn an output into another. -/
  | map
  /-- To answer for an input that no rule takes. -/
  | fallback
  deriving DecidableEq, Repr

/-- What happens during a dispatch; `ν` is what functions note. -/
inductive Event (ν : Type) where
  | call (role : Role) (note : Option ν)
  | note (n : ν)
  | log (record : Record)
  deriving DecidableEq, Repr

/-- What a watcher sees of an event. -/
inductive Entry (ν : Type) where
  | note (n : ν)
  | log (record : Record)
  deriving DecidableEq, Repr

namespace Event

variable {ν : Type}

/-- A call is seen by what it shows, if it shows anything. -/
def entry? : Event ν → Option (Entry ν)
  | call _ shown => shown.map .note
  | note n => some (.note n)
  | log record => some (.log record)

/-- What a watcher sees of events. -/
def entries (events : List (Event ν)) : List (Entry ν) := events.filterMap entry?

/-- The note of an event, or what a call shows. -/
def shown? : Event ν → Option ν
  | call _ shown => shown
  | note n => some n
  | log _ => none

/-- Whether an event is a call in the given role. -/
def isCall (role : Role) : Event ν → Bool
  | call r _ => r == role
  | _ => false

/-- The log record of an event. -/
def record? : Event ν → Option Record
  | log record => some record
  | _ => none

/-- The log of two series of events is the one log behind the other. -/
@[simp] theorem entries_append (xs ys : List (Event ν)) :
    entries (xs ++ ys) = entries xs ++ entries ys := by
  simp [entries]

end Event

end FirstMatch
