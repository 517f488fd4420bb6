/-
# Drafts

A draft collects rules in order, and settings.  Compiling it makes a dispatcher of its rules.
Rules behind the first one that takes every input cannot be reached; the settings say whether
that goes unnoticed, is logged, or (when compiling strictly) is an error.
-/
import FirstMatch.Dispatcher
import FirstMatch.Settings.Basic

namespace FirstMatch

variable {σ ν In Out E : Type}

/-- Rules in order, and the settings under which they will be compiled. -/
structure Draft (σ ν In Out E : Type) : Type 1 where
  rules : List (Rule σ ν In Out E) := []
  settings : Settings := .standard

/-- A dispatcher with the log records that were written while it was compiled. -/
structure Compiled (σ ν In Out E : Type) : Type 1 where
  records : List Record
  dispatcher : Dispatcher σ ν In Out E

namespace Draft

/-- The draft without rules, under standard settings. -/
def empty : Draft σ ν In Out E := {}

/-- The number of rules. -/
def size (d : Draft σ ν In Out E) : Nat := d.rules.length

/-- Whether there are no rules. -/
def isEmpty (d : Draft σ ν In Out E) : Bool := d.rules.isEmpty

/-- The names of the rules in their order. -/
def labels (d : Draft σ ν In Out E) : List String := d.rules.map Rule.label

/-- The same draft with a rule behind the others. -/
def add (d : Draft σ ν In Out E) (r : Rule σ ν In Out E) : Draft σ ν In Out E :=
  { d with rules := d.rules ++ [r] }

/-- The same draft under other settings. -/
def withSettings (d : Draft σ ν In Out E) (s : Settings) : Draft σ ν In Out E :=
  { d with settings := s }

/-- The place of the first rule that takes every input. -/
def catchAll? (d : Draft σ ν In Out E) : Option Nat := d.rules.findIdx? Rule.isCatchAll

/-- The rules that cannot be reached, in order: all those behind the first that takes every
input. -/
def unreachable (d : Draft σ ν In Out E) : List Unreachable :=
  match d.catchAll? with
  | none => []
  | some k => (d.rules.zipIdx.drop (k + 1)).map fun (r, i) => ⟨i, r.label, k⟩

/-- The log records of a compilation: the rules that cannot be reached, unless that is tolerated,
and the number of rules. -/
def records (d : Draft σ ν In Out E) : List Record :=
  (if d.settings.unreachable = .tolerate then [] else d.unreachable.map .unreachable)
    ++ [.compiled d.size]

/-- Makes a dispatcher of all rules. -/
def compile (d : Draft σ ν In Out E) : Compiled σ ν In Out E :=
  ⟨d.records, ⟨d.rules, d.settings.logUnhandled⟩⟩

/-- Makes a dispatcher of all rules, unless the settings reject rules that cannot be reached and
there is one. -/
def compileStrict (d : Draft σ ν In Out E) : Except Unreachable (Compiled σ ν In Out E) :=
  match d.settings.unreachable, d.unreachable with
  | .reject, u :: _ => .error u
  | _, _ => .ok d.compile

/-- Compiling keeps the names of the rules. -/
@[simp] theorem labels_compile (d : Draft σ ν In Out E) :
    d.compile.dispatcher.labels = d.labels := rfl

end Draft

end FirstMatch
