/-
# Functions of the user

Guards, conditions, actions and maps are built from functions that a user supplies.  Nothing is
assumed of them: they may use a state that they share, leave notes and panic.  The one way to call
such a function is `Callback.call`, which records the call before the function does its work.
-/
import FirstMatch.Event
import FirstMatch.Run

namespace FirstMatch

/-- A function that a user supplies: what a call of it shows, and what the call does. -/
structure Callback (σ ν α β : Type) where
  shows : α → Option ν
  body : α → Run σ ν β

namespace Callback

variable {σ ν α β γ : Type}

/-- A function without effects whose calls show nothing. -/
def silent (f : α → β) : Callback σ ν α β := ⟨fun _ => none, fun a => pure (f a)⟩

/-- Calls a function: the call is recorded first, then come the notes of the function. -/
def call (role : Role) (f : Callback σ ν α β) (a : α) : Run σ (Event ν) β := fun s =>
  ((f.body a s).mapEvents .note).after [.call role (f.shows a)]

/-- Calls a function inside another one, which can only leave notes: what the call shows becomes
a note. -/
def within (f : Callback σ ν α β) (a : α) : Run σ ν β := fun s =>
  (f.body a s).after (f.shows a).toList

/-- One function after the other, called as one. -/
def andThen (f : Callback σ ν α β) (g : Callback σ ν β γ) : Callback σ ν α γ where
  shows := f.shows
  body a := do
    let b ← f.body a
    g.within b

/-- A call ends as the body of the function does, with its notes behind the record of the call. -/
theorem call_apply (role : Role) (f : Callback σ ν α β) (a : α) (s : σ) :
    f.call role a s =
      ⟨(f.body a s).outcome, .call role (f.shows a) :: (f.body a s).events.map .note,
        (f.body a s).state⟩ := rfl

/-- A call records itself and nothing but notes behind. -/
theorem call_events (role : Role) (f : Callback σ ν α β) (a : α) (s : σ) :
    (f.call role a s).events = .call role (f.shows a) :: (f.body a s).events.map .note := rfl

end Callback

end FirstMatch
