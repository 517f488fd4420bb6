/-
# Runs

A function that a user supplies may read and change a shared state, may leave events behind, and
may panic.  A run of such a function takes the state it starts in and ends with an outcome, the
events in the order in which they happened, and the state it leaves.  A panic ends a run at once
and keeps the events and the state up to there.

The monad laws hold as equations of functions (`Run.instLawfulMonad`), so runs may be regrouped
freely.
-/

namespace FirstMatch

universe u v w

/-- How a run ends: with a value, or with a panic and its message. -/
inductive Outcome (α : Type w) where
  | done (value : α)
  | panic (message : String)
  deriving DecidableEq, Repr

/-- What a run leaves behind. -/
structure Ending (σ : Type u) (ω : Type v) (α : Type w) where
  outcome : Outcome α
  events : List ω
  state : σ

namespace Ending

variable {σ τ : Type u} {ω ω' : Type v} {α : Type w}

/-- The same ending with events in front of its own. -/
def after (events : List ω) (e : Ending σ ω α) : Ending σ ω α :=
  ⟨e.outcome, events ++ e.events, e.state⟩

/-- The same ending with every event written in another form. -/
def mapEvents (f : ω → ω') (e : Ending σ ω α) : Ending σ ω' α :=
  ⟨e.outcome, e.events.map f, e.state⟩

/-- The same ending with another state. -/
def mapState (f : σ → τ) (e : Ending σ ω α) : Ending τ ω α := ⟨e.outcome, e.events, f e.state⟩

/-- With no event in front an ending stays as it is. -/
@[simp] theorem after_nil (e : Ending σ ω α) : e.after [] = e := rfl

/-- Events go in front of the events of the ending, and leave its outcome and its state. -/
@[simp] theorem after_mk (events events' : List ω) (o : Outcome α) (s : σ) :
    Ending.after events ⟨o, events', s⟩ = ⟨o, events ++ events', s⟩ := rfl

/-- An ending is its outcome, its events and its state. -/
theorem eq_mk {e : Ending σ ω α} {o : Outcome α} (h : e.outcome = o) :
    e = ⟨o, e.events, e.state⟩ := by
  rw [← h]

/-- Events that are put in front one after the other are put there together. -/
theorem after_after (events events' : List ω) (e : Ending σ ω α) :
    (e.after events').after events = e.after (events ++ events') := by
  simp [after]

end Ending

/-- A computation with a state `σ`, events `ω` and panics, that answers an `α`. -/
def Run (σ : Type u) (ω : Type v) (α : Type w) := σ → Ending σ ω α

namespace Run

variable {σ : Type u} {ω : Type v} {α β γ : Type w}

/-- Runs are equal if they end equally from every state. -/
@[ext] theorem ext {x y : Run σ ω α} (h : ∀ s, x s = y s) : x = y := funext h

/-- A value, with no event and no change of state. -/
protected def pure (a : α) : Run σ ω α := fun s => ⟨.done a, [], s⟩

/-- One run after the other; after a panic the second one does not happen. -/
protected def bind (x : Run σ ω α) (f : α → Run σ ω β) : Run σ ω β := fun s =>
  match x s with
  | ⟨.done a, events, t⟩ => (f a t).after events
  | ⟨.panic message, events, t⟩ => ⟨.panic message, events, t⟩

/-- Runs are put together one behind the other; a panic ends them all. -/
instance : Monad (Run σ ω) where
  pure := Run.pure
  bind := Run.bind

/-- Leaves one event behind. -/
def emit (e : ω) : Run σ ω PUnit := fun s => ⟨.done ⟨⟩, [e], s⟩

/-- Ends with a panic. -/
def panic (message : String) : Run σ ω α := fun s => ⟨.panic message, [], s⟩

/-- Reads the state and replaces it. -/
def update (f : σ → α × σ) : Run σ ω α := fun s =>
  match f s with
  | (a, t) => ⟨.done a, [], t⟩

/-- The same run with every event written in another form. -/
def mapEvents {ω' : Type v} (f : ω → ω') (x : Run σ ω α) : Run σ ω' α := fun s =>
  (x s).mapEvents f

/-- The same run on a part of a larger state. -/
def zoom {τ : Type u} (get : τ → σ) (set : σ → τ → τ) (x : Run σ ω α) : Run τ ω α := fun t =>
  (x (get t)).mapState fun s => set s t

/-- Runs one after the other, each from the state that the one before it left, also when that one
panicked. -/
def series : List (Run σ ω α) → σ → List (Ending σ ω α)
  | [], _ => []
  | x :: xs, s =>
    let e := x s
    e :: series xs e.state

/-! ## Equations -/

/-- A value has no event and leaves the state. -/
@[simp] theorem pure_apply (a : α) (s : σ) : (pure a : Run σ ω α) s = ⟨.done a, [], s⟩ := rfl

/-- An event leaves the state. -/
@[simp] theorem emit_apply (e : ω) (s : σ) :
    (emit e : Run σ ω PUnit) s = ⟨.done ⟨⟩, [e], s⟩ := rfl

/-- The second of two runs starts where the first one ends, unless the first one panics. -/
theorem bind_apply (x : Run σ ω α) (f : α → Run σ ω β) (s : σ) :
    (x >>= f) s = match x s with
      | ⟨.done a, events, t⟩ => (f a t).after events
      | ⟨.panic message, events, t⟩ => ⟨.panic message, events, t⟩ := rfl

/-- Behind a value the second run goes on from the state that the first one left. -/
theorem bind_of_done {x : Run σ ω α} {s t : σ} {a : α} {events : List ω}
    (h : x s = ⟨.done a, events, t⟩) (f : α → Run σ ω β) :
    (x >>= f) s = (f a t).after events := by
  rw [bind_apply, h]

/-- Behind a panic the second run does not happen. -/
theorem bind_of_panic {x : Run σ ω α} {s t : σ} {message : String} {events : List ω}
    (h : x s = ⟨.panic message, events, t⟩) (f : α → Run σ ω β) :
    (x >>= f) s = ⟨.panic message, events, t⟩ := by
  rw [bind_apply, h]

/-- A value in front of a run is handed to it and does nothing else. -/
protected theorem pure_bind (a : α) (f : α → Run σ ω β) : pure a >>= f = f a := by
  ext s
  simp [bind_apply]

/-- To answer with the value that a run ends with is that run. -/
protected theorem bind_pure (x : Run σ ω α) : x >>= pure = x := by
  ext s
  rcases h : x s with ⟨_ | _, events, t⟩ <;> simp [bind_apply, h, Ending.after]

/-- Runs in a row may be grouped in either way. -/
protected theorem bind_assoc (x : Run σ ω α) (f : α → Run σ ω β) (g : β → Run σ ω γ) :
    x >>= f >>= g = x >>= fun a => f a >>= g := by
  ext s
  rcases hx : x s with ⟨a | m, events, t⟩
  · rcases hf : f a t with ⟨b | m, events', t'⟩ <;> simp [bind_apply, hx, hf, Ending.after]
  · simp [bind_apply, hx]

/-- Runs may be regrouped, and values in front of or behind them left out. -/
instance instLawfulMonad : LawfulMonad (Run σ ω) :=
  LawfulMonad.mk' (Run σ ω)
    (fun x => Run.bind_pure x)
    (fun a f => Run.pure_bind a f)
    (fun x f g => Run.bind_assoc x f g)

end Run

end FirstMatch
