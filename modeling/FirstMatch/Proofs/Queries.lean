/-
# Asking without a trace

Dispatchers are used one after the other, and each use goes on from the state that the one before
it left, whether that answered or panicked (`Use.series`).  If the guards and conditions of a
dispatcher leave the state as it is and do not panic, then so does asking whether it accepts an
input.  So such questions may be put in between other uses or taken out again, and none of the
others notices (`Use.series_filter`).

A receiver that asks before it dispatches does therefore the same with its messages as one that just
tries to dispatch them (`receive_alike`).
-/
import FirstMatch.Proofs.Chaining
import FirstMatch.Proofs.Uses

namespace FirstMatch

variable {σ ν In Out E F : Type}

/-! ## Runs that only look -/

/-- A run that ends without a panic and leaves the state as it was; what it answers may depend on
the state. -/
def Run.Looks {ω α : Type} (x : Run σ ω α) : Prop := ∀ s, ∃ a events, x s = ⟨.done a, events, s⟩

namespace Run.Looks

variable {ω α β : Type} {x : Run σ ω α}

/-- To answer with a value is only to look. -/
protected theorem pure (a : α) : (pure a : Run σ ω α).Looks := fun s => ⟨a, [], Run.pure_apply a s⟩

/-- Two runs in a row only look if both do. -/
theorem bind {f : α → Run σ ω β} (hx : x.Looks) (hf : ∀ a, (f a).Looks) : (x >>= f).Looks := by
  intro s
  obtain ⟨a, events, hxs⟩ := hx s
  obtain ⟨b, events', hfs⟩ := hf a s
  exact ⟨b, events ++ events', by rw [Run.bind_of_done hxs, hfs, Ending.after_mk]⟩

/-- A run that only looks leaves the state as it is. -/
theorem state_eq (hx : x.Looks) (s : σ) : (x s).state = s := by
  obtain ⟨a, events, hxs⟩ := hx s
  rw [hxs]

end Run.Looks

/-- The guard and the condition of a rule leave the state as it is and do not panic. -/
structure Rule.Steady (r : Rule σ ν In Out E) : Prop where
  guard (x : In) : (r.guard.view? x).Looks
  condition (c : Condition σ ν r.View) : r.condition = some c → ∀ v, (c.holds v).Looks

/-- A steady rule only looks at an input to say whether it takes it. -/
theorem Rule.Steady.accepts {r : Rule σ ν In Out E} (h : r.Steady) (x : In) :
    (r.accepts x).Looks := by
  have hadmits : ∀ v, (Guard.admits r.condition v).Looks := by
    intro v
    cases hc : r.condition with
    | none => exact .pure true
    | some c => exact h.condition c hc v
  have hselect : (r.select? x).Looks := (h.guard x).bind fun v? => by
    cases v? with
    | none => exact .pure none
    | some v => exact (hadmits v).bind fun b => .pure _
  exact hselect.bind fun v? => .pure _

namespace Dispatcher

/-- The guards and conditions of a dispatcher leave the state as it is and do not panic; nothing is
said of its actions and maps. -/
def Steady (d : Dispatcher σ ν In Out E) : Prop := ∀ r ∈ d.rules, r.Steady

variable {d : Dispatcher σ ν In Out E}

/-- Steady rules in a list only look at an input to say whether one takes it. -/
theorem anyAccepts_looks {rules : List (Rule σ ν In Out E)} (h : ∀ r ∈ rules, r.Steady) (x : In) :
    (anyAccepts rules x).Looks := by
  induction rules with
  | nil => exact .pure false
  | cons r rules ih =>
    refine ((h r List.mem_cons_self).accepts x).bind fun b => ?_
    cases b with
    | false => exact ih fun r' hr' => h r' (List.mem_cons_of_mem _ hr')
    | true => exact .pure true

/-- A steady dispatcher only looks at an input to say whether it accepts it. -/
theorem Steady.accepts (h : d.Steady) (x : In) : (d.accepts x).Looks := anyAccepts_looks h x

/-- A steady dispatcher says before a dispatch whether the dispatch will have an answer. -/
theorem Steady.accepts_iff (h : d.Steady) (x : In) (s : σ) :
    ∃ b events, d.accepts x s = ⟨.done b, events, s⟩
      ∧ (b = false ↔ (d.dispatch? x s).outcome = .done none) := by
  obtain ⟨b, events, haccepts⟩ := h.accepts x s
  refine ⟨b, events, haccepts, ?_⟩
  constructor
  · rintro rfl
    rw [accepts_eq_false_iff_dispatch?.mp haccepts]
  · intro hnone
    cases b with
    | false => rfl
    | true =>
      rcases outcome_of_accepts_true haccepts with ⟨result, hsome⟩ | ⟨message, -, hpanic, -⟩
      · rw [hnone] at hsome
        cases hsome
      · rw [hnone] at hpanic
        cases hpanic

end Dispatcher

/-! ## Uses one after the other -/

/-- A use of a dispatcher, whatever the types of its inputs, outputs and failures. -/
structure Use (σ ν : Type) : Type 1 where
  {In : Type}
  {Out : Type}
  {E : Type}
  dispatcher : Dispatcher σ ν In Out E
  request : InputStep σ ν In Out E

/-- A use that is made from a state. -/
structure Made (σ ν : Type) : Type 1 where
  use : Use σ ν
  start : σ

namespace Use

/-- A use as a run. -/
def run (u : Use σ ν) : Run σ (Event ν) (Answer u.Out u.E) := u.request.ask u.dispatcher

/-- Whether a use only asks if the dispatcher accepts the input. -/
def isQuery (u : Use σ ν) : Bool :=
  match u.request with
  | .accepts _ => true
  | _ => false

/-- Uses made one after the other, each from the state that the one before it left, also when that
one panicked. -/
def series : List (Use σ ν) → σ → List (Made σ ν)
  | [], _ => []
  | u :: us, s => ⟨u, s⟩ :: series us (u.run s).state

/-- The state that uses leave. -/
def final : List (Use σ ν) → σ → σ
  | [], s => s
  | u :: us, s => final us (u.run s).state

end Use

namespace Made

/-- How a use ended: with its answer or a panic, its events, and the state that it left. -/
def ending (m : Made σ ν) : Ending σ (Event ν) (Answer m.use.Out m.use.E) := m.use.run m.start

/-- Whether a use only asked if the dispatcher accepts the input. -/
def isQuery (m : Made σ ν) : Bool := m.use.isQuery

end Made

namespace Use

/-- The events of uses made one after the other. -/
def events (us : List (Use σ ν)) (s : σ) : List (Event ν) :=
  (series us s).flatMap fun m => m.ending.events

/-- A question is a use that asks whether an input is accepted. -/
theorem isQuery_iff {u : Use σ ν} : u.isQuery = true ↔ ∃ x, u.request = .accepts x := by
  rw [isQuery]
  split
  · next x hx => simp [hx]
  · next hne => simpa using hne

/-- Asking a steady dispatcher leaves the state as it was. -/
theorem state_of_isQuery {u : Use σ ν} (hu : u.isQuery = true) (h : u.dispatcher.Steady) (s : σ) :
    (u.run s).state = s := by
  obtain ⟨x, hx⟩ := isQuery_iff.mp hu
  rw [run, hx, InputStep.ask, Run.map_apply]
  exact (h.accepts x).state_eq s

/-- Taking the questions out of a series leaves the other uses as they were made. -/
theorem series_filter {us : List (Use σ ν)}
    (h : ∀ u ∈ us, u.isQuery = true → u.dispatcher.Steady) (s : σ) :
    (series us s).filter (fun m => !m.isQuery) = series (us.filter fun u => !u.isQuery) s
      ∧ final us s = final (us.filter fun u => !u.isQuery) s := by
  induction us generalizing s with
  | nil => exact ⟨rfl, rfl⟩
  | cons u us ih =>
    have hus := fun s => ih (fun u' hu' => h u' (List.mem_cons_of_mem _ hu')) s
    -- a question leaves the state to the uses behind it, and any other use is kept
    cases hu : u.isQuery with
    | true =>
      have hstate := state_of_isQuery hu (h u List.mem_cons_self hu) s
      rw [series, final, List.filter_cons_of_neg (by simp [Made.isQuery, hu]),
        List.filter_cons_of_neg (by simp [hu]), hstate]
      exact hus s
    | false =>
      obtain ⟨hseries, hfinal⟩ := hus (u.run s).state
      rw [series, final, List.filter_cons_of_pos (by simp [Made.isQuery, hu]),
        List.filter_cons_of_pos (by simp [hu]), series, final, hseries, hfinal]
      exact ⟨rfl, rfl⟩

end Use

/-! ## Runs that differ in their events only -/

/-- Two runs that end alike, but for their events. -/
def Run.EndsAs {ω ω' α : Type} (x : Run σ ω α) (y : Run σ ω' α) : Prop :=
  ∀ s, (x s).outcome = (y s).outcome ∧ (x s).state = (y s).state

namespace Run.EndsAs

variable {ω ω' α β τ : Type} {x : Run σ ω α} {y : Run σ ω' α}

/-- Two runs in a row end alike if each of them does. -/
theorem bind {f : α → Run σ ω β} {g : α → Run σ ω' β} (h : x.EndsAs y)
    (hfg : ∀ a, (f a).EndsAs (g a)) : (x >>= f).EndsAs (y >>= g) := by
  intro s
  obtain ⟨houtcome, hstate⟩ := h s
  rw [Run.bind_apply, Run.bind_apply]
  rcases hx : x s with ⟨o, events, t⟩
  rcases hy : y s with ⟨o', events', t'⟩
  rw [hx, hy] at houtcome hstate
  obtain rfl : o = o' := houtcome
  obtain rfl : t = t' := hstate
  cases o with
  | done a => exact hfg a t
  | panic message => exact ⟨rfl, rfl⟩

/-- Runs that end alike do so on a part of a larger state. -/
theorem zoom (h : x.EndsAs y) (get : τ → σ) (set : σ → τ → τ) :
    (x.zoom get set).EndsAs (y.zoom get set) := by
  intro t
  obtain ⟨houtcome, hstate⟩ := h (get t)
  exact ⟨houtcome, congrArg (fun s => set s t) hstate⟩

end Run.EndsAs

/-! ## Receivers -/

/-- What a receiver has done with messages: those that it handled, with what came of them, and those
that it set aside. -/
structure Desk (In Out F : Type) where
  handled : List (In × Except F Out) := []
  aside : List In := []

namespace Desk

/-- One more message is handled. -/
def handle (x : In) (result : Except F Out) (desk : Desk In Out F) : Desk In Out F :=
  { desk with handled := desk.handled ++ [(x, result)] }

/-- One more message is set aside. -/
def setAside (x : In) (desk : Desk In Out F) : Desk In Out F :=
  { desk with aside := desk.aside ++ [x] }

end Desk

/-- Takes messages one after the other: handles those that have a result, and sets aside the others.
A panic ends that, and the desk stays as it is then. -/
def receive (take : In → Run σ (Event ν) (Option (Except F Out))) :
    List In → Run (σ × Desk In Out F) (Event ν) Unit
  | [] => pure ()
  | x :: xs => do
    match ← (take x).zoom Prod.fst fun s t => (s, t.2) with
    | some result => Run.update fun t => ((), t.1, t.2.handle x result)
    | none => Run.update fun t => ((), t.1, t.2.setAside x)
    receive take xs

namespace Dispatcher

/-- Asks whether the dispatcher accepts a message, and dispatches it if it does. -/
def askFirst (d : Dispatcher σ ν In Out E) (x : In) :
    Run σ (Event ν) (Option (Except (Failure E) Out)) := do
  if ← d.accepts x then some <$> d.dispatch x else pure none

/-- Tries to dispatch a message; a failure of an action is reported as a dispatch would do it. -/
def justTry (d : Dispatcher σ ν In Out E) (x : In) :
    Run σ (Event ν) (Option (Except (Failure E) Out)) :=
  Option.map (Except.mapError .action) <$> d.dispatch? x

/-- Asking a steady dispatcher first makes no difference to what comes of a message. -/
theorem Steady.askFirst_endsAs {d : Dispatcher σ ν In Out E} (h : d.Steady) (x : In) :
    (d.askFirst x).EndsAs (d.justTry x) := by
  intro s
  obtain ⟨b, events, haccepts, hfalse⟩ := h.accepts_iff x s
  rw [askFirst, Run.bind_of_done haccepts, justTry, Run.map_apply]
  -- where no rule takes the message both set it aside; else both dispatch it from one state
  cases b with
  | false =>
    have hdispatch := accepts_eq_false_iff_dispatch?.mp haccepts
    rw [hdispatch]
    exact ⟨rfl, rfl⟩
  | true =>
    have hne : (d.dispatch? x s).outcome ≠ .done none := by simpa using hfalse
    rw [if_pos rfl, Run.map_apply, dispatch_eq_map, Run.map_apply]
    rcases hd : d.dispatch? x s with ⟨(_ | _ | _) | message, events', t⟩
    · rw [hd] at hne
      exact absurd rfl hne
    · exact ⟨rfl, rfl⟩
    · exact ⟨rfl, rfl⟩
    · exact ⟨rfl, rfl⟩

end Dispatcher

/-- Receivers do the same if what they make of each message ends alike. -/
theorem receive_alike {take take' : In → Run σ (Event ν) (Option (Except F Out))}
    (h : ∀ x, (take x).EndsAs (take' x)) (xs : List In) :
    (receive take xs).EndsAs (receive take' xs) := by
  induction xs with
  | nil => exact fun s => ⟨rfl, rfl⟩
  | cons x xs ih =>
    refine ((h x).zoom _ _).bind fun result? => ?_
    cases result? with
    | none => exact Run.EndsAs.bind (fun s => ⟨rfl, rfl⟩) fun _ => ih
    | some result => exact Run.EndsAs.bind (fun s => ⟨rfl, rfl⟩) fun _ => ih

/-- Asking whether a dispatcher accepts an input leaves no trace, if the guards and conditions of
the dispatcher leave the state as it is and do not panic.  Two series of uses of any dispatchers
that differ in such questions only have the same other uses, made from the same states and so with
the same answers, panics and events, and they leave the same state.  The answer to such a question
says whether a dispatch right behind it finds a rule.  And a receiver that asks before it
dispatches handles the same messages with the same results, and sets aside the same ones in the
same order, as one that just tries, and both leave the same state or end with the same panic. -/
theorem queries_leave_no_trace :
    (∀ (us us' : List (Use σ ν)) (s : σ),
      (∀ u ∈ us ++ us', u.isQuery = true → u.dispatcher.Steady) →
      us.filter (fun u => !u.isQuery) = us'.filter (fun u => !u.isQuery) →
      (Use.series us s).filter (fun m => !m.isQuery)
        = (Use.series us' s).filter (fun m => !m.isQuery)
      ∧ Use.final us s = Use.final us' s)
    ∧ (∀ (d : Dispatcher σ ν In Out E) (x : In) (s : σ), d.Steady →
      ∃ b, (d.accepts x s).outcome = .done b ∧ (b = true ↔ ∀ reason,
        (d.dispatch x (d.accepts x s).state).outcome ≠ .done (.error (.noMatch reason))))
    ∧ ∀ (d : Dispatcher σ ν In Out E) (xs : List In) (s : σ) (desk : Desk In Out (Failure E)),
      d.Steady →
      (receive d.askFirst xs (s, desk)).outcome = (receive d.justTry xs (s, desk)).outcome
      ∧ (receive d.askFirst xs (s, desk)).state = (receive d.justTry xs (s, desk)).state := by
  refine ⟨fun us us' s hsteady hfilter => ?_, fun d x s h => ?_, fun d xs s desk h => ?_⟩
  · have hus := Use.series_filter (fun u hu => hsteady u (List.mem_append_left us' hu)) s
    have hus' := Use.series_filter (fun u hu => hsteady u (List.mem_append_right us hu)) s
    rw [hus.1, hus'.1, hus.2, hus'.2, hfilter]
    exact ⟨rfl, rfl⟩
  · obtain ⟨b, events, haccepts, hfalse⟩ := h.accepts_iff x s
    rw [haccepts]
    refine ⟨b, rfl, ?_⟩
    simp only [ne_eq, Dispatcher.dispatch_eq_noMatch_iff, ← hfalse]
    cases b <;> simp
  · exact receive_alike h.askFirst_endsAs xs (s, desk)

namespace Dispatcher.Sample

/-- A test that holds of numbers above the state; it notes the state and leaves it as it is. -/
def above : Callback Nat Nat Nat Bool where
  shows _ := none
  body x n := ⟨.done (decide (n < x)), [n], n⟩

/-- Answers with a number, which becomes the state. -/
def climb : Callback Nat Nat Nat (Except String Nat) where
  shows x := some x
  body x _ := ⟨.done (.ok x), [], x⟩

/-- Takes every number above the ones that it took before. -/
def climbing : Dispatcher Nat Nat Nat Nat String := ⟨[.answeringIf .any above climb], true⟩

/-- The test of the sample reads the state and leaves it. -/
theorem steady_climbing : climbing.Steady := by
  intro r hr
  obtain rfl := List.mem_singleton.mp hr
  refine ⟨fun x => .pure _, fun c hc v => ?_⟩
  obtain rfl := Option.some.inj hc
  exact fun s => ⟨_, _, rfl⟩

/-- Two dispatches with a question before each of them. -/
def questioned : List (Use Nat Nat) :=
  [⟨climbing, .accepts 7⟩, ⟨climbing, .dispatch 3⟩, ⟨climbing, .accepts 2⟩,
    ⟨climbing, .dispatch? 5⟩]

/-- The same dispatches alone. -/
def unquestioned : List (Use Nat Nat) := [⟨climbing, .dispatch 3⟩, ⟨climbing, .dispatch? 5⟩]

end Dispatcher.Sample

open Dispatcher.Sample (climbing steady_climbing questioned unquestioned) in
/-- The questions leave no trace; and a receiver that asks first handles the numbers that climb. -/
theorem queries_leave_no_trace_climbing :
    climbing.Steady
    ∧ (Use.series questioned 0).filter (fun m => !m.isQuery)
      = (Use.series unquestioned 0).filter (fun m => !m.isQuery)
    ∧ Use.final questioned 0 = 5
    ∧ (∃ b, (climbing.accepts 2 3).outcome = .done b ∧ (b = true ↔ ∀ reason,
      (climbing.dispatch 2 (climbing.accepts 2 3).state).outcome
        ≠ .done (.error (.noMatch reason))))
    ∧ (receive climbing.askFirst [3, 2, 5] (0, {})).state
      = (5, ⟨[(3, .ok 3), (5, .ok 5)], [2]⟩) := by
  have hsteady : ∀ u ∈ questioned ++ unquestioned, u.isQuery = true → u.dispatcher.Steady := by
    intro u hu _
    simp only [questioned, unquestioned, List.cons_append, List.nil_append, List.mem_cons,
      List.not_mem_nil, or_false] at hu
    rcases hu with rfl | rfl | rfl | rfl | rfl | rfl <;> exact steady_climbing
  obtain ⟨hseries, hask, hreceive⟩ :=
    @queries_leave_no_trace Nat Nat Nat Nat String
  obtain ⟨hsame, hfinal⟩ := hseries questioned unquestioned 0 hsteady rfl
  exact ⟨steady_climbing, hsame, hfinal.trans rfl, hask climbing 2 3 steady_climbing,
    (hreceive climbing [3, 2, 5] 0 {} steady_climbing).2.trans rfl⟩

end FirstMatch
