/-
# Selection before action

A dispatch has two phases.  While a rule is selected only guards, narrowings, comparisons and
conditions are called; then only an action and its maps are.  Asking whether a dispatcher accepts an
input is the first phase and nothing else: it ends as the first phase of a dispatch does, with the
same events and in the same state.

The phase in which a run panics can be seen from its events, since every call is an event of its own
and a function inside a call leaves notes only: it is the phase of the last call.
-/
import FirstMatch.Proofs.FirstRule

namespace FirstMatch

variable {σ ν In Out E View : Type}

/-! ## Phases of roles -/

/-- Whether functions in a role are called while a rule is selected. -/
def Role.selects : Role → Bool
  | guard | narrow | compare | condition => true
  | action | map | fallback => false

/-- Whether functions in a role are called when a rule was selected. -/
def Role.answers : Role → Bool
  | action | map => true
  | guard | narrow | compare | condition | fallback => false

/-- The role in which an event is a call. -/
def Event.role? : Event ν → Option Role
  | call role _ => some role
  | note _ => none
  | log _ => none

/-- The role of the last call among events. -/
def Event.lastRole? (events : List (Event ν)) : Option Role := (events.filterMap role?).getLast?

namespace Transcript

/-- Every call of a transcript is one event. -/
theorem Happens.roles {s t : σ} {calls : Transcript σ ν} {events : List (Event ν)}
    (h : Happens s calls events t) : events.filterMap Event.role? = calls.map Exchange.role := by
  induction h with
  | nil s => rfl
  | @cons c calls events events' s t u hc _ ih =>
    have hevents := congrArg Ending.events hc
    rw [Callback.call_events] at hevents
    rw [List.filterMap_append, ih, List.map_cons, ← show _ = events from hevents]
    simp [Event.role?]

/-- The events of a transcript are notes and its calls. -/
theorem Happens.mem_events {s t : σ} {calls : Transcript σ ν} {events : List (Event ν)}
    (h : Happens s calls events t) {e : Event ν} (he : e ∈ events) :
    (∃ n, e = .note n) ∨ ∃ c ∈ calls, e = .call c.role (c.function.shows c.argument) := by
  induction h with
  | nil s => simp at he
  | @cons c calls events events' s t u hc _ ih =>
    have hevents := congrArg Ending.events hc
    rw [Callback.call_events] at hevents
    rcases List.mem_append.mp he with he | he
    · rw [← show _ = events from hevents] at he
      rcases List.mem_cons.mp he with rfl | he
      · exact .inr ⟨c, List.mem_cons_self, rfl⟩
      · obtain ⟨n, -, rfl⟩ := List.mem_map.mp he
        exact .inl ⟨n, rfl⟩
    · rcases ih he with hnote | ⟨c', hc', rfl⟩
      · exact .inl hnote
      · exact .inr ⟨c', List.mem_cons_of_mem _ hc', rfl⟩

/-- The last call of a transcript that happens has the role of the last call among the events. -/
theorem Happens.lastRole? {s t : σ} {calls : Transcript σ ν} {events : List (Event ν)}
    (h : Happens s calls events t) :
    Event.lastRole? events = calls.getLast?.map Exchange.role := by
  rw [Event.lastRole?, h.roles, List.getLast?_map]

/-- All calls of a transcript are in roles of one kind. -/
def Within (kind : Role → Bool) (calls : Transcript σ ν) : Prop := ∀ c ∈ calls, kind c.role = true

variable {kind : Role → Bool} {calls rest : Transcript σ ν}

/-- No call is in another role. -/
@[simp] theorem within_nil : Within kind ([] : Transcript σ ν) := by
  intro c hc
  simp at hc

/-- Calls in a row are in roles of a kind if both parts are. -/
@[simp] theorem within_append :
    Within kind (calls ++ rest) ↔ Within kind calls ∧ Within kind rest := List.forall_mem_append

/-- A transcript that ends with calls of one kind leaves a call of that kind as the last one. -/
theorem Happens.lastRole?_of_within {s t : σ} {events : List (Event ν)}
    (h : Happens s (calls ++ rest) events t) (hrest : rest ≠ []) (hkind : Within kind rest) :
    ∃ role, Event.lastRole? events = some role ∧ kind role = true := by
  refine ⟨(rest.getLast hrest).role, ?_, hkind _ (List.getLast_mem hrest)⟩
  rw [h.lastRole?, List.getLast?_append, List.getLast?_eq_some_getLast hrest]
  rfl

end Transcript

/-- What follows a protocol within roles of one kind leaves notes, and calls in roles of that
kind. -/
theorem Run.Follows.mem_events {α : Type} {x : Run σ (Event ν) α} {P : Protocol σ ν α}
    {kind : Role → Bool} (hx : x.Follows P)
    (hP : ∀ calls o, P calls o → Transcript.Within kind calls) {s t : σ} {o : Outcome α}
    {events : List (Event ν)} (h : x s = ⟨o, events, t⟩) {e : Event ν} (he : e ∈ events) :
    (∃ n, e = .note n) ∨ ∃ role shown, kind role = true ∧ e = .call role shown := by
  obtain ⟨calls, hcalls, hcalled⟩ := (hx s o events t).mp h
  rcases hcalled.mem_events he with hnote | ⟨c, hc, rfl⟩
  · exact .inl hnote
  · exact .inr ⟨c.role, _, hP calls o hcalls c hc, rfl⟩

/-! ## The phases of protocols -/

open Transcript (Within)

/-- The calls of a guard select. -/
theorem Guard.Sees.within {x : In} {g : Guard σ ν In View} {calls : Transcript σ ν}
    {o : Outcome (Option View)} (h : Guard.Sees x g calls o) : Within Role.selects calls := by
  cases h <;> simp [Within, Role.selects]

/-- The calls of a condition select. -/
theorem Condition.Judges.within {v : View} {c : Condition σ ν View} {calls : Transcript σ ν}
    {o : Outcome Bool} (h : Condition.Judges v c calls o) : Within Role.selects calls := by
  induction h with
  | test f o => simp [Within, Role.selects]
  | stop _ _ ih => exact ih
  | next _ _ ih ih' => exact Transcript.within_append.mpr ⟨ih, ih'⟩

/-- The calls of an action answer. -/
theorem Action.Answers.within {v : View} {a : Action σ ν View E Out} {calls : Transcript σ ν}
    {o : Outcome (Except E Out)} (h : Action.Answers v a calls o) : Within Role.answers calls := by
  induction h with
  | answer f o => simp [Within, Role.answers]
  | output f o _ ih => exact Transcript.within_append.mpr ⟨ih, by simp [Within, Role.answers]⟩
  | failure f _ ih => exact ih
  | panic f _ ih => exact ih

namespace Rule

variable {r : Rule σ ν In Out E} {x : In} {calls : Transcript σ ν}

/-- Whether a rule admits a view is settled by calls that select. -/
theorem Admits.within {v : r.View} {o : Outcome Bool} (h : r.Admits v calls o) :
    Within Role.selects calls := by
  cases h with
  | free => exact Transcript.within_nil
  | asked _ hjudges => exact hjudges.within

/-- Whether a rule selects a view of the input is settled by calls that select. -/
theorem Selects.within {o : Outcome (Option r.View)} (h : r.Selects x calls o) :
    Within Role.selects calls := by
  cases h with
  | unrecognized hsees => exact hsees.within
  | unmet hsees hadmits => exact Transcript.within_append.mpr ⟨hsees.within, hadmits.within⟩
  | met hsees hadmits => exact Transcript.within_append.mpr ⟨hsees.within, hadmits.within⟩
  | brokenGuard hsees => exact hsees.within
  | brokenCondition hsees hadmits =>
    exact Transcript.within_append.mpr ⟨hsees.within, hadmits.within⟩

end Rule

namespace Dispatcher

/-- Rules that reject an input make no call that answers. -/
theorem AllReject.within {rules : List (Rule σ ν In Out E)} {x : In} {calls : Transcript σ ν}
    (h : AllReject x rules calls) : Within Role.selects calls := by
  induction h with
  | nil => exact Transcript.within_nil
  | cons hr _ ih => exact Transcript.within_append.mpr ⟨hr.within, ih⟩

/-- A search is made of selecting calls. -/
theorem Finds.within {rules : List (Rule σ ν In Out E)} {x : In} {calls : Transcript σ ν}
    {o : Outcome (Option (Hit rules))} (h : Finds rules x calls o) :
    Within Role.selects calls := by
  cases h with
  | missed hall => exact hall.within
  | found h hbefore haccepts =>
    exact Transcript.within_append.mpr ⟨hbefore.within, haccepts.within⟩
  | broken i hbefore hpanics =>
    exact Transcript.within_append.mpr ⟨hbefore.within, hpanics.within⟩

end Dispatcher

/-! ## Panics happen in calls -/

/-- A guard that panics was called. -/
theorem Guard.Sees.ne_nil {x : In} {g : Guard σ ν In View} {calls : Transcript σ ν}
    {message : String} (h : Guard.Sees x g calls (.panic message)) : calls ≠ [] := by
  rintro rfl
  cases h

/-- A condition calls at least one test. -/
theorem Condition.Judges.ne_nil {v : View} {c : Condition σ ν View} {calls : Transcript σ ν}
    {o : Outcome Bool} (h : Condition.Judges v c calls o) : calls ≠ [] := by
  induction h with
  | test f o => simp
  | stop _ _ ih => exact ih
  | next _ _ ih _ => exact List.append_ne_nil_of_left_ne_nil ih _

/-- An action calls at least the function at its core. -/
theorem Action.Answers.ne_nil {v : View} {a : Action σ ν View E Out} {calls : Transcript σ ν}
    {o : Outcome (Except E Out)} (h : Action.Answers v a calls o) : calls ≠ [] := by
  induction h with
  | answer f o => simp
  | output f o _ _ => simp
  | failure f _ ih => exact ih
  | panic f _ ih => exact ih

/-- A rule that panics when it is to admit a view has made a call. -/
theorem Rule.Admits.ne_nil {r : Rule σ ν In Out E} {v : r.View} {calls : Transcript σ ν}
    {message : String} (h : r.Admits v calls (.panic message)) : calls ≠ [] := by
  obtain _ | ⟨_, hjudges⟩ := h
  exact hjudges.ne_nil

/-- A rule that panics when it is to select a view has made a call. -/
theorem Rule.Selects.ne_nil {r : Rule σ ν In Out E} {x : In} {calls : Transcript σ ν}
    {message : String} (h : r.Selects x calls (.panic message)) : calls ≠ [] := by
  cases h with
  | brokenGuard hsees => exact hsees.ne_nil
  | brokenCondition _ hadmits => exact List.append_ne_nil_of_right_ne_nil _ hadmits.ne_nil

/-- A search that panics has made a call. -/
theorem Dispatcher.Finds.ne_nil {rules : List (Rule σ ν In Out E)} {x : In}
    {calls : Transcript σ ν} {message : String} (h : Finds rules x calls (.panic message)) :
    calls ≠ [] := by
  cases h with
  | broken i _ hpanics => exact List.append_ne_nil_of_right_ne_nil _ hpanics.ne_nil

/-! ## The function at the core of an action -/

namespace Action

/-- The outputs of the function at the core of an action. -/
def Inner : {Out : Type} → Action σ ν View E Out → Type
  | Out, answer _ => Out
  | _, mapped inner _ => inner.Inner

/-- The function at the core of an action. -/
def core : {Out : Type} → (a : Action σ ν View E Out) → Callback σ ν View (Except E a.Inner)
  | _, answer f => f
  | _, mapped inner _ => inner.core

/-- Applies the maps of an action, the innermost first, to what its core answered. -/
def finish : {Out : Type} → (a : Action σ ν View E Out) → Except E a.Inner →
    Run σ (Event ν) (Except E Out)
  | _, answer _, result => pure result
  | _, mapped inner f, result => do
    match ← inner.finish result with
    | .ok out => return .ok (← f.call .map out)
    | .error e => return .error e

/-- An action calls its core first and then its maps. -/
theorem run_eq_finish (a : Action σ ν View E Out) (v : View) :
    a.run v = a.core.call .action v >>= a.finish := by
  induction a with
  | answer f => exact (bind_pure _).symm
  | mapped inner f ih =>
    rw [run_mapped, ih, bind_assoc]
    rfl

end Action

/-! ## Accepting is the first phase of a dispatch -/

namespace Dispatcher

variable {d : Dispatcher σ ν In Out E} {x : In} {s t : σ} {events : List (Event ν)}

/-- No role is of both phases. -/
theorem selects_eq_false_of_answers {role : Role} (h : role.answers = true) :
    role.selects = false := by
  cases role <;> simp_all [Role.answers, Role.selects]

/-- A search that panics does so in a call in a selecting role. -/
theorem lastRole?_of_find? {message : String}
    (h : find? d.rules x s = ⟨.panic message, events, t⟩) :
    ∃ role, Event.lastRole? events = some role ∧ role.selects = true := by
  obtain ⟨calls, hfinds, hcalled⟩ := (follows_find? d.rules x s _ _ _).mp h
  have hcalled' : Transcript.Happens s ([] ++ calls) events t := hcalled
  exact hcalled'.lastRole?_of_within hfinds.ne_nil hfinds.within

/-- An action that panics does so in a call in an answering role, whatever was called before. -/
theorem lastRole?_of_run {a : Action σ ν View E Out} {v : View} {message : String}
    {o : Outcome (Option (Hit d.rules))} {events' : List (Event ν)} {u : σ}
    (hfind : find? d.rules x s = ⟨o, events, t⟩)
    (hrun : a.run v t = ⟨.panic message, events', u⟩) :
    ∃ role, Event.lastRole? (events ++ events') = some role ∧ role.answers = true := by
  obtain ⟨selecting, -, hselecting⟩ := (follows_find? d.rules x s _ _ _).mp hfind
  obtain ⟨answering, hanswers, hanswering⟩ := (Action.follows_run _ _ _ _ _ _).mp hrun
  exact (hselecting.append hanswering).lastRole?_of_within hanswers.ne_nil hanswers.within

/-- Asking panics exactly if a dispatch does in a call that selects. -/
theorem accepts_eq_panic_iff_dispatch? {message : String} :
    d.accepts x s = ⟨.panic message, events, t⟩ ↔ d.dispatch? x s = ⟨.panic message, events, t⟩
      ∧ ∃ role, Event.lastRole? events = some role ∧ role.selects = true := by
  rw [accepts_eq_panic_iff]
  constructor
  · intro hfind
    exact ⟨dispatch?_of_course (.searchPanics hfind), lastRole?_of_find? hfind⟩
  · rintro ⟨hdispatch, role, hrole, hselects⟩
    obtain hfind | _ | ⟨hfind, hrun⟩ := course_iff.mpr hdispatch
    · exact hfind
    -- a panic of the action would have left a call of its own phase as the last one
    · obtain ⟨role', hrole', hanswers⟩ := lastRole?_of_run hfind hrun
      obtain rfl := Option.some.inj (hrole.symm.trans hrole')
      rw [selects_eq_false_of_answers hanswers] at hselects
      exact absurd hselects (by simp)

/-- An input is not accepted exactly if a dispatch finds no rule, which it may log then. -/
theorem accepts_eq_false_iff_dispatch? :
    d.accepts x s = ⟨.done false, events, t⟩ ↔
      d.dispatch? x s = ⟨.done none, events ++ d.unhandledLog, t⟩ := by
  rw [accepts_eq_false_iff]
  constructor
  · intro hfind
    exact dispatch?_of_course (.missed hfind)
  · intro hdispatch
    -- the events of a course are given by its search, not by `events`
    generalize hall : events ++ d.unhandledLog = all at hdispatch
    obtain _ | hfind := course_iff.mpr hdispatch
    rw [List.append_cancel_right hall]
    exact hfind

/-- What begins with a call leaves the event of that call first. -/
theorem events_of_call_bind {α β γ : Type} (role : Role) (f : Callback σ ν α β) (a : α)
    (k : β → Run σ (Event ν) γ) (s : σ) :
    ∃ rest, ((f.call role a >>= k) s).events = .call role (f.shows a) :: rest := by
  rw [Run.bind_apply, Callback.call_apply]
  rcases f.body a s with ⟨b | message, events, t⟩
  · exact ⟨_, rfl⟩
  · exact ⟨_, rfl⟩

/-- Where a dispatcher accepts an input, a dispatch goes on with the action of a rule, from the
state that accepting leaves. -/
theorem dispatch?_of_accepts_true (h : d.accepts x s = ⟨.done true, events, t⟩) :
    ∃ (i : Nat) (r : Rule σ ν In Out E) (v : r.View), d.rules[i]? = some r
      ∧ (d.dispatch? x s = ((do
          let first ← r.action.core.call .action v
          let result ← r.action.finish first
          Run.emit (.log (.handled i r.label))
          return some result : Run σ (Event ν) (Option (Except E Out))) t).after events)
      ∧ ∃ rest, (d.dispatch? x s).events
        = events ++ .call .action (r.action.core.shows v) :: rest := by
  obtain ⟨h, hfind⟩ := accepts_eq_true_iff.mp h
  have hdispatch : d.dispatch? x s = (((d.rules.get h.index).action.core.call .action h.view
      >>= fun first => (d.rules.get h.index).action.finish first >>= fun result =>
        Run.emit (.log (.handled h.index (d.rules.get h.index).label)) >>= fun _ =>
          pure (some result)) t).after events := by
    rw [dispatch?, scan_eq, bind_assoc, Run.bind_of_done hfind, Hit.answer?, Hit.answer,
      Rule.answer, Nat.zero_add, Action.run_eq_finish]
    simp only [bind_assoc, map_bind, map_pure, pure_bind]
  refine ⟨h.index, d.rules.get h.index, h.view, getElem?_index _, hdispatch, ?_⟩
  -- behind the events of the search comes the call of the function at the core
  obtain ⟨rest, hrest⟩ := events_of_call_bind .action (d.rules.get h.index).action.core h.view
    (fun first => (d.rules.get h.index).action.finish first >>= fun result =>
      Run.emit (.log (.handled h.index (d.rules.get h.index).label)) >>= fun _ =>
        pure (some result)) t
  rw [hdispatch]
  exact ⟨rest, congrArg (events ++ ·) hrest⟩

/-- Where a dispatcher accepts an input, a dispatch answers, or panics in an action or a map. -/
theorem outcome_of_accepts_true (h : d.accepts x s = ⟨.done true, events, t⟩) :
    (∃ result, (d.dispatch? x s).outcome = .done (some result))
      ∨ ∃ message role, (d.dispatch? x s).outcome = .panic message
        ∧ Event.lastRole? (d.dispatch? x s).events = some role ∧ role.answers = true := by
  obtain ⟨h, hfind⟩ := accepts_eq_true_iff.mp h
  rcases hrun : (d.rules.get h.index).action.run h.view t with ⟨result | message, events', u⟩
  · rw [dispatch?_of_course (.answered hfind hrun)]
    exact .inl ⟨result, rfl⟩
  · rw [dispatch?_of_course (.actionPanics hfind hrun)]
    obtain ⟨role, hrole, hanswers⟩ := lastRole?_of_run hfind hrun
    exact .inr ⟨message, role, rfl, hrole, hanswers⟩

/-- How asking whether an input is accepted compares to a dispatch of the input from the same
state. -/
structure SelectionPhase (d : Dispatcher σ ν In Out E) (x : In) (s : σ) : Prop where
  /-- Asking panics where the dispatch panics while a rule is selected. -/
  panic_iff (message : String) (events : List (Event ν)) (t : σ) :
    d.accepts x s = ⟨.panic message, events, t⟩ ↔
      d.dispatch? x s = ⟨.panic message, events, t⟩
        ∧ ∃ role, Event.lastRole? events = some role ∧ role.selects = true
  /-- An input is not accepted where the dispatch finds no rule. -/
  false_iff (events : List (Event ν)) (t : σ) :
    d.accepts x s = ⟨.done false, events, t⟩ ↔
      d.dispatch? x s = ⟨.done none,
        events ++ if d.logUnhandled then [.log (.unhandled d.size)] else [], t⟩
  /-- Where an input is accepted the dispatch goes on with the action of a rule. -/
  goes_on (events : List (Event ν)) (t : σ) : d.accepts x s = ⟨.done true, events, t⟩ →
    ∃ (i : Nat) (r : Rule σ ν In Out E) (v : r.View), d.rules[i]? = some r
      ∧ (d.dispatch? x s = ((do
          let first ← r.action.core.call .action v
          let result ← r.action.finish first
          Run.emit (.log (.handled i r.label))
          return some result : Run σ (Event ν) (Option (Except E Out))) t).after events)
      ∧ ∃ rest, (d.dispatch? x s).events
        = events ++ .call .action (r.action.core.shows v) :: rest
  /-- Where an input is accepted the dispatch has an answer, or panics while a rule answers. -/
  answers (events : List (Event ν)) (t : σ) : d.accepts x s = ⟨.done true, events, t⟩ →
    (∃ result, (d.dispatch? x s).outcome = .done (some result))
      ∨ ∃ message role, (d.dispatch? x s).outcome = .panic message
        ∧ Event.lastRole? (d.dispatch? x s).events = some role ∧ role.answers = true
  /-- Asking makes calls of the first phase and writes no record. -/
  events (e : Event ν) : e ∈ (d.accepts x s).events →
    (∃ n, e = .note n) ∨ ∃ role shown, role.selects = true ∧ e = .call role shown

/-- Accepting is the first phase of a dispatch from the same state.  It panics exactly if the
dispatch panics in that phase, with the same message, events and state; it says no exactly if the
dispatch has no answer, with the same events but for the record of unhandled input; and if it says
yes, the dispatch goes on from the same events and state with the call of an action, and answers or
panics in the action or one of its maps.  Accepting leaves nothing but notes and the calls that
select a rule. -/
theorem accepts_selection_phase (d : Dispatcher σ ν In Out E) (x : In) (s : σ) :
    SelectionPhase d x s where
  panic_iff _ _ _ := accepts_eq_panic_iff_dispatch?
  false_iff _ _ := accepts_eq_false_iff_dispatch?
  goes_on _ _ h := dispatch?_of_accepts_true h
  answers _ _ h := outcome_of_accepts_true h
  events e he := by
    rw [accepts_apply] at he
    exact (follows_find? d.rules x).mem_events (fun _ _ hfinds => hfinds.within) rfl he

/-! ## A dispatcher with a state -/

namespace Sample

/-- A test that holds at every second call, from the second on; it counts its calls in the state
and notes the count. -/
def alternating : Callback Nat Nat Nat Bool where
  shows _ := none
  body _ n := ⟨.done (n % 2 == 1), [n], n + 1⟩

/-- Answers with the view, and panics on zero. -/
def nonzero : Callback Nat Nat Nat (Except String Nat) where
  shows x := some x
  body x := if x = 0 then Run.panic "zero" else pure (.ok x)

/-- Takes every second input. -/
def everyOther : Rule Nat Nat Nat Nat String := .answeringIf .any alternating nonzero

/-- Asks twice, and doubles the answer of the second rule. -/
def twice : Dispatcher Nat Nat Nat Nat String :=
  ⟨[everyOther, everyOther.map (.silent (2 * ·))], true⟩

end Sample

/-- The first rule of the sample does not take the first input, since its test is asked for the
first time.  The second rule takes it, and its action panics. -/
theorem accepts_selection_phase_twice :
    Sample.twice.accepts 0 0 = ⟨.done true,
      [.call .condition none, .note 0, .call .condition none, .note 1], 2⟩
    ∧ ((∃ result, (Sample.twice.dispatch? 0 0).outcome = .done (some result))
      ∨ ∃ message role, (Sample.twice.dispatch? 0 0).outcome = .panic message
        ∧ Event.lastRole? (Sample.twice.dispatch? 0 0).events = some role
        ∧ role.answers = true) :=
  ⟨rfl, (accepts_selection_phase Sample.twice 0 0).answers _ _ rfl⟩

end Dispatcher

end FirstMatch
