/-
# Uses of a dispatcher

A dispatcher is used in four ways: it is asked whether it accepts an input, or it dispatches one
with an answer, an output or a fallback.  `InputStep.ask` is each of them as a run with one type of
answers, and a step of a session is such a run and nothing else (`Session.inputStep_eq`).  The calls
of a use are those of a search, perhaps with those of an action or of the fallback behind them
(`InputStep.talks_of_ask`).

All other steps of a session call no function of the user; so the calls in a run of a session are
those of the uses in it, each from the session that the steps before it left.
-/
import FirstMatch.Session
import FirstMatch.Proofs.FirstRule

namespace FirstMatch

variable {σ ν In Out E : Type}

/-! ## Asking a dispatcher -/

/-- What a dispatcher answers when it is used. -/
inductive Answer (Out E : Type) where
  | accepted (b : Bool)
  | answer? (result : Option (Except E Out))
  | answer (result : Except (Failure E) Out)
  | answerOr (result : Except E Out)

/-- An answer as the reply of a session. -/
def Answer.reply : Answer Out E → Reply σ ν In Out E
  | accepted b => .accepted b
  | answer? result => .answer? result
  | answer result => .answer result
  | answerOr result => .answerOr result

namespace InputStep

/-- The input of a use. -/
def input : InputStep σ ν In Out E → In
  | accepts x => x
  | dispatch? x => x
  | dispatch x => x
  | dispatchOr _ x => x

/-- Uses a dispatcher. -/
def ask (d : Dispatcher σ ν In Out E) : InputStep σ ν In Out E → Run σ (Event ν) (Answer Out E)
  | accepts x => .accepted <$> d.accepts x
  | dispatch? x => .answer? <$> d.dispatch? x
  | dispatch x => .answer <$> d.dispatch x
  | dispatchOr fallback x => .answerOr <$> d.dispatchOr fallback x

end InputStep

namespace Session

/-- A function of the value of a run is as good in front of the reply. -/
theorem onState_map {α β : Type} (f : α → β) (reply : β → Reply σ ν In Out E)
    (x : Run σ (Event ν) α) : onState reply (f <$> x) = onState (fun a => reply (f a)) x := by
  funext s
  simp only [onState, Run.map_apply]
  rcases x s.state with ⟨a | message, events, t⟩ <;> rfl

/-- Handing an input to a dispatcher is using it, in the state of the session. -/
theorem inputStep_eq (d : Dispatcher σ ν In Out E) (u : InputStep σ ν In Out E) :
    inputStep d u = onState Answer.reply (u.ask d) := by
  cases u with
  | accepts x => rw [inputStep, InputStep.ask, onState_map]; rfl
  | dispatch? x => rw [inputStep, InputStep.ask, onState_map]; rfl
  | dispatch x => rw [inputStep, InputStep.ask, onState_map]; rfl
  | dispatchOr fallback x => rw [inputStep, InputStep.ask, onState_map]; rfl

end Session

/-! ## The calls of a use -/

/-- The events that are no log records. -/
def Event.unlogged (events : List (Event ν)) : List (Event ν) :=
  events.filter fun e => e.record?.isNone

namespace Event

/-- Log records are left out of two series of events one by one. -/
theorem unlogged_append (events events' : List (Event ν)) :
    unlogged (events ++ events') = unlogged events ++ unlogged events' := by
  rw [unlogged, List.filter_append]
  rfl

/-- Where there is no log record nothing is left out. -/
theorem unlogged_of_no_records {events : List (Event ν)} (h : events.filterMap record? = []) :
    unlogged events = events := by
  rw [unlogged, List.filter_eq_self]
  intro e he
  rw [List.filterMap_eq_nil_iff.mp h e he]
  rfl

/-- Nothing remains of log records. -/
theorem unlogged_map_log (records : List Record) :
    unlogged (records.map log : List (Event ν)) = [] := by
  rw [unlogged, List.filter_eq_nil_iff]
  intro e he
  obtain ⟨record, -, rfl⟩ := List.mem_map.mp he
  simp [record?]

/-- Nothing remains of a single log record. -/
theorem unlogged_log (record : Record) : unlogged [log record] = ([] : List (Event ν)) := rfl

end Event

/-- The events of a transcript stay when log records are left out. -/
theorem Transcript.Happens.unlogged {s t : σ} {calls : Transcript σ ν} {events : List (Event ν)}
    (h : Happens s calls events t) : Event.unlogged events = events :=
  Event.unlogged_of_no_records h.no_records

/-- Nothing remains of the record of unhandled input. -/
theorem Dispatcher.unlogged_unhandledLog (d : Dispatcher σ ν In Out E) :
    Event.unlogged d.unhandledLog = [] := by
  rw [unhandledLog]
  split <;> rfl

namespace InputStep

/-- The calls of a use: those of a search; those of a search that finds a rule, and of the action of
that rule; or those in which all rules reject the input, and the call of the fallback. -/
inductive Talks (d : Dispatcher σ ν In Out E) (u : InputStep σ ν In Out E) :
    Transcript σ ν → Prop
  | searching {calls : Transcript σ ν} {o : Outcome (Option (Hit d.rules))} :
    Dispatcher.Finds d.rules u.input calls o → Talks d u calls
  | answering {h : Hit d.rules} {selecting calls : Transcript σ ν}
    {o : Outcome (Except E Out)} :
    Dispatcher.Finds d.rules u.input selecting (.done (some h)) →
    Action.Answers h.view (d.rules.get h.index).action calls o → Talks d u (selecting ++ calls)
  | falling {f : Callback σ ν In (Except E Out)} {x : In} {rejecting : Transcript σ ν}
    (o : Outcome (Except E Out)) : u = .dispatchOr f x →
    Dispatcher.AllReject x d.rules rejecting → Talks d u (rejecting ++ [⟨.fallback, f, x, o⟩])

end InputStep

/-- The output for an input, given what the first rule that takes it answers. -/
def Dispatcher.settle (d : Dispatcher σ ν In Out E) :
    Option (Except E Out) → Except (Failure E) Out
  | none => .error (.noMatch ⟨d.size⟩)
  | some (.ok out) => .ok out
  | some (.error e) => .error (.action e)

/-- A dispatch reports what the dispatch that may have no answer ends with. -/
theorem Dispatcher.dispatch_eq_map (d : Dispatcher σ ν In Out E) (x : In) :
    d.dispatch x = d.settle <$> d.dispatch? x := by
  rw [dispatch, map_eq_pure_bind]
  congr 1
  funext result?
  rcases result? with _ | _ | _ <;> rfl

namespace InputStep

/-- The events and the state that a dispatch leaves, up to log records, are those of its calls. -/
theorem talks_of_dispatch? (d : Dispatcher σ ν In Out E) (u : InputStep σ ν In Out E) (s : σ) :
    ∃ calls, Talks d u calls ∧ Transcript.Happens s calls
      (Event.unlogged (d.dispatch? u.input s).events) (d.dispatch? u.input s).state := by
  have hcourse : Dispatcher.Course d u.input s (d.dispatch? u.input s) :=
    Dispatcher.course_iff.mpr rfl
  generalize d.dispatch? u.input s = e at hcourse
  -- in every course the calls of the search come first, and those of an action behind them
  have hsearch := Dispatcher.follows_find? d.rules u.input
  cases hcourse with
  | searchPanics hfind =>
    obtain ⟨calls, hfinds, hcalled⟩ := (hsearch _ _ _ _).mp hfind
    rw [hcalled.unlogged]
    exact ⟨calls, .searching hfinds, hcalled⟩
  | missed hfind =>
    obtain ⟨calls, hfinds, hcalled⟩ := (hsearch _ _ _ _).mp hfind
    rw [Event.unlogged_append, hcalled.unlogged, d.unlogged_unhandledLog, List.append_nil]
    exact ⟨calls, .searching hfinds, hcalled⟩
  | actionPanics hfind hrun =>
    obtain ⟨selecting, hfinds, hselecting⟩ := (hsearch _ _ _ _).mp hfind
    obtain ⟨calls, hanswers, hcalled⟩ := (Action.follows_run _ _ _ _ _ _).mp hrun
    have hall := hselecting.append hcalled
    rw [hall.unlogged]
    exact ⟨_, .answering hfinds hanswers, hall⟩
  | answered hfind hrun =>
    obtain ⟨selecting, hfinds, hselecting⟩ := (hsearch _ _ _ _).mp hfind
    obtain ⟨calls, hanswers, hcalled⟩ := (Action.follows_run _ _ _ _ _ _).mp hrun
    have hall := hselecting.append hcalled
    rw [Event.unlogged_append, hall.unlogged, Event.unlogged_log, List.append_nil]
    exact ⟨_, .answering hfinds hanswers, hall⟩

/-- A dispatch with a fallback makes the calls of such a use. -/
theorem talks_of_dispatchOr (d : Dispatcher σ ν In Out E) (f : Callback σ ν In (Except E Out))
    (x : In) (s : σ) : ∃ calls, Talks d (.dispatchOr f x) calls ∧ Transcript.Happens s calls
      (Event.unlogged (d.dispatchOr f x s).events) (d.dispatchOr f x s).state := by
  obtain ⟨calls, htalks, hcalled⟩ := talks_of_dispatch? d (.dispatchOr f x) s
  rw [Dispatcher.dispatchOr, Run.bind_apply]
  rcases hd : d.dispatch? x s with ⟨(_ | result) | message, events, t⟩
  -- only without an answer the fallback is called, and then all rules have rejected the input
  · obtain ⟨rejecting, called, hrejects, hrejected, rfl⟩ := Dispatcher.dispatch?_eq_none_iff.mp hd
    rcases hf : f.call .fallback x t with ⟨o, events', u⟩
    have hfallback : Transcript.Happens t [⟨.fallback, f, x, o⟩] events' u :=
      Transcript.happens_singleton_iff.mpr hf
    refine ⟨_, .falling o rfl hrejects, ?_⟩
    simp only [hf, Ending.after_mk]
    rw [Event.unlogged_append, Event.unlogged_append, hrejected.unlogged,
      d.unlogged_unhandledLog, List.append_nil, hfallback.unlogged]
    exact hrejected.append hfallback
  · rw [show (InputStep.dispatchOr f x).input = x from rfl, hd] at hcalled
    simp only [Run.pure_apply, Ending.after_mk, List.append_nil]
    exact ⟨calls, htalks, hcalled⟩
  · rw [show (InputStep.dispatchOr f x).input = x from rfl, hd] at hcalled
    exact ⟨calls, htalks, hcalled⟩

/-- The events and the state that a use leaves, up to log records, are those of its calls. -/
theorem talks_of_ask (d : Dispatcher σ ν In Out E) (u : InputStep σ ν In Out E) (s : σ) :
    ∃ calls, Talks d u calls
      ∧ Transcript.Happens s calls (Event.unlogged (u.ask d s).events) (u.ask d s).state := by
  cases u with
  | accepts x =>
    rw [ask, Run.map_apply, Dispatcher.accepts_apply]
    rcases hfind : Dispatcher.find? d.rules x s with ⟨o, events, t⟩
    obtain ⟨calls, hfinds, hcalled⟩ := (Dispatcher.follows_find? d.rules x _ _ _ _).mp hfind
    rw [hcalled.unlogged]
    exact ⟨calls, .searching hfinds, hcalled⟩
  | dispatch? x =>
    rw [ask, Run.map_apply]
    exact talks_of_dispatch? d (.dispatch? x) s
  | dispatch x =>
    rw [ask, Run.map_apply, Dispatcher.dispatch_eq_map, Run.map_apply]
    exact talks_of_dispatch? d (.dispatch x) s
  | dispatchOr f x =>
    rw [ask, Run.map_apply]
    exact talks_of_dispatchOr d f x s

end InputStep

/-! ## Runs of a session -/

namespace Session

variable {s : Session σ ν In Out E}

/-- The session that steps leave. -/
def after : List (Step σ ν In Out E) → Session σ ν In Out E → Session σ ν In Out E
  | [], s => s
  | st :: steps, s => after steps (step st s).state

/-- In a run each step is done in the session that the steps before it left. -/
theorem getElem?_run (front : List (Step σ ν In Out E)) (st : Step σ ν In Out E)
    (behind : List (Step σ ν In Out E)) (s : Session σ ν In Out E) :
    (run (front ++ st :: behind) s)[front.length]? = some (step st (after front s)) := by
  induction front generalizing s with
  | nil => rfl
  | cons first front ih => exact ih (step first s).state

/-- A step ended without a call of a function of the user. -/
def Quiet (s : Session σ ν In Out E)
    (e : Ending (Session σ ν In Out E) (Event ν) (Reply σ ν In Out E)) : Prop :=
  ∃ records : List Record, e.events = records.map .log ∧ e.state.state = s.state

/-- A step with a draft is quiet if it is so for every draft. -/
theorem quiet_withDraft {name : String} {f : Draft σ ν In Out E → Stepping σ ν In Out E}
    (h : ∀ d, Quiet s (f d s)) : Quiet s (withDraft name f s) := by
  rw [withDraft]
  split
  · exact ⟨[], rfl, rfl⟩
  · exact h _

/-- A step with a dispatcher is quiet if it is so for the one in the register. -/
theorem quiet_withDispatcher {name : String}
    {f : Dispatcher σ ν In Out E → Stepping σ ν In Out E}
    (h : ∀ d, s.dispatchers name = some d → Quiet s (f d s)) :
    Quiet s (withDispatcher name f s) := by
  rw [withDispatcher]
  split
  · exact ⟨[], rfl, rfl⟩
  · next d hd => exact h d hd

/-- No step on drafts calls a function of the user. -/
theorem quiet_draftStep (st : DraftStep σ ν In Out E) (s : Session σ ν In Out E) :
    Quiet s (draftStep st s) := by
  cases st with
  | start name => exact ⟨[], rfl, rfl⟩
  | copy name target => exact quiet_withDraft fun d => ⟨[], rfl, rfl⟩
  | look name => exact quiet_withDraft fun d => ⟨[], rfl, rfl⟩
  | configure name settings => exact quiet_withDraft fun d => ⟨[], rfl, rfl⟩
  | configureJson name text =>
    refine quiet_withDraft fun d => ?_
    cases Settings.ofJson text with
    | error e => exact ⟨[], rfl, rfl⟩
    | ok settings => exact ⟨[], rfl, rfl⟩
  | add name rule => exact quiet_withDraft fun d => ⟨[], rfl, rfl⟩
  | compile name target => exact quiet_withDraft fun d => ⟨_, rfl, rfl⟩
  | compileStrict name target =>
    refine quiet_withDraft fun d => ?_
    cases d.compileStrict with
    | error u => exact ⟨[], rfl, rfl⟩
    | ok c => exact ⟨_, rfl, rfl⟩

/-- No step that combines dispatchers calls a function of the user. -/
theorem quiet_combineStep (st : CombineStep σ ν Out) (s : Session σ ν In Out E) :
    Quiet s (combineStep st s) := by
  cases st with
  | start name => exact ⟨[], rfl, rfl⟩
  | copy name target => exact quiet_withDispatcher fun d _ => ⟨[], rfl, rfl⟩
  | look name => exact quiet_withDispatcher fun d _ => ⟨[], rfl, rfl⟩
  | orElse name other target =>
    exact quiet_withDispatcher fun d _ => quiet_withDispatcher fun e _ => ⟨[], rfl, rfl⟩
  | map name f target => exact quiet_withDispatcher fun d _ => ⟨[], rfl, rfl⟩

/-- A step with an input for a dispatcher uses the dispatcher, and changes no register. -/
theorem step_input {name : String} {d : Dispatcher σ ν In Out E} (h : s.dispatchers name = some d)
    (u : InputStep σ ν In Out E) : step (.input name u) s = onState Answer.reply (u.ask d) s := by
  simp only [step, withDispatcher, h, inputStep_eq]

/-- A step that is not the use of a dispatcher calls no function of the user. -/
theorem quiet_step {st : Step σ ν In Out E}
    (h : ∀ name u, st = .input name u → s.dispatchers name = none) : Quiet s (step st s) := by
  cases st with
  | draft st => exact quiet_draftStep st s
  | combine st => exact quiet_combineStep st s
  | input name u =>
    refine quiet_withDispatcher fun d hd => ?_
    rw [h name u rfl] at hd
    cases hd

end Session

end FirstMatch
