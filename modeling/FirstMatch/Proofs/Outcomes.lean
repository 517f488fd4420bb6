/-
# How a dispatch ends

An input may be dispatched in three ways, of which only one may call the fallback.  They go through
the rules alike: the same calls are made and the same records written, in the same order and with
the same changes of the state.  What they make of it can be told apart in all of them: that no rule
takes the input, that an action fails, and that there is an output
(`Dispatcher.ends_stay_apart`).

A failure is the one of the function at the core of the action, however many maps are around it, and
the call of that function is then the last one (`Action.Answers.eq_of_error`).
-/
import FirstMatch.Proofs.CatchAll
import FirstMatch.Proofs.Uses

namespace FirstMatch

variable {σ ν In Out E View : Type}

/-! ## Calls in a role -/

namespace Event

/-- The number of calls in a role among events. -/
def callsIn (role : Role) (events : List (Event ν)) : Nat := events.countP (isCall role)

/-- The calls in a role add up over two series of events. -/
theorem callsIn_append (role : Role) (events events' : List (Event ν)) :
    callsIn role (events ++ events') = callsIn role events + callsIn role events' :=
  List.countP_append

/-- Without a call in a role there are none to count. -/
theorem callsIn_eq_zero {role : Role} {events : List (Event ν)}
    (h : ∀ e ∈ events, e.isCall role = false) : callsIn role events = 0 := by
  rw [callsIn, List.countP_eq_zero]
  intro e he
  simp [h e he]

/-- A call in a role is an event with that role. -/
theorem isCall_eq (role : Role) (e : Event ν) : e.isCall role = (e.role? == some role) := by
  cases e <;> rfl

/-- The calls in a role can be counted in the list of roles. -/
theorem callsIn_eq_count (role : Role) (events : List (Event ν)) :
    callsIn role events = (events.filterMap role?).count role := by
  rw [List.count_filterMap]
  exact List.countP_congr fun e _ => by rw [isCall_eq]

/-- Log records are no calls. -/
theorem callsIn_unlogged (role : Role) (events : List (Event ν)) :
    callsIn role (unlogged events) = callsIn role events := by
  rw [callsIn, callsIn, unlogged, List.countP_filter]
  refine List.countP_congr fun e _ => ?_
  cases e <;> simp [isCall, record?]

end Event

/-- The calls in a role among the events of a transcript are its calls in that role. -/
theorem Transcript.Happens.callsIn {s t : σ} {calls : Transcript σ ν} {events : List (Event ν)}
    (h : Happens s calls events t) (role : Role) :
    Event.callsIn role events = (calls.map Exchange.role).count role := by
  rw [Event.callsIn_eq_count, h.roles]

/-! ## Actions that fail -/

/-- An action that fails has asked the function at its core, which failed, and nothing else. -/
theorem Action.Answers.eq_of_error {v : View} {a : Action σ ν View E Out} {calls : Transcript σ ν}
    {e : E} (h : Action.Answers v a calls (.done (.error e))) :
    calls = [⟨.action, a.core, v, .done (.error e)⟩] := by
  induction a generalizing calls with
  | answer f =>
    cases h
    rfl
  | mapped inner f ih =>
    generalize ho : Outcome.done (Except.error e) = o at h
    cases h with
    -- behind an output of the inner action the map answers, so there would be no failure
    | output _ o _ => cases o <;> cases ho
    | failure _ hinner =>
      cases ho
      exact ih hinner
    | panic _ _ => cases ho

namespace Dispatcher

/-! ## The rules that are asked -/

/-- How many rules of a list are asked about an input, from a state on: all up to the first one that
takes it or panics. -/
def asked : List (Rule σ ν In Out E) → In → σ → Nat
  | [], _, _ => 0
  | r :: rules, x, s =>
    match r.select? x s with
    | ⟨.done none, _, t⟩ => asked rules x t + 1
    | _ => 1

/-- Behind rules that reject an input the others are asked from the state that these leave. -/
theorem asked_append {rules : List (Rule σ ν In Out E)} {x : In} {calls : Transcript σ ν}
    (h : AllReject x rules calls) {s t : σ} {events : List (Event ν)}
    (hcalled : Transcript.Happens s calls events t) (others : List (Rule σ ν In Out E)) :
    asked (rules ++ others) x s = rules.length + asked others x t := by
  induction h generalizing s events with
  | nil =>
    obtain ⟨-, rfl⟩ := Transcript.happens_nil_iff.mp hcalled
    rw [List.nil_append, List.length_nil, Nat.zero_add]
  | @cons r rules calls rest hr _ ih =>
    obtain ⟨before, u, behind, hfirst, hrest, rfl⟩ := hcalled.of_append
    have hselect := (r.follows_select? x s _ before u).mpr ⟨calls, hr, hfirst⟩
    rw [List.cons_append, asked, hselect]
    dsimp only
    rw [ih hrest, List.length_cons]
    omega

/-- Behind a rule that takes an input or panics no other is asked. -/
theorem asked_cons_of_ne_none {r : Rule σ ν In Out E} {x : In} {s : σ}
    (h : (r.select? x s).outcome ≠ .done none) (rules : List (Rule σ ν In Out E)) :
    asked (r :: rules) x s = 1 := by
  rw [asked]
  rcases hselect : r.select? x s with ⟨(_ | v) | message, events, t⟩
  · rw [hselect] at h
    exact absurd rfl h
  · rfl
  · rfl

variable {d : Dispatcher σ ν In Out E} {f : Callback σ ν In (Except E Out)} {x : In} {s t : σ}
  {events : List (Event ν)}

/-- A dispatch that has no answer has asked all rules. -/
theorem asked_of_none (h : d.dispatch? x s = ⟨.done none, events, t⟩) :
    asked d.rules x s = d.size := by
  obtain ⟨calls, called, hrejects, hcalled, -⟩ := dispatch?_eq_none_iff.mp h
  have hall := asked_append hrejects hcalled []
  rwa [List.append_nil] at hall

/-- A dispatch with a failure: its calls and the one record behind them.  All rules before some
place reject the input, the rule at that place accepts it, and the function at the core of its
action fails; no map is called and no other rule asked. -/
theorem dispatch?_of_error {e : E} (h : d.dispatch? x s = ⟨.done (some (.error e)), events, t⟩) :
    ∃ (i : Nat) (r : Rule σ ν In Out E) (v : r.View) (rejecting selecting : Transcript σ ν)
      (called : List (Event ν)), d.rules[i]? = some r
      ∧ AllReject x (d.rules.take i) rejecting ∧ r.Accepts x v selecting
      ∧ Transcript.Happens s
        (rejecting ++ selecting ++ [⟨.action, r.action.core, v, .done (.error e)⟩]) called t
      ∧ events = called ++ [.log (.handled i r.label)] ∧ asked d.rules x s = i + 1 := by
  obtain ⟨i, r, _, called, ⟨hi, hrejects, haccepts, hanswers⟩, hcalled, hevents⟩ :=
    dispatch?_eq_some_iff.mp h
  obtain rfl := hanswers.eq_of_error
  refine ⟨i, r, _, _, _, called, hi, hrejects, haccepts, hcalled, hevents, ?_⟩
  -- the rules up to `i` are asked, and the one at `i` selects a view
  obtain ⟨_, _, _, hselecting, -, -⟩ := hcalled.of_append
  obtain ⟨_, u, _, hrejecting, hselected, -⟩ := hselecting.of_append
  have hselect := (r.follows_select? x u _ _ _).mpr ⟨_, haccepts, hselected⟩
  obtain ⟨hlt, rfl⟩ := List.getElem?_eq_some_iff.mp hi
  have hsplit : d.rules = d.rules.take i ++ d.rules[i] :: d.rules.drop (i + 1) := by
    rw [List.getElem_cons_drop, List.take_append_drop]
  have hall := asked_append hrejects hrejecting (d.rules[i] :: d.rules.drop (i + 1))
  rw [← hsplit, List.length_take, Nat.min_eq_left (Nat.le_of_lt hlt)] at hall
  rw [hall, asked_cons_of_ne_none (by rw [hselect]; simp)]

/-! ## The fallback -/

/-- Where a dispatch has no answer the fallback is called behind it. -/
theorem dispatchOr_of_none (h : d.dispatch? x s = ⟨.done none, events, t⟩) :
    d.dispatchOr f x s = (f.call .fallback x t).after events :=
  Run.bind_of_done h _

/-- Where a dispatch has an answer it is that of the run with a fallback. -/
theorem dispatchOr_of_some {result : Except E Out}
    (h : d.dispatch? x s = ⟨.done (some result), events, t⟩) :
    d.dispatchOr f x s = ⟨.done result, events, t⟩ := by
  rw [dispatchOr, Run.bind_of_done h]
  simp

/-- Where a dispatch panics the run with a fallback does. -/
theorem dispatchOr_of_panic {message : String}
    (h : d.dispatch? x s = ⟨.panic message, events, t⟩) :
    d.dispatchOr f x s = ⟨.panic message, events, t⟩ :=
  Run.bind_of_panic h _

/-- Without a fallback none is called. -/
theorem callsIn_fallback_dispatch? (d : Dispatcher σ ν In Out E) (x : In) (s : σ) :
    Event.callsIn .fallback (d.dispatch? x s).events = 0 :=
  Event.callsIn_eq_zero fun _ => not_isCall_fallback_of_dispatch?

/-- The fallback is called once if there is no answer, and else not at all. -/
theorem callsIn_fallback_dispatchOr (d : Dispatcher σ ν In Out E)
    (f : Callback σ ν In (Except E Out)) (x : In) (s : σ) :
    ((d.dispatch? x s).outcome = .done none ∧
      Event.callsIn .fallback (d.dispatchOr f x s).events = 1)
    ∨ ((d.dispatch? x s).outcome ≠ .done none ∧
      Event.callsIn .fallback (d.dispatchOr f x s).events = 0) := by
  have hzero := callsIn_fallback_dispatch? d x s
  rcases hd : d.dispatch? x s with ⟨(_ | result) | message, events, t⟩
  · rw [hd] at hzero
    rw [dispatchOr_of_none hd, Ending.after, Event.callsIn_append, hzero,
      (Transcript.happens_call .fallback f x t).callsIn]
    exact .inl ⟨rfl, rfl⟩
  · rw [hd] at hzero
    rw [dispatchOr_of_some hd]
    exact .inr ⟨by simp, hzero⟩
  · rw [hd] at hzero
    rw [dispatchOr_of_panic hd]
    exact .inr ⟨by simp, hzero⟩

/-- The fallback is called once exactly if there is no answer. -/
theorem callsIn_fallback_eq_one_iff (d : Dispatcher σ ν In Out E)
    (f : Callback σ ν In (Except E Out)) (x : In) (s : σ) :
    (d.dispatch? x s).outcome = .done none ↔
      Event.callsIn .fallback (d.dispatchOr f x s).events = 1 := by
  rcases callsIn_fallback_dispatchOr d f x s with ⟨hnone, hone⟩ | ⟨hne, hzero⟩
  · exact iff_of_true hnone hone
  · exact iff_of_false hne (by rw [hzero]; decide)

/-- Where the fallback is not called, a dispatch with one does what a dispatch without it does. -/
theorem dispatch?_eq_map_dispatchOr (h : (d.dispatch? x s).outcome ≠ .done none)
    (f : Callback σ ν In (Except E Out)) : d.dispatch? x s = (some <$> d.dispatchOr f x) s := by
  rw [Run.map_apply]
  rcases hd : d.dispatch? x s with ⟨(_ | result) | message, events, t⟩
  · rw [hd] at h
    exact absurd rfl h
  · rw [dispatchOr_of_some hd]
    rfl
  · rw [dispatchOr_of_panic hd]
    rfl

/-! ## The three ways of dispatching -/

/-- An ending leaves the events of the calls of a transcript, and of log records. -/
structure Tells (s : σ) (calls : Transcript σ ν) (records : List Record) {α : Type}
    (e : Ending σ (Event ν) α) : Prop where
  calls : Transcript.Happens s calls (Event.unlogged e.events) e.state
  records : e.events.filterMap Event.record? = records

/-- The calls of a dispatch, which are the same however the outcome is reported. -/
theorem exists_tells (d : Dispatcher σ ν In Out E) (x : In) (s : σ) :
    ∃ calls : Transcript σ ν, (∀ c ∈ calls, c.role ≠ .fallback)
      ∧ Tells s calls ((d.dispatch? x s).events.filterMap Event.record?) (d.dispatch? x s) := by
  obtain ⟨calls, -, htalked⟩ := InputStep.talks_of_dispatch? d (.dispatch? x) s
  have hcalled : Transcript.Happens s calls (Event.unlogged (d.dispatch? x s).events)
      (d.dispatch? x s).state := htalked
  refine ⟨calls, fun c hc hrole => ?_, hcalled, rfl⟩
  have hzero := callsIn_fallback_dispatch? d x s
  rw [← Event.callsIn_unlogged, hcalled.callsIn, List.count_eq_zero] at hzero
  exact hzero (List.mem_map.mpr ⟨c, hc, hrole⟩)

/-- What a dispatch leaves is the same if its outcome is reported. -/
theorem Tells.dispatch {calls : Transcript σ ν} {records : List Record}
    (h : Tells s calls records (d.dispatch? x s)) : Tells s calls records (d.dispatch x s) := by
  rw [dispatch_eq_map, Run.map_apply]
  exact ⟨h.calls, h.records⟩

/-- With a fallback it is the same, or there is one more call behind. -/
theorem Tells.dispatchOr {calls : Transcript σ ν} {records : List Record}
    (h : Tells s calls records (d.dispatch? x s)) (f : Callback σ ν In (Except E Out)) :
    Tells s calls records (d.dispatchOr f x s)
      ∨ ∃ o, Tells s (calls ++ [⟨.fallback, f, x, o⟩]) records (d.dispatchOr f x s) := by
  -- the fallback is called only where there is no answer
  rcases hd : d.dispatch? x s with ⟨(_ | result) | message, events, t⟩
  · rw [hd] at h
    have hcall := Transcript.happens_call .fallback f x t
    rw [dispatchOr_of_none hd]
    refine .inr ⟨(f.call .fallback x t).outcome, ?_, ?_⟩
    · rw [Ending.after, Event.unlogged_append, hcall.unlogged]
      exact h.calls.append hcall
    · rw [Ending.after, List.filterMap_append, hcall.no_records, List.append_nil]
      exact h.records
  · rw [hd] at h
    rw [dispatchOr_of_some hd]
    exact .inl ⟨h.calls, h.records⟩
  · rw [hd] at h
    rw [dispatchOr_of_panic hd]
    exact .inl ⟨h.calls, h.records⟩

/-- A dispatch with a fallback ends with a result of a rule exactly if the fallback is not called.
-/
theorem dispatchOr_eq_iff (d : Dispatcher σ ν In Out E) (f : Callback σ ν In (Except E Out))
    (x : In) (s : σ) (result : Except E Out) :
    (d.dispatch? x s).outcome = .done (some result) ↔ (d.dispatchOr f x s).outcome = .done result
      ∧ Event.callsIn .fallback (d.dispatchOr f x s).events = 0 := by
  have hcalls := callsIn_fallback_dispatchOr d f x s
  rcases hd : d.dispatch? x s with ⟨(_ | result') | message, events, t⟩
  · rw [hd] at hcalls
    obtain ⟨-, hone⟩ | ⟨hne, -⟩ := hcalls
    · simp [hone]
    · exact absurd rfl hne
  · rw [hd] at hcalls
    obtain ⟨hnone, -⟩ | ⟨-, hzero⟩ := hcalls
    · simp at hnone
    · rw [hzero, dispatchOr_of_some hd]
      simp
  · rw [dispatchOr_of_panic hd]
    simp

/-- An output is reported exactly if the dispatch has it. -/
theorem dispatch_eq_ok_iff (d : Dispatcher σ ν In Out E) (x : In) (s : σ) (out : Out) :
    (d.dispatch? x s).outcome = .done (some (.ok out)) ↔
      (d.dispatch x s).outcome = .done (.ok out) := by
  rw [dispatch_eq_map, Run.map_apply]
  rcases d.dispatch? x s with ⟨(_ | e | out') | message, events, t⟩ <;>
    simp [Outcome.map, settle]

/-- A failure of the action is reported exactly if the dispatch has it. -/
theorem dispatch_eq_action_iff (d : Dispatcher σ ν In Out E) (x : In) (s : σ) (e : E) :
    (d.dispatch? x s).outcome = .done (some (.error e)) ↔
      (d.dispatch x s).outcome = .done (.error (.action e)) := by
  rw [dispatch_eq_map, Run.map_apply]
  rcases d.dispatch? x s with ⟨(_ | e' | out) | message, events, t⟩ <;>
    simp [Outcome.map, settle]

/-- What three ways of dispatching an input from the same state have in common, and what tells their
ends apart. -/
structure EndsApart (d : Dispatcher σ ν In Out E) (f : Callback σ ν In (Except E Out)) (x : In)
    (s : σ) : Prop where
  /-- All three make the same calls and write the same records, but for a call of the fallback,
  which comes last. -/
  tells : ∃ (calls : Transcript σ ν) (records : List Record), (∀ c ∈ calls, c.role ≠ .fallback)
    ∧ Tells s calls records (d.dispatch? x s) ∧ Tells s calls records (d.dispatch x s)
    ∧ (Tells s calls records (d.dispatchOr f x s)
      ∨ ∃ o, Tells s (calls ++ [⟨.fallback, f, x, o⟩]) records (d.dispatchOr f x s))
  dispatch_events : (d.dispatch x s).events = (d.dispatch? x s).events
  dispatch_state : (d.dispatch x s).state = (d.dispatch? x s).state
  /-- For want of a rule a dispatch fails with the number of rules. -/
  noMatch_iff (reason : NoMatch) :
    (d.dispatch x s).outcome = .done (.error (.noMatch reason)) ↔
      reason = ⟨d.size⟩ ∧ (d.dispatch? x s).outcome = .done none
  /-- The fallback is called exactly if no rule takes the input, and then once. -/
  fallback_iff : (d.dispatch? x s).outcome = .done none ↔
    Event.callsIn .fallback (d.dispatchOr f x s).events = 1
  /-- Where no rule takes the input, all of them were asked. -/
  asked_of_none : (d.dispatch? x s).outcome = .done none → asked d.rules x s = d.size
  /-- Where no rule takes the input, the end is what the fallback makes of it. -/
  dispatchOr_of_none : (d.dispatch? x s).outcome = .done none →
    d.dispatchOr f x s
      = (f.call .fallback x (d.dispatch? x s).state).after (d.dispatch? x s).events
  dispatchOr_events : (d.dispatch? x s).outcome ≠ .done none →
    (d.dispatchOr f x s).events = (d.dispatch? x s).events
  dispatchOr_state : (d.dispatch? x s).outcome ≠ .done none →
    (d.dispatchOr f x s).state = (d.dispatch? x s).state
  output_iff (out : Out) : (d.dispatch? x s).outcome = .done (some (.ok out)) ↔
    (d.dispatch x s).outcome = .done (.ok out)
  outputOr_iff (out : Out) : (d.dispatch? x s).outcome = .done (some (.ok out)) ↔
    (d.dispatchOr f x s).outcome = .done (.ok out)
      ∧ Event.callsIn .fallback (d.dispatchOr f x s).events = 0
  failure_iff (e : E) : (d.dispatch? x s).outcome = .done (some (.error e)) ↔
    (d.dispatch x s).outcome = .done (.error (.action e))
  failureOr_iff (e : E) : (d.dispatch? x s).outcome = .done (some (.error e)) ↔
    (d.dispatchOr f x s).outcome = .done (.error e)
      ∧ Event.callsIn .fallback (d.dispatchOr f x s).events = 0
  /-- A failure of an action can be had back from that of the dispatch. -/
  failure_action? (e : E) : (d.dispatch? x s).outcome = .done (some (.error e)) →
    ∃ failure, (d.dispatch x s).outcome = .done (.error failure) ∧ failure.action? = some e
  /-- A failure is what the function at the core of the action answered in the last call of all. -/
  failure_core (e : E) : (d.dispatch? x s).outcome = .done (some (.error e)) →
    ∃ (i : Nat) (r : Rule σ ν In Out E) (v : r.View) (rejecting selecting : Transcript σ ν)
      (called : List (Event ν)), d.rules[i]? = some r
      ∧ AllReject x (d.rules.take i) rejecting ∧ r.Accepts x v selecting
      ∧ Transcript.Happens s (rejecting ++ selecting
        ++ [⟨.action, r.action.core, v, .done (.error e)⟩]) called (d.dispatch? x s).state
      ∧ (d.dispatch? x s).events = called ++ [.log (.handled i r.label)]
      ∧ asked d.rules x s = i + 1

/-- Three ways of dispatching an input from the same state.  They make the same calls and write the
same records, but for a call of the fallback, which comes last.  There is no answer exactly if the
dispatch fails for want of a rule, with the number of rules, all of which were asked; and exactly
if the fallback is called, once and with what it makes of the input as the outcome.  There is an
output exactly if the dispatch has that output, and exactly if it is the outcome without a call of
the fallback; and likewise a failure, which is what the function at the core of the action answered
in the last of all calls. -/
theorem ends_stay_apart (d : Dispatcher σ ν In Out E) (f : Callback σ ν In (Except E Out)) (x : In)
    (s : σ) : EndsApart d f x s where
  tells := by
    obtain ⟨calls, hrole, htells⟩ := exists_tells d x s
    exact ⟨calls, _, hrole, htells, htells.dispatch, htells.dispatchOr f⟩
  dispatch_events := by rw [dispatch_eq_map, Run.map_apply]
  dispatch_state := by rw [dispatch_eq_map, Run.map_apply]
  noMatch_iff _ := dispatch_eq_noMatch_iff
  fallback_iff := callsIn_fallback_eq_one_iff d f x s
  asked_of_none hnone := asked_of_none (Ending.eq_mk hnone)
  dispatchOr_of_none hnone := dispatchOr_of_none (Ending.eq_mk hnone)
  dispatchOr_events hne := by rw [dispatch?_eq_map_dispatchOr hne f, Run.map_apply]
  dispatchOr_state hne := by rw [dispatch?_eq_map_dispatchOr hne f, Run.map_apply]
  output_iff := dispatch_eq_ok_iff d x s
  outputOr_iff out := dispatchOr_eq_iff d f x s (.ok out)
  failure_iff := dispatch_eq_action_iff d x s
  failureOr_iff e := dispatchOr_eq_iff d f x s (.error e)
  failure_action? e herror := ⟨.action e, (dispatch_eq_action_iff d x s e).mp herror, rfl⟩
  failure_core _ herror := dispatch?_of_error (Ending.eq_mk herror)

namespace Sample

/-- Fails for every view. -/
def refusing : Callback Nat Nat Nat (Except String Nat) where
  shows x := some x
  body _ := pure (.error "refused")

/-- Asks once, and refuses what is not taken; another rule stands behind, and maps around all. -/
def strict : Dispatcher Nat Nat Nat Nat String :=
  ((once.orElse ⟨[.answering .any refusing, everyOther], false⟩).map (.silent (2 * ·))).map
    (.silent (· + 1))

end Sample

/-- The second rule of the sample takes the first input and refuses it; with the first rule alone
the fallback is called for that input. -/
theorem ends_stay_apart_strict :
    (Sample.strict.dispatch? 3 0).outcome = .done (some (.error "refused"))
    ∧ (∃ failure, (Sample.strict.dispatch 3 0).outcome = .done (.error failure)
      ∧ failure.action? = some "refused")
    ∧ (Sample.once.dispatch? 3 0).outcome = .done none
    ∧ asked Sample.once.rules 3 0 = 1
    ∧ Sample.once.dispatchOr Sample.refusing 3 0 = (Sample.refusing.call .fallback 3 1).after
      [.call .condition none, .note 0, .log (.unhandled 1)] := by
  have hrefused : (Sample.strict.dispatch? 3 0).outcome = .done (some (.error "refused")) := rfl
  have hnone : (Sample.once.dispatch? 3 0).outcome = .done none := rfl
  have hstrict := ends_stay_apart Sample.strict Sample.refusing 3 0
  have honce := ends_stay_apart Sample.once Sample.refusing 3 0
  exact ⟨hrefused, hstrict.failure_action? _ hrefused, hnone, honce.asked_of_none hnone,
    honce.dispatchOr_of_none hnone⟩

end Dispatcher

end FirstMatch
