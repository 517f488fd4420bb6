/-
# Calls and records balance

What the uses of dispatchers leave behind is entered in a ledger: how often an action and a fallback
were called, and how many records say that a rule took an input or that none did.  Ledgers of events
in a row add up (`Ledger.of_append`).

There are only four things that a use can enter (`Entered`), and which of them it is depends on
whether the scan ended without a rule and on whether an action or a map panicked.  So the ledger of
a whole series of uses is settled by the number of uses of each kind (`accounts_balance`).
-/
import FirstMatch.Proofs.Outcomes
import FirstMatch.Proofs.Queries

namespace FirstMatch

variable {σ ν α β In Out E View : Type}

/-! ## Ledgers -/

/-- The number of records with a message among events. -/
def Event.saying (message : String) (events : List (Event ν)) : Nat :=
  (events.filterMap record?).countP fun record => record.message == message

/-- What events amount to. -/
@[ext] structure Ledger where
  /-- Calls of actions, not counting their maps. -/
  actions : Nat
  fallbacks : Nat
  /-- Records of a rule that took an input. -/
  handled : Nat
  /-- Records of an input that no rule took. -/
  unhandled : Nat
  deriving DecidableEq, Repr

namespace Ledger

/-- The ledger of events. -/
def of (events : List (Event ν)) : Ledger where
  actions := Event.callsIn .action events
  fallbacks := Event.callsIn .fallback events
  handled := Event.saying "case handled input" events
  unhandled := Event.saying "no case matched input" events

/-- Two ledgers as one. -/
def plus (l l' : Ledger) : Ledger :=
  ⟨l.actions + l'.actions, l.fallbacks + l'.fallbacks, l.handled + l'.handled,
    l.unhandled + l'.unhandled⟩

/-- The ledger of two series of events is that of both together. -/
theorem of_append (events events' : List (Event ν)) :
    of (events ++ events') = (of events).plus (of events') := by
  simp only [of, plus, Event.callsIn_append, Event.saying, List.filterMap_append,
    List.countP_append]

/-- The ledger of events without records counts the calls of their transcript. -/
theorem of_happens {s t : σ} {calls : Transcript σ ν} {events : List (Event ν)}
    (h : Transcript.Happens s calls events t) :
    of events = ⟨(calls.map Exchange.role).count .action, (calls.map Exchange.role).count .fallback,
      0, 0⟩ := by
  simp only [of, h.callsIn, Event.saying, h.no_records, List.countP_nil]

end Ledger

/-- Calls in roles of a kind have no call in a role of another kind. -/
theorem Transcript.Within.count_eq_zero {kind : Role → Bool} {calls : Transcript σ ν}
    (h : Transcript.Within kind calls) {role : Role} (hrole : kind role = false) :
    (calls.map Exchange.role).count role = 0 := by
  rw [List.count_eq_zero]
  intro hmem
  obtain ⟨c, hc, rfl⟩ := List.mem_map.mp hmem
  rw [h c hc] at hrole
  cases hrole

/-- An action calls its function once, and no fallback. -/
theorem Action.Answers.count_action {v : View} {a : Action σ ν View E Out} {calls : Transcript σ ν}
    {o : Outcome (Except E Out)} (h : Action.Answers v a calls o) :
    (calls.map Exchange.role).count .action = 1 := by
  induction h with
  | answer f o => rfl
  | output f o _ ih =>
    rw [List.map_append, List.count_append, ih]
    rfl
  | failure f _ ih => exact ih
  | panic f _ ih => exact ih

namespace Dispatcher

variable {d : Dispatcher σ ν In Out E} {x : In} {s t : σ} {events : List (Event ν)}

/-- A search enters nothing. -/
theorem ledger_find? {rules : List (Rule σ ν In Out E)} {o : Outcome (Option (Hit rules))}
    (h : find? rules x s = ⟨o, events, t⟩) : Ledger.of events = ⟨0, 0, 0, 0⟩ := by
  obtain ⟨calls, hfinds, hcalled⟩ := (follows_find? rules x s o events t).mp h
  rw [Ledger.of_happens hcalled, hfinds.within.count_eq_zero rfl, hfinds.within.count_eq_zero rfl]

/-- An action enters its one call. -/
theorem ledger_run {a : Action σ ν View E Out} {v : View} {o : Outcome (Except E Out)}
    (h : a.run v s = ⟨o, events, t⟩) : Ledger.of events = ⟨1, 0, 0, 0⟩ := by
  obtain ⟨calls, hanswers, hcalled⟩ := (a.follows_run v s o events t).mp h
  rw [Ledger.of_happens hcalled, hanswers.count_action, hanswers.within.count_eq_zero rfl]

/-- Giving up enters one record, if unhandled input is logged. -/
theorem ledger_unhandledLog (d : Dispatcher σ ν In Out E) :
    Ledger.of d.unhandledLog = ⟨0, 0, 0, d.logUnhandled.toNat⟩ := by
  rw [unhandledLog]
  cases d.logUnhandled <;> rfl

end Dispatcher

/-! ## What a use enters -/

/-- Whether a run panicked while a function in a role of some kind was called. -/
def Ending.panicsIn (kind : Role → Bool) (e : Ending σ (Event ν) α) : Bool :=
  match e.outcome with
  | .panic _ => (Event.lastRole? e.events).any kind
  | .done _ => false

/-- What a use may enter, if its dispatcher logs unhandled input or not: nothing; with the scan at
an end without a rule, the record of that and perhaps a call of the fallback; if an action or a map
panicked, the call of the action; or that call and the record that a rule took the input. -/
inductive Entered (log : Bool) : (missed : Bool) → (broken : Bool) → Ledger → Prop
  | nothing : Entered log false false ⟨0, 0, 0, 0⟩
  | missed (fallbacks : Nat) : fallbacks ≤ 1 → Entered log true false ⟨0, fallbacks, 0, log.toNat⟩
  | broken : Entered log false true ⟨1, 0, 0, 0⟩
  | answered : Entered log false false ⟨1, 0, 1, 0⟩

namespace Entered

variable {log missed broken : Bool} {l : Ledger}

/-- An action that was called took the input, or broke. -/
theorem actions_eq (h : Entered log missed broken l) : l.actions = l.handled + broken.toNat := by
  cases h <;> rfl

/-- Unhandled input is recorded if the dispatcher missed it and logs that. -/
theorem unhandled_eq (h : Entered log missed broken l) : l.unhandled = (missed && log).toNat := by
  cases h <;> simp

/-- At most one action is called. -/
theorem actions_le (h : Entered log missed broken l) : l.actions ≤ 1 := by
  cases h <;> simp

/-- An action and the fallback are not both called. -/
theorem apart (h : Entered log missed broken l) : l.actions = 0 ∨ l.fallbacks = 0 := by
  cases h <;> simp

end Entered

namespace Dispatcher

/-- Whether the scan for an input ends without a rule that takes it. -/
def misses (d : Dispatcher σ ν In Out E) (x : In) (s : σ) : Bool :=
  match (scan 0 d.rules x s).outcome with
  | .done none => true
  | _ => false

variable {d : Dispatcher σ ν In Out E} {x : In} {s t : σ} {events : List (Event ν)}

/-- A dispatch without an answer has missed the input. -/
theorem misses_of_none (h : d.dispatch? x s = ⟨.done none, events, t⟩) : d.misses x s = true := by
  obtain ⟨asked, hscan, -⟩ := dispatch?_eq_none_iff_scan.mp h
  rw [misses, hscan]

/-- A dispatch that answers or panics has not missed the input. -/
theorem misses_of_ne_none (h : (d.dispatch? x s).outcome ≠ .done none) :
    d.misses x s = false := by
  have hscan := scan_ne_none_of_dispatch? h
  rw [misses]
  split
  · next hnone => exact absurd hnone hscan
  · rfl

/-- A search does not panic in an action or a map. -/
theorem panicsIn_of_find? {message : String}
    (h : find? d.rules x s = ⟨.panic message, events, t⟩) :
    (⟨.panic message, events, t⟩ : Ending σ (Event ν) α).panicsIn Role.answers = false := by
  obtain ⟨role, hrole, hselects⟩ := lastRole?_of_find? h
  simp only [Ending.panicsIn, hrole, Option.any_some]
  cases hanswers : role.answers with
  | false => rfl
  | true => exact absurd (selects_eq_false_of_answers hanswers) (by simp [hselects])

/-- What a dispatch enters. -/
theorem entered_dispatch? (d : Dispatcher σ ν In Out E) (x : In) (s : σ) :
    Entered d.logUnhandled (d.misses x s) ((d.dispatch? x s).panicsIn Role.answers)
      (Ledger.of (d.dispatch? x s).events) := by
  have hcourse : Course d x s (d.dispatch? x s) := course_iff.mpr rfl
  generalize hd : d.dispatch? x s = e at hcourse
  have hmisses : e.outcome ≠ .done none → d.misses x s = false := by
    rintro hne
    exact misses_of_ne_none (by rwa [hd])
  cases hcourse with
  | searchPanics hfind =>
    rw [hmisses (by simp), panicsIn_of_find? hfind, ledger_find? hfind]
    exact .nothing
  | missed hfind =>
    rw [misses_of_none hd, Ledger.of_append, ledger_find? hfind, ledger_unhandledLog]
    simp only [Ledger.plus, Nat.zero_add]
    exact .missed 0 (Nat.zero_le 1)
  | actionPanics hfind hrun =>
    -- the action was called, and nothing is logged behind it
    obtain ⟨role, hrole, hanswers⟩ := lastRole?_of_run hfind hrun
    rw [hmisses (by simp), Ledger.of_append, ledger_find? hfind, ledger_run hrun]
    simp only [Ending.panicsIn, hrole, Option.any_some, hanswers]
    exact .broken
  | answered hfind hrun =>
    rw [hmisses (by simp), Ledger.of_append, Ledger.of_append, ledger_find? hfind, ledger_run hrun]
    exact .answered

/-- What a dispatch with a fallback enters: what the dispatch enters, and the call of the fallback
where there is no answer. -/
theorem entered_dispatchOr (d : Dispatcher σ ν In Out E) (f : Callback σ ν In (Except E Out))
    (x : In) (s : σ) :
    Entered d.logUnhandled (d.misses x s) ((d.dispatchOr f x s).panicsIn Role.answers)
      (Ledger.of (d.dispatchOr f x s).events) := by
  have hentered := entered_dispatch? d x s
  rcases hd : d.dispatch? x s with ⟨(_ | result) | message, events, t⟩
  · have hcall := Transcript.happens_call .fallback f x t
    have hrole : Event.lastRole? (events ++ (f.call .fallback x t).events) = some .fallback := by
      rw [Event.lastRole?, List.filterMap_append, hcall.roles, List.getLast?_append]
      rfl
    -- the fallback may panic, but it is no action
    have hpanics : (d.dispatchOr f x s).panicsIn Role.answers = false := by
      rw [dispatchOr_of_none hd, Ending.panicsIn, Ending.after]
      split
      · rw [hrole]
        rfl
      · rfl
    obtain ⟨calls, called, hrejects, hcalled, rfl⟩ := dispatch?_eq_none_iff.mp hd
    rw [hpanics, misses_of_none hd, dispatchOr_of_none hd, Ending.after, Ledger.of_append,
      Ledger.of_append, Ledger.of_happens hcalled, Ledger.of_happens hcall, ledger_unhandledLog,
      hrejects.within.count_eq_zero rfl, hrejects.within.count_eq_zero rfl]
    simp only [Ledger.plus, Nat.zero_add]
    exact .missed 1 (Nat.le_refl 1)
  · rw [hd] at hentered
    rw [dispatchOr_of_some hd]
    exact hentered
  · rw [hd] at hentered
    rw [dispatchOr_of_panic hd]
    exact hentered

end Dispatcher

/-! ## Series of uses -/

/-- A function of the value of a run leaves where it panics. -/
theorem Ending.panicsIn_map (kind : Role → Bool) (f : α → β) (x : Run σ (Event ν) α) (s : σ) :
    ((f <$> x) s).panicsIn kind = (x s).panicsIn kind := by
  rw [Run.map_apply]
  unfold Ending.panicsIn
  cases (x s).outcome <;> rfl

namespace Made

/-- Whether a use panicked in an action or a map. -/
def breaks (m : Made σ ν) : Bool := m.ending.panicsIn Role.answers

/-- Whether a use dispatched an input and its scan ended without a rule that takes it. -/
def misses (m : Made σ ν) : Bool :=
  !m.isQuery && m.use.dispatcher.misses m.use.request.input m.start

/-- Whether a use is to be recorded as one for which there was no rule. -/
def missesAloud (m : Made σ ν) : Bool := m.misses && m.use.dispatcher.logUnhandled

/-- A question enters nothing, and counts for nothing. -/
theorem entered_of_isQuery {m : Made σ ν} (hm : m.isQuery = true) :
    Ledger.of m.ending.events = ⟨0, 0, 0, 0⟩ ∧ m.breaks = false ∧ m.misses = false := by
  obtain ⟨u, s⟩ := m
  obtain ⟨x, hx⟩ := Use.isQuery_iff.mp hm
  have hending : Made.ending ⟨u, s⟩ = (Answer.accepted <$> u.dispatcher.accepts x) s := by
    unfold Made.ending Use.run
    rw [hx]
    rfl
  unfold breaks misses
  rw [hending, Ending.panicsIn_map, Run.map_apply, Dispatcher.accepts_apply, hm]
  rcases hfind : Dispatcher.find? u.dispatcher.rules x s with ⟨h? | message, events, t⟩
  · exact ⟨Dispatcher.ledger_find? hfind, rfl, rfl⟩
  · exact ⟨Dispatcher.ledger_find? hfind, Dispatcher.panicsIn_of_find? hfind, rfl⟩

/-- What a use enters. -/
theorem entered (m : Made σ ν) :
    Entered m.use.dispatcher.logUnhandled m.misses m.breaks (Ledger.of m.ending.events) := by
  by_cases hm : m.isQuery = true
  · obtain ⟨hledger, hbreaks, hmisses⟩ := entered_of_isQuery hm
    rw [hledger, hbreaks, hmisses]
    exact .nothing
  · obtain ⟨⟨d, u⟩, s⟩ := m
    cases u with
    | accepts x => exact absurd rfl hm
    | dispatch? x =>
      have hending : Made.ending ⟨⟨d, .dispatch? x⟩, s⟩
          = (Answer.answer? <$> d.dispatch? x) s := rfl
      unfold breaks
      rw [hending, Ending.panicsIn_map, Run.map_apply]
      exact d.entered_dispatch? x s
    | dispatch x =>
      have hending : Made.ending ⟨⟨d, .dispatch x⟩, s⟩ = (Answer.answer <$> d.dispatch x) s := rfl
      unfold breaks
      rw [hending, d.dispatch_eq_map, Ending.panicsIn_map, Ending.panicsIn_map, Run.map_apply,
        Run.map_apply]
      exact d.entered_dispatch? x s
    | dispatchOr f x =>
      have hending : Made.ending ⟨⟨d, .dispatchOr f x⟩, s⟩
          = (Answer.answerOr <$> d.dispatchOr f x) s := rfl
      unfold breaks
      rw [hending, Ending.panicsIn_map, Run.map_apply]
      exact d.entered_dispatchOr f x s

end Made

/-- The ledger of a series of uses is settled by the number of uses of each kind. -/
theorem Use.ledger_series (us : List (Use σ ν)) (s : σ) :
    (Ledger.of (events us s)).actions
      = (Ledger.of (events us s)).handled + (series us s).countP Made.breaks
    ∧ (Ledger.of (events us s)).unhandled = (series us s).countP Made.missesAloud := by
  induction us generalizing s with
  | nil => exact ⟨rfl, rfl⟩
  | cons u us ih =>
    have hledger : Ledger.of (events (u :: us) s)
        = (Ledger.of (Made.ending ⟨u, s⟩).events).plus (Ledger.of (events us (u.run s).state)) :=
      Ledger.of_append _ _
    have hentered := Made.entered ⟨u, s⟩
    have hactions := hentered.actions_eq
    have hunhandled : (Ledger.of (Made.ending ⟨u, s⟩).events).unhandled
        = (Made.missesAloud ⟨u, s⟩).toNat := hentered.unhandled_eq
    obtain ⟨hactions', hunhandled'⟩ := ih (u.run s).state
    -- each use counts as one or as nothing, which is a truth value as a number
    have htoNat : ∀ b : Bool, (if b = true then 1 else 0) = b.toNat := by decide
    rw [hledger, series, List.countP_cons, List.countP_cons, htoNat, htoNat]
    simp only [Ledger.plus]
    constructor
    · omega
    · omega

/-- The calls and records of a series of uses of any dispatchers.  Actions are called as often as a
record says that a rule took the input, and once more for each use that panicked in an action or a
map.  That no rule took the input is recorded as often as a dispatch found none on a dispatcher that
logs this, whatever the fallback does then.  In a single use there is at most one call of an action,
and not also one of the fallback; and questions count for nothing. -/
theorem accounts_balance (us : List (Use σ ν)) (s : σ) :
    (Event.callsIn .action (Use.events us s)
      = Event.saying "case handled input" (Use.events us s)
        + (Use.series us s).countP Made.breaks)
    ∧ (Event.saying "no case matched input" (Use.events us s)
      = (Use.series us s).countP Made.missesAloud)
    ∧ ∀ m ∈ Use.series us s, Event.callsIn .action m.ending.events ≤ 1
      ∧ (Event.callsIn .action m.ending.events = 0 ∨ Event.callsIn .fallback m.ending.events = 0)
      ∧ (m.isQuery = true → Ledger.of m.ending.events = ⟨0, 0, 0, 0⟩
        ∧ m.breaks = false ∧ m.missesAloud = false) := by
  obtain ⟨hactions, hunhandled⟩ := Use.ledger_series us s
  refine ⟨hactions, hunhandled, fun m _ => ⟨m.entered.actions_le, m.entered.apart, fun hm => ?_⟩⟩
  obtain ⟨hledger, hbreaks, hmisses⟩ := Made.entered_of_isQuery hm
  exact ⟨hledger, hbreaks, by rw [Made.missesAloud, hmisses, Bool.false_and]⟩

/-- A question, an input that is taken, one that is not and on which the fallback panics, and one on
which the action panics. -/
def Dispatcher.Sample.mixed : List (Use Nat Nat) :=
  [⟨once, .accepts 5⟩, ⟨once, .dispatch 5⟩, ⟨once, .dispatchOr nonzero 0⟩, ⟨once, .dispatch 0⟩]

open Dispatcher.Sample (mixed) in
/-- Two actions were called, one of which panicked; and one input was not taken. -/
theorem accounts_balance_mixed :
    Ledger.of (Use.events mixed 0) = ⟨2, 1, 1, 1⟩
    ∧ 2 = 1 + (Use.series mixed 0).countP Made.breaks
    ∧ 1 = (Use.series mixed 0).countP Made.missesAloud
    ∧ ∀ m ∈ Use.series mixed 0, m.isQuery = true → Ledger.of m.ending.events = ⟨0, 0, 0, 0⟩ := by
  have hledger : Ledger.of (Use.events mixed 0) = ⟨2, 1, 1, 1⟩ := by rfl
  obtain ⟨hactions, hunhandled, hqueries⟩ := accounts_balance mixed 0
  obtain ⟨hcalled, -, hhandled, hmissed⟩ := Ledger.mk.inj hledger
  rw [hcalled, hhandled] at hactions
  rw [hmissed] at hunhandled
  refine ⟨hledger, hactions, hunhandled, fun m hm hquery => ?_⟩
  obtain ⟨-, -, hzero⟩ := hqueries m hm
  exact (hzero hquery).1

end FirstMatch
