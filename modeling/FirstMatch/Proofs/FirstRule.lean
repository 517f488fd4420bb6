/-
# The first rule that takes the input

What a dispatch does, said by its calls: every rule before some place rejects the input, the rule at
that place accepts it, and its action answers (`Dispatcher.Tries`).  The main statement is that a
dispatch has an answer, has none, or panics exactly when the calls that lead there happen, with the
events of these calls and one log record behind them.
-/
import FirstMatch.Proofs.Search

namespace FirstMatch

variable {σ ν In Out E : Type}

namespace Dispatcher

/-- What a dispatcher asks when the rule `r` at the place `i` is the first that does not reject the
input.  All rules before it reject the input; the rule accepts it and its action answers, or a panic
comes between. -/
inductive Tries (d : Dispatcher σ ν In Out E) (x : In) (i : Nat) (r : Rule σ ν In Out E) :
    Protocol σ ν (Except E Out)
  | accepted {rejecting selecting answering : Transcript σ ν} {v : r.View}
    {o : Outcome (Except E Out)} :
    d.rules[i]? = some r → AllReject x (d.rules.take i) rejecting → r.Accepts x v selecting →
    Action.Answers v r.action answering o →
    Tries d x i r (rejecting ++ selecting ++ answering) o
  | broken {rejecting selecting : Transcript σ ν} {message : String} :
    d.rules[i]? = some r → AllReject x (d.rules.take i) rejecting →
    r.Selects x selecting (.panic message) → Tries d x i r (rejecting ++ selecting) (.panic message)

/-- A place in a list of rules that holds a rule, as a place counted by the list itself. -/
theorem exists_index {rules : List (Rule σ ν In Out E)} {i : Nat} {r : Rule σ ν In Out E}
    (h : rules[i]? = some r) : ∃ j : Fin rules.length, (j : Nat) = i ∧ rules.get j = r := by
  obtain ⟨hi, hr⟩ := List.getElem?_eq_some_iff.mp h
  exact ⟨⟨i, hi⟩, rfl, hr⟩

/-- A rule stands at its place in the list. -/
theorem getElem?_index {rules : List (Rule σ ν In Out E)} (j : Fin rules.length) :
    rules[(j : Nat)]? = some (rules.get j) := List.getElem?_eq_getElem j.isLt

variable {d : Dispatcher σ ν In Out E} {x : In} {s t : σ} {events : List (Event ν)}

/-- A dispatch has a result exactly if the first rule that takes the input answers so. -/
theorem dispatch?_eq_some_iff {result : Except E Out} :
    d.dispatch? x s = ⟨.done (some result), events, t⟩ ↔
      ∃ i r calls called, d.Tries x i r calls (.done result)
        ∧ Transcript.Happens s calls called t ∧ events = called ++ [.log (.handled i r.label)] := by
  rw [← course_iff]
  constructor
  -- an answer leaves one course only: the search finds a rule and the action of that answers
  · rintro (_ | _ | _ | @⟨h, _, _, _, _, _, hfind, hrun⟩)
    obtain ⟨_, ⟨⟩ | ⟨_, hrejects, haccepts⟩, hselecting⟩ :=
      (follows_find? d.rules x s _ _ _).mp hfind
    obtain ⟨answering, hanswers, hanswering⟩ := (Action.follows_run _ _ _ _ _ _).mp hrun
    exact ⟨h.index, _, _, _, .accepted (getElem?_index _) hrejects haccepts hanswers,
      hselecting.append hanswering, rfl⟩
  · rintro ⟨i, r, _, called, ⟨hi, hrejects, haccepts, hanswers⟩, hcalled, rfl⟩
    obtain ⟨j, rfl, rfl⟩ := exists_index hi
    obtain ⟨events, u, events', hselecting, hanswering, rfl⟩ := hcalled.of_append
    have hfinds := Finds.found ⟨j, _⟩ hrejects haccepts
    exact .answered ((follows_find? d.rules x s _ _ _).mpr ⟨_, hfinds, hselecting⟩)
      ((Action.follows_run _ _ _ _ _ _).mpr ⟨_, hanswers, hanswering⟩)

/-- A dispatch has no result exactly if all rules reject the input. -/
theorem dispatch?_eq_none_iff :
    d.dispatch? x s = ⟨.done none, events, t⟩ ↔
      ∃ calls called, AllReject x d.rules calls ∧ Transcript.Happens s calls called t
        ∧ events = called ++ d.unhandledLog := by
  rw [← course_iff]
  constructor
  · rintro (_ | hfind)
    obtain ⟨calls, ⟨hrejects⟩, hcalled⟩ := (follows_find? d.rules x s _ _ _).mp hfind
    exact ⟨calls, _, hrejects, hcalled, rfl⟩
  · rintro ⟨calls, called, hrejects, hcalled, rfl⟩
    exact .missed ((follows_find? d.rules x s _ _ _).mpr ⟨calls, .missed hrejects, hcalled⟩)

/-- A dispatch panics exactly if a call does, of the rules in front or of the one that takes the
input. -/
theorem dispatch?_eq_panic_iff {message : String} :
    d.dispatch? x s = ⟨.panic message, events, t⟩ ↔
      ∃ i r calls, d.Tries x i r calls (.panic message) ∧ Transcript.Happens s calls events t := by
  rw [← course_iff]
  constructor
  -- the search may panic, or the action may
  · rintro (hfind | _ | @⟨h, _, _, _, _, _, hfind, hrun⟩)
    · obtain ⟨_, ⟨⟩ | _ | ⟨j, hrejects, hpanics⟩, hcalled⟩ :=
        (follows_find? d.rules x s _ _ _).mp hfind
      exact ⟨j, _, _, .broken (getElem?_index j) hrejects hpanics, hcalled⟩
    · obtain ⟨_, ⟨⟩ | ⟨_, hrejects, haccepts⟩, hselecting⟩ :=
        (follows_find? d.rules x s _ _ _).mp hfind
      obtain ⟨answering, hanswers, hanswering⟩ := (Action.follows_run _ _ _ _ _ _).mp hrun
      exact ⟨h.index, _, _, .accepted (getElem?_index _) hrejects haccepts hanswers,
        hselecting.append hanswering⟩
  · rintro ⟨i, r, _, ⟨hi, hrejects, haccepts, hanswers⟩ | ⟨hi, hrejects, hpanics⟩, hcalled⟩
    · obtain ⟨j, rfl, rfl⟩ := exists_index hi
      obtain ⟨events, u, events', hselecting, hanswering, rfl⟩ := hcalled.of_append
      have hfinds := Finds.found ⟨j, _⟩ hrejects haccepts
      exact .actionPanics ((follows_find? d.rules x s _ _ _).mpr ⟨_, hfinds, hselecting⟩)
        ((Action.follows_run _ _ _ _ _ _).mpr ⟨_, hanswers, hanswering⟩)
    · obtain ⟨j, rfl, rfl⟩ := exists_index hi
      have hfinds := Finds.broken j hrejects hpanics
      exact .searchPanics ((follows_find? d.rules x s _ _ _).mpr ⟨_, hfinds, hcalled⟩)

/-- A dispatch answers with a result exactly if, with the state handed on from call to call, all
rules before some place reject the input, the rule at that place accepts it, and its action has that
result; it has no answer exactly if all rules reject the input; and it panics exactly if one of
these calls does.  It leaves the events of the calls, which hold no log record, and behind them the
one record of how it ended. -/
theorem dispatch?_first_match (d : Dispatcher σ ν In Out E) (x : In) (s : σ) :
    (∀ result events t, d.dispatch? x s = ⟨.done (some result), events, t⟩ ↔
      ∃ i r calls called, d.Tries x i r calls (.done result)
        ∧ Transcript.Happens s calls called t ∧ called.filterMap Event.record? = []
        ∧ events = called ++ [.log (.handled i r.label)])
    ∧ (∀ events t, d.dispatch? x s = ⟨.done none, events, t⟩ ↔
      ∃ calls called, AllReject x d.rules calls
        ∧ Transcript.Happens s calls called t ∧ called.filterMap Event.record? = []
        ∧ events = called ++ if d.logUnhandled then [.log (.unhandled d.size)] else [])
    ∧ ∀ message events t, d.dispatch? x s = ⟨.panic message, events, t⟩ ↔
      ∃ i r calls, d.Tries x i r calls (.panic message)
        ∧ Transcript.Happens s calls events t ∧ events.filterMap Event.record? = [] := by
  refine ⟨fun result events t => ?_, fun events t => ?_, fun message events t => ?_⟩
  · rw [dispatch?_eq_some_iff]
    constructor
    · rintro ⟨i, r, calls, called, htries, hcalled, rfl⟩
      exact ⟨i, r, calls, called, htries, hcalled, hcalled.no_records, rfl⟩
    · rintro ⟨i, r, calls, called, htries, hcalled, -, rfl⟩
      exact ⟨i, r, calls, called, htries, hcalled, rfl⟩
  · rw [dispatch?_eq_none_iff]
    constructor
    · rintro ⟨calls, called, hrejects, hcalled, rfl⟩
      exact ⟨calls, called, hrejects, hcalled, hcalled.no_records, rfl⟩
    · rintro ⟨calls, called, hrejects, hcalled, -, rfl⟩
      exact ⟨calls, called, hrejects, hcalled, rfl⟩
  · rw [dispatch?_eq_panic_iff]
    constructor
    · rintro ⟨i, r, calls, htries, hcalled⟩
      exact ⟨i, r, calls, htries, hcalled, hcalled.no_records⟩
    · rintro ⟨i, r, calls, htries, hcalled, -⟩
      exact ⟨i, r, calls, htries, hcalled⟩

end Dispatcher

end FirstMatch
