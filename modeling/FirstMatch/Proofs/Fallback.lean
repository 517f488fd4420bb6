/-
# The fallback as a last rule

A dispatch with a fallback calls it behind all rules, on the whole input and in the state in which
these left off.  A catch-all that is chained behind the dispatcher is asked at that very point, so
it may take the place of the fallback: the call is the same but for its role, and the dispatch ends
alike (`Dispatcher.dispatchOr_as_last_rule`).

Only the log tells the two apart, and only where no other rule takes the input.  That is on record
before a fallback is called and never where a catch-all stands behind, which in turn has its place
on record once it has answered.
-/
import FirstMatch.Proofs.Outcomes

namespace FirstMatch

variable {σ ν In Out E : Type}

/-! ## Outcomes behind a map -/

/-- A function of the value of an outcome leaves whether it is a panic. -/
theorem Outcome.map_eq_panic_iff {α β : Type} {f : α → β} {o : Outcome α} {message : String} :
    o.map f = .panic message ↔ o = .panic message := by
  cases o <;> simp [map]

/-- An outcome has a value exactly if it has it with `some` around it. -/
theorem Outcome.map_some_eq_iff {α : Type} {o : Outcome α} {a : α} :
    o.map some = .done (some a) ↔ o = .done a := by
  cases o <;> simp [map]

/-! ## Calls of a rule instead of the fallback -/

/-- The same call, made by a rule with its action where it was one of the fallback. -/
def Exchange.byRule (c : Exchange σ ν) : Exchange σ ν :=
  { c with role := if c.role = .fallback then .action else c.role }

/-- Calls in roles other than that of the fallback stay as they are. -/
theorem Transcript.map_byRule {kind : Role → Bool} (hkind : kind .fallback = false)
    {calls : Transcript σ ν} (h : Within kind calls) : calls.map Exchange.byRule = calls := by
  have hsame : ∀ c ∈ calls, c.byRule = id c := by
    intro c hc
    have hrole : c.role ≠ .fallback := by
      intro hrole
      have htrue := h c hc
      rw [hrole, hkind] at htrue
      cases htrue
    rw [Exchange.byRule, if_neg hrole]
    rfl
  rw [List.map_congr_left hsame, List.map_id]

namespace Dispatcher

/-! ## Rules that are tried -/

section Tries

variable {d : Dispatcher σ ν In Out E} {x : In} {i : Nat} {r : Rule σ ν In Out E}
  {calls : Transcript σ ν} {o : Outcome (Except E Out)}

/-- What is asked up to the first rule that does not reject the input are the calls of a use. -/
theorem Tries.talks {u : InputStep σ ν In Out E} (h : d.Tries u.input i r calls o) :
    u.Talks d calls := by
  cases h with
  | accepted hi hrejects haccepts hanswers =>
    obtain ⟨j, rfl, rfl⟩ := exists_index hi
    exact .answering (.found ⟨j, _⟩ hrejects haccepts) hanswers
  | broken hi hrejects hpanics =>
    obtain ⟨j, rfl, rfl⟩ := exists_index hi
    exact .searching (.broken j hrejects hpanics)

/-- Rules behind the one that is tried do not matter. -/
theorem Tries.orElse (h : d.Tries x i r calls o) (e : Dispatcher σ ν In Out E) :
    (d.orElse e).Tries x i r calls o := by
  have hplace : d.rules[i]? = some r →
      (d.orElse e).rules[i]? = some r ∧ (d.orElse e).rules.take i = d.rules.take i := by
    intro hi
    obtain ⟨hlt, -⟩ := List.getElem?_eq_some_iff.mp hi
    constructor
    · show (d.rules ++ e.rules)[i]? = some r
      rw [List.getElem?_append_left hlt, hi]
    · exact List.take_append_of_le_length (Nat.le_of_lt hlt)
  cases h with
  | accepted hi hrejects haccepts hanswers =>
    obtain ⟨hi', htake⟩ := hplace hi
    exact .accepted hi' (htake ▸ hrejects) haccepts hanswers
  | broken hi hrejects hpanics =>
    obtain ⟨hi', htake⟩ := hplace hi
    exact .broken hi' (htake ▸ hrejects) hpanics

/-- Rules do not call the fallback. -/
theorem Tries.map_byRule (h : d.Tries x i r calls o) : calls.map Exchange.byRule = calls := by
  cases h with
  | accepted _ hrejects haccepts hanswers =>
    rw [List.map_append, List.map_append, Transcript.map_byRule rfl hrejects.within,
      Transcript.map_byRule rfl haccepts.within, Transcript.map_byRule rfl hanswers.within]
  | broken _ hrejects hpanics =>
    rw [List.map_append, Transcript.map_byRule rfl hrejects.within,
      Transcript.map_byRule rfl hpanics.within]

end Tries

/-! ## A catch-all behind a dispatcher -/

/-- The dispatcher that is compiled from one rule, which takes every input. -/
def catching (f : Callback σ ν In (Except E Out)) : Dispatcher σ ν In Out E :=
  (Draft.empty.add (.answering .any f)).compile.dispatcher

variable {d : Dispatcher σ ν In Out E} {f : Callback σ ν In (Except E Out)} {x : In} {s t u : σ}
  {rejecting : Transcript σ ν} {asked events : List (Event ν)}

/-- Behind rules that reject the input, the catch-all is called on all of it. -/
theorem tries_catching (h : AllReject x d.rules rejecting) (o : Outcome (Except E Out)) :
    (d.orElse (catching f)).Tries x d.size (.answering .any f)
      (rejecting ++ [⟨.action, f, x, o⟩]) o := by
  have hplace : (d.orElse (catching f)).rules[d.size]? = some (.answering .any f) :=
    List.getElem?_concat_length
  have htake : (d.orElse (catching f)).rules.take d.size = d.rules := List.take_left
  have haccepts : (Rule.answering .any f).Accepts x x ([] ++ []) := .met .any (.free rfl)
  rw [← List.append_nil rejecting]
  exact .accepted hplace (htake.symm ▸ h) haccepts (.answer f o)

/-- Where all rules reject the input the catch-all answers for it at the last place. -/
theorem dispatch?_orElse_catching_of_done {result : Except E Out}
    (h : AllReject x d.rules rejecting) (hcalled : Transcript.Happens s rejecting asked t)
    (hf : f.call .action x t = ⟨.done result, events, u⟩) :
    (d.orElse (catching f)).dispatch? x s
      = ⟨.done (some result), asked ++ events ++ [.log (.handled d.size "any")], u⟩ :=
  dispatch?_eq_some_iff.mpr ⟨d.size, _, _, _, tries_catching h _,
    hcalled.append (Transcript.happens_singleton_iff.mpr hf), rfl⟩

/-- Where all rules reject the input and the catch-all panics, nothing is logged. -/
theorem dispatch?_orElse_catching_of_panic {message : String}
    (h : AllReject x d.rules rejecting) (hcalled : Transcript.Happens s rejecting asked t)
    (hf : f.call .action x t = ⟨.panic message, events, u⟩) :
    (d.orElse (catching f)).dispatch? x s = ⟨.panic message, asked ++ events, u⟩ :=
  dispatch?_eq_panic_iff.mpr ⟨d.size, _, _, tries_catching h _,
    hcalled.append (Transcript.happens_singleton_iff.mpr hf)⟩

/-! ## Where a rule takes the input -/

/-- A dispatch that does not end for want of a rule has tried one. -/
theorem exists_tries (h : (d.dispatch? x s).outcome ≠ .done none) :
    ∃ i r calls o, d.Tries x i r calls o ∧ Transcript.Happens s calls
      (Event.unlogged (d.dispatch? x s).events) (d.dispatch? x s).state := by
  rcases hd : d.dispatch? x s with ⟨(_ | result) | message, events, t⟩
  · rw [hd] at h
    exact absurd rfl h
  · obtain ⟨i, r, calls, called, htries, hcalled, rfl⟩ := dispatch?_eq_some_iff.mp hd
    refine ⟨i, r, calls, _, htries, ?_⟩
    rw [Event.unlogged_append, hcalled.unlogged, Event.unlogged_log, List.append_nil]
    exact hcalled
  · obtain ⟨i, r, calls, htries, hcalled⟩ := dispatch?_eq_panic_iff.mp hd
    refine ⟨i, r, calls, _, htries, ?_⟩
    rw [hcalled.unlogged]
    exact hcalled

/-! ## Where no rule takes the input -/

/-- A dispatch that ends for want of a rule has asked all of them in vain. -/
theorem exists_allReject (h : (d.dispatch? x s).outcome = .done none) :
    ∃ rejecting asked t, AllReject x d.rules rejecting ∧ Transcript.Happens s rejecting asked t
      ∧ d.dispatch? x s = ⟨.done none, asked ++ d.unhandledLog, t⟩ := by
  obtain ⟨rejecting, asked, hrejects, hcalled, hevents⟩ :=
    dispatch?_eq_none_iff.mp (Ending.eq_mk h)
  exact ⟨rejecting, asked, _, hrejects, hcalled, hevents ▸ Ending.eq_mk h⟩

/-- Behind rules that all reject the input come the call of the fallback in the one dispatch and
that of the catch-all in the other; both leave the same notes and the same state. -/
theorem exists_falls (h : (d.dispatch? x s).outcome = .done none)
    (f : Callback σ ν In (Except E Out)) :
    ∃ rejecting asked t, AllReject x d.rules rejecting
      ∧ Transcript.Happens s rejecting asked t
      ∧ d.dispatchOr f x s = ⟨(f.body x t).outcome, asked ++ d.unhandledLog
        ++ .call .fallback (f.shows x) :: (f.body x t).events.map .note, (f.body x t).state⟩
      ∧ (d.orElse (catching f)).dispatch? x s = ⟨(f.body x t).outcome.map some, asked
        ++ .call .action (f.shows x) :: (f.body x t).events.map .note
        ++ (match (f.body x t).outcome with
          | .done _ => [.log (.handled d.size "any")]
          | .panic _ => []), (f.body x t).state⟩ := by
  obtain ⟨rejecting, asked, t, hrejects, hcalled, hd⟩ := exists_allReject h
  refine ⟨rejecting, asked, t, hrejects, hcalled, ?_, ?_⟩
  · rw [dispatchOr_of_none hd, Callback.call_apply, Ending.after_mk]
  · have hcall := f.call_apply .action x t
    rcases hbody : f.body x t with ⟨result | message, notes, u⟩
    · rw [hbody] at hcall
      exact dispatch?_orElse_catching_of_done hrejects hcalled hcall
    · rw [hbody] at hcall
      rw [List.append_nil]
      exact dispatch?_orElse_catching_of_panic hrejects hcalled hcall

/-! ## Both dispatches -/

/-- Both dispatches end alike, with the same result or with the same panic, and leave the same
state. -/
theorem ends_orElse_catching (d : Dispatcher σ ν In Out E) (f : Callback σ ν In (Except E Out))
    (x : In) (s : σ) :
    ((d.orElse (catching f)).dispatch? x s).outcome = (d.dispatchOr f x s).outcome.map some
      ∧ ((d.orElse (catching f)).dispatch? x s).state = (d.dispatchOr f x s).state := by
  by_cases h : (d.dispatch? x s).outcome = .done none
  · obtain ⟨_, _, _, -, -, hor, hcatching⟩ := exists_falls h f
    rw [hor, hcatching]
    exact ⟨rfl, rfl⟩
  · rw [dispatch?_orElse_of_ne_none h, dispatch?_eq_map_dispatchOr h f, Run.map_apply]
    exact ⟨rfl, rfl⟩

/-- Both dispatches make the same calls, but for the role of the last one where no rule of the
dispatcher takes the input. -/
theorem exists_talks_orElse_catching (d : Dispatcher σ ν In Out E)
    (f : Callback σ ν In (Except E Out)) (x : In) (s : σ) :
    ∃ calls, (InputStep.dispatchOr f x).Talks d calls
      ∧ (InputStep.dispatch? x).Talks (d.orElse (catching f)) (calls.map Exchange.byRule)
      ∧ Transcript.Happens s calls (Event.unlogged (d.dispatchOr f x s).events)
        (d.dispatchOr f x s).state
      ∧ Transcript.Happens s (calls.map Exchange.byRule)
        (Event.unlogged ((d.orElse (catching f)).dispatch? x s).events)
        ((d.orElse (catching f)).dispatch? x s).state := by
  by_cases h : (d.dispatch? x s).outcome = .done none
  · obtain ⟨rejecting, asked, t, hrejects, hcalled, hor, hcatching⟩ := exists_falls h f
    have hcall : ∀ role, Transcript.Happens t [⟨role, f, x, (f.body x t).outcome⟩]
        (.call role (f.shows x) :: (f.body x t).events.map .note) (f.body x t).state :=
      fun role => Transcript.happens_call role f x t
    -- rules that reject call no fallback, so only the last call has another role
    have hrules : List.map Exchange.byRule
        (rejecting ++ [⟨.fallback, f, x, (f.body x t).outcome⟩] : Transcript σ ν)
        = rejecting ++ [⟨.action, f, x, (f.body x t).outcome⟩] := by
      rw [List.map_append, Transcript.map_byRule rfl hrejects.within]
      rfl
    have hlast : Event.unlogged (match (f.body x t).outcome with
        | .done _ => [.log (.handled d.size "any")]
        | .panic _ => []) = ([] : List (Event ν)) := by
      cases (f.body x t).outcome <;> rfl
    refine ⟨_, .falling (f.body x t).outcome rfl hrejects, ?_⟩
    rw [hrules, hor, hcatching, Event.unlogged_append, Event.unlogged_append,
      Event.unlogged_append, Event.unlogged_append, hlast, d.unlogged_unhandledLog,
      hcalled.unlogged, (hcall .fallback).unlogged, (hcall .action).unlogged, List.append_nil,
      List.append_nil]
    exact ⟨(tries_catching hrejects _).talks, hcalled.append (hcall .fallback),
      hcalled.append (hcall .action)⟩
  -- otherwise both try the same rule, and neither gets to what stands behind
  · obtain ⟨i, r, calls, o, htries, hcalled⟩ := exists_tries h
    rw [dispatch?_eq_map_dispatchOr h f, Run.map_apply] at hcalled
    refine ⟨calls, htries.talks, ?_⟩
    rw [htries.map_byRule, dispatch?_orElse_of_ne_none h, dispatch?_eq_map_dispatchOr h f,
      Run.map_apply]
    exact ⟨(htries.orElse (catching f)).talks, hcalled, hcalled⟩

/-- How a dispatch with a fallback compares to one with the fallback as the action of a catch-all
behind all rules. -/
structure FallsBackAlike (d : Dispatcher σ ν In Out E) (f : Callback σ ν In (Except E Out))
    (x : In) (s : σ) : Prop where
  result_iff (result : Except E Out) : (d.dispatchOr f x s).outcome = .done result ↔
    ((d.orElse (catching f)).dispatch? x s).outcome = .done (some result)
  panic_iff (message : String) : (d.dispatchOr f x s).outcome = .panic message ↔
    ((d.orElse (catching f)).dispatch? x s).outcome = .panic message
  state_eq : (d.dispatchOr f x s).state = ((d.orElse (catching f)).dispatch? x s).state
  /-- Both make the same calls, but for the role of the fallback. -/
  talks : ∃ calls, (InputStep.dispatchOr f x).Talks d calls
    ∧ (InputStep.dispatch? x).Talks (d.orElse (catching f)) (calls.map Exchange.byRule)
    ∧ Transcript.Happens s calls (Event.unlogged (d.dispatchOr f x s).events)
      (d.dispatchOr f x s).state
    ∧ Transcript.Happens s (calls.map Exchange.byRule)
      (Event.unlogged ((d.orElse (catching f)).dispatch? x s).events)
      ((d.orElse (catching f)).dispatch? x s).state
  /-- Both leave the same events if a rule takes the input or one of its functions panics. -/
  events_eq : (d.dispatch? x s).outcome ≠ .done none →
    (d.dispatchOr f x s).events = ((d.orElse (catching f)).dispatch? x s).events
  /-- If none does, the one writes the record of that and calls the fallback; the other calls the
  catch-all and, once that has answered, writes the record of its place. -/
  events_of_none : (d.dispatch? x s).outcome = .done none →
    ∃ (asked : List (Event ν)) (notes : List ν), asked.filterMap Event.record? = []
      ∧ (d.dispatchOr f x s).events
        = asked ++ (if d.logUnhandled then [.log (.unhandled d.size)] else [])
          ++ .call .fallback (f.shows x) :: notes.map .note
      ∧ (∀ result, (d.dispatchOr f x s).outcome = .done result →
        ((d.orElse (catching f)).dispatch? x s).events
          = asked ++ .call .action (f.shows x) :: notes.map .note
            ++ [.log (.handled d.size "any")])
      ∧ ∀ message, (d.dispatchOr f x s).outcome = .panic message →
        ((d.orElse (catching f)).dispatch? x s).events
          = asked ++ .call .action (f.shows x) :: notes.map .note

/-- A dispatch with a fallback, and a dispatch with the fallback as the action of a catch-all behind
all rules.  The one ends with a result exactly if the other does, and with a panic exactly if the
other does; they leave the same state, and make the same calls but for the role of the fallback.
They leave the same events if a rule takes the input or one of its functions panics.  If none does,
then behind the calls of the rules the one writes the record of that, if the dispatcher writes it,
and calls the fallback; the other calls the catch-all and, once that has answered, writes the record
of its place. -/
theorem dispatchOr_as_last_rule (d : Dispatcher σ ν In Out E) (f : Callback σ ν In (Except E Out))
    (x : In) (s : σ) : FallsBackAlike d f x s where
  result_iff _ := by rw [(ends_orElse_catching d f x s).1, Outcome.map_some_eq_iff]
  panic_iff _ := by rw [(ends_orElse_catching d f x s).1, Outcome.map_eq_panic_iff]
  state_eq := (ends_orElse_catching d f x s).2.symm
  talks := exists_talks_orElse_catching d f x s
  events_eq h := by
    rw [dispatch?_orElse_of_ne_none h, dispatch?_eq_map_dispatchOr h f, Run.map_apply]
  events_of_none h := by
    obtain ⟨_, asked, t, -, hcalled, hor, hcatching⟩ := exists_falls h f
    refine ⟨asked, (f.body x t).events, hcalled.no_records, ?_, fun result hresult => ?_,
      fun message hmessage => ?_⟩
    · rw [hor]
      rfl
    · rw [hor] at hresult
      rw [hcatching, show (f.body x t).outcome = .done result from hresult]
    · rw [hor] at hmessage
      rw [hcatching, show (f.body x t).outcome = .panic message from hmessage, List.append_nil]

open Sample (once nonzero) in
/-- The sample does not take its first input and takes the second.  Of the first one a fallback and
a catch-all make the same, also where they panic, and only the records around them differ. -/
theorem dispatchOr_as_last_rule_once :
    ((once.orElse (catching nonzero)).dispatch? 3 0).outcome = .done (some (.ok 3))
    ∧ ((once.orElse (catching nonzero)).dispatch? 0 0).outcome = .panic "zero"
    ∧ (∃ (asked : List (Event Nat)) (notes : List Nat),
      (once.dispatchOr nonzero 3 0).events
        = asked ++ [.log (.unhandled 1)] ++ .call .fallback (some 3) :: notes.map .note
      ∧ ((once.orElse (catching nonzero)).dispatch? 3 0).events
        = asked ++ .call .action (some 3) :: notes.map .note ++ [.log (.handled 1 "any")])
    ∧ (once.dispatchOr nonzero 3 1).events
      = ((once.orElse (catching nonzero)).dispatch? 3 1).events := by
  have htaken : (once.dispatch? 3 1).outcome ≠ .done none := by
    rintro ⟨⟩
  have hresult := (dispatchOr_as_last_rule once nonzero 3 0).result_iff (.ok 3)
  have hpanic := (dispatchOr_as_last_rule once nonzero 0 0).panic_iff "zero"
  have hsame := (dispatchOr_as_last_rule once nonzero 3 1).events_eq htaken
  obtain ⟨asked, notes, -, hor, hcatching, -⟩ :=
    (dispatchOr_as_last_rule once nonzero 3 0).events_of_none rfl
  exact ⟨hresult.mp rfl, hpanic.mp rfl, ⟨asked, notes, hor, hcatching _ rfl⟩, hsame⟩

end Dispatcher

end FirstMatch
