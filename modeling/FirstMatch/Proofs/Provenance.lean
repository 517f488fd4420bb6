/-
# What calls see

Every call of a function of the user is justified by calls before it in the same use of a dispatcher
(`Dispatcher.Justifies`).  A condition is asked about the view that the guard of its own rule has
just recognised in the input, an action about that view when the condition has held of it, a map
about the output of the action or map directly inside it, and a fallback about the whole input when
all rules have rejected it.

That holds of the calls of each use (`Dispatcher.justifies_talks`), so it holds in every run of a
session: no other step calls a function at all.
-/
import FirstMatch.Proofs.Uses
import FirstMatch.Proofs.Phases

namespace FirstMatch

variable {σ ν In Out E View : Type}

/-! ## Calls and the calls before them -/

namespace Transcript

/-- Each call of a transcript is as a relation between calls and the calls before them says. -/
def Each (P : Transcript σ ν → Exchange σ ν → Prop) (calls : Transcript σ ν) : Prop :=
  ∀ before c behind, calls = before ++ c :: behind → P before c

variable {P Q : Transcript σ ν → Exchange σ ν → Prop} {calls rest : Transcript σ ν}

/-- There is nothing to say of no calls. -/
theorem each_nil : Each P [] := by
  intro before c behind h
  simp at h

/-- A single call has no calls before it. -/
theorem each_singleton {c : Exchange σ ν} (h : P [] c) : Each P [c] := by
  intro before c' behind hsplit
  obtain ⟨rfl, ⟨⟩⟩ : before = [] ∧ c :: [] = c' :: behind := by
    cases before with
    | nil => exact ⟨rfl, hsplit⟩
    | cons first before => simp at hsplit
  exact h

/-- What each call is by one relation it is by every weaker one. -/
theorem Each.mono (h : Each P calls) (hPQ : ∀ before c, P before c → Q before c) :
    Each Q calls := fun before c behind hsplit => hPQ before c (h before c behind hsplit)

/-- In two parts of a transcript, the calls before a call of the second part are those of the first
part and some of the second. -/
theorem Each.append (h : Each P calls) (h' : Each (fun before c => P (calls ++ before) c) rest) :
    Each P (calls ++ rest) := by
  intro before c behind hsplit
  obtain ⟨middle, rfl, hrest⟩ | ⟨middle, hcalls, -⟩ := append_eq_append_cons hsplit
  · exact h' middle c behind hrest
  · exact h before c middle hcalls

end Transcript

open Transcript (Each)

/-! ## Conditions -/

namespace Condition

/-- A test of a condition is asked about a view when the tests before it have held of the view. -/
inductive Testing (v : View) (c : Condition σ ν View) : Transcript σ ν → Exchange σ ν → Prop
  | intro {passed others : List (Callback σ ν View Bool)} {f : Callback σ ν View Bool}
    (o : Outcome Bool) : c.tests = passed ++ f :: others →
    Testing v c (passed.map fun g => ⟨.condition, g, v, .done true⟩) ⟨.condition, f, v, o⟩

/-- A condition that holds of a view has asked all of its tests, and each of them has held. -/
theorem Judges.of_true {v : View} {c : Condition σ ν View} {calls : Transcript σ ν}
    (h : Judges v c calls (.done true)) :
    calls = c.tests.map fun g => ⟨.condition, g, v, .done true⟩ := by
  induction c generalizing calls with
  | test f =>
    cases h
    rfl
  | both first second ih ih' =>
    cases h with
    | stop _ hne => exact absurd rfl hne
    | next hfirst hsecond => rw [ih hfirst, ih' hsecond, tests, List.map_append]

/-- Each test of a condition is asked when those before it have held. -/
theorem Judges.each {v : View} {c : Condition σ ν View} {calls : Transcript σ ν}
    {o : Outcome Bool} (h : Judges v c calls o) : Each (Testing v c) calls := by
  have hfirst : ∀ (first second : Condition σ ν View) before e,
      Testing v first before e → Testing v (.both first second) before e := by
    rintro first second _ _ ⟨o, htests⟩
    exact .intro o (by rw [tests, htests, List.append_assoc, List.cons_append])
  induction h with
  | test f o =>
    have htests : (Condition.test f).tests = [] ++ f :: [] := rfl
    exact Transcript.each_singleton (.intro o htests)
  | stop _ _ ih => exact ih.mono (hfirst _ _)
  | @next first second _ _ _ hjudges _ ih ih' =>
    refine (ih.mono (hfirst _ _)).append (ih'.mono ?_)
    rintro _ _ ⟨o, htests⟩
    -- the calls of the first condition are its tests, all of which have held
    rw [hjudges.of_true, ← List.map_append]
    exact .intro o (by rw [tests, htests, List.append_assoc])

end Condition

/-! ## Rules -/

/-- Whether functions in a role are called to recognise a view. -/
def Role.recognises : Role → Bool
  | guard | narrow | compare => true
  | condition | action | map | fallback => false

/-- The calls of a guard serve to recognise a view. -/
theorem Guard.Sees.recognises {x : In} {g : Guard σ ν In View} {calls : Transcript σ ν}
    {o : Outcome (Option View)} (h : Guard.Sees x g calls o) :
    Transcript.Within Role.recognises calls := by
  cases h <;> simp [Transcript.Within, Role.recognises]

namespace Rule

/-- What a rule asks to select a view, after what: its guard about the input, and tests of its
condition about the view that the guard has recognised in the input. -/
inductive Asking (r : Rule σ ν In Out E) (x : In) : Transcript σ ν → Exchange σ ν → Prop
  | recognising {seeing rest : Transcript σ ν} {c : Exchange σ ν} {o : Outcome (Option r.View)} :
    Guard.Sees x r.guard (seeing ++ c :: rest) o → c.role.recognises = true → Asking r x seeing c
  | testing {seeing tested : Transcript σ ν} {c : Exchange σ ν} {condition : Condition σ ν r.View}
    {v : r.View} : Guard.Sees x r.guard seeing (.done (some v)) → r.condition = some condition →
    condition.Testing v tested c → Asking r x (seeing ++ tested) c

variable {r : Rule σ ν In Out E} {x : In} {calls rest : Transcript σ ν}

/-- Each call of the guard of a rule is one that the rule asks. -/
theorem each_sees {o : Outcome (Option r.View)} (h : Guard.Sees x r.guard calls o) :
    Each (r.Asking x) calls := by
  rintro before c behind rfl
  exact .recognising h (h.recognises c (by simp))

/-- Each call of the condition of a rule, behind a guard that has recognised a view, is one that the
rule asks. -/
theorem each_admits {v : r.View} {o : Outcome Bool} (hsees : Guard.Sees x r.guard calls
    (.done (some v))) (h : r.Admits v rest o) : Each (r.Asking x) (calls ++ rest) := by
  refine (each_sees hsees).append ?_
  cases h with
  | free _ => exact Transcript.each_nil
  | asked hcondition hjudges =>
    exact hjudges.each.mono fun before c htesting => .testing hsees hcondition htesting

/-- Each call of a rule that is to select a view is one that the rule asks. -/
theorem Selects.each {o : Outcome (Option r.View)} (h : r.Selects x calls o) :
    Each (r.Asking x) calls := by
  cases h with
  | unrecognized hsees => exact each_sees hsees
  | unmet hsees hadmits => exact each_admits hsees hadmits
  | met hsees hadmits => exact each_admits hsees hadmits
  | brokenGuard hsees => exact each_sees hsees
  | brokenCondition hsees hadmits => exact each_admits hsees hadmits

end Rule

/-! ## Actions -/

namespace Action

/-- An action that another one is made of by maps. -/
inductive Inside {Mid : Type} (part : Action σ ν View E Mid) :
    {Out : Type} → Action σ ν View E Out → Prop
  | itself : Inside part part
  | under {Next Out : Type} {a : Action σ ν View E Next} (f : Callback σ ν Next Out) :
    Inside part a → Inside part (.mapped a f)

/-- The call that gave an action its output: of its function, or of its outermost map. -/
inductive Gives (v : View) : {Out : Type} → Action σ ν View E Out → Out → Exchange σ ν → Prop
  | answer {Out : Type} (f : Callback σ ν View (Except E Out)) (out : Out) :
    Gives v (.answer f) out ⟨.action, f, v, .done (.ok out)⟩
  | mapped {Mid Out : Type} (inner : Action σ ν View E Mid) (f : Callback σ ν Mid Out) (mid : Mid)
    (out : Out) : Gives v (.mapped inner f) out ⟨.map, f, mid, .done out⟩

/-- What an action asks, after what: first its function about the view, and each map, right after
the action or map directly inside it, about the output that this one gave. -/
inductive Asking (v : View) (a : Action σ ν View E Out) : Transcript σ ν → Exchange σ ν → Prop
  | core (o : Outcome (Except E a.Inner)) : Asking v a [] ⟨.action, a.core, v, o⟩
  | map {Mid Next : Type} {inner : Action σ ν View E Mid} {f : Callback σ ν Mid Next} {out : Mid}
    {asked : Transcript σ ν} {last : Exchange σ ν} (o : Outcome Next) :
    Inside (.mapped inner f) a → Answers v inner (asked ++ [last]) (.done (.ok out)) →
    Gives v inner out last → Asking v a (asked ++ [last]) ⟨.map, f, out, o⟩

/-- An action that has an output was given it by its last call. -/
theorem Answers.exists_last {v : View} {a : Action σ ν View E Out} {calls : Transcript σ ν}
    {out : Out} (h : Answers v a calls (.done (.ok out))) :
    ∃ asked last, calls = asked ++ [last] ∧ Gives v a out last := by
  generalize ho : Outcome.done (Except.ok out) = o at h
  cases h with
  | answer f o =>
    subst ho
    exact ⟨[], _, rfl, .answer f out⟩
  | @output _ _ inner calls mid f o _ =>
    cases o with
    | done next =>
      cases ho
      exact ⟨calls, _, rfl, .mapped inner f mid out⟩
    | panic message => cases ho
  | failure f _ => cases ho
  | panic f _ => cases ho

/-- Each call of an action is one that the action asks. -/
theorem Answers.each {v : View} {a : Action σ ν View E Out} {calls : Transcript σ ν}
    {o : Outcome (Except E Out)} (h : Answers v a calls o) : Each (a.Asking v) calls := by
  have hunder : ∀ {Mid Next : Type} (inner : Action σ ν View E Mid) (f : Callback σ ν Mid Next)
      before c, inner.Asking v before c → (mapped inner f).Asking v before c := by
    rintro Mid Next inner f _ _ (o | ⟨o, hinside, hanswers, hgives⟩)
    · exact Asking.core (a := mapped inner f) o
    · exact .map o (.under f hinside) hanswers hgives
  induction h with
  | answer f o => exact Transcript.each_singleton (Asking.core (a := .answer f) o)
  | output f o hinner ih =>
    obtain ⟨asked, last, rfl, hgives⟩ := hinner.exists_last
    refine (ih.mono (hunder _ f)).append (Transcript.each_singleton ?_)
    rw [List.append_nil]
    exact .map o .itself hinner hgives
  | failure f _ ih => exact ih.mono (hunder _ f)
  | panic f _ ih => exact ih.mono (hunder _ f)

end Action

/-! ## Uses -/

namespace Dispatcher

/-- What a search asks, after what: a rule about the input, when all rules before it have rejected
the input. -/
inductive Searching (rules : List (Rule σ ν In Out E)) (x : In) :
    Transcript σ ν → Exchange σ ν → Prop
  | intro {i : Nat} {r : Rule σ ν In Out E} {rejecting asked : Transcript σ ν} {c : Exchange σ ν} :
    rules[i]? = some r → AllReject x (rules.take i) rejecting → r.Asking x asked c →
    Searching rules x (rejecting ++ asked) c

variable {rules : List (Rule σ ν In Out E)} {x : In} {calls : Transcript σ ν}

/-- What a search through the first rules asks is asked by the search through all of them. -/
theorem Searching.of_take {n : Nat} {before : Transcript σ ν} {c : Exchange σ ν}
    (h : Searching (rules.take n) x before c) : Searching rules x before c := by
  obtain ⟨hr, hrejects, hasking⟩ := h
  rw [List.getElem?_take] at hr
  split at hr
  · next hlt =>
    rw [List.take_take, Nat.min_eq_left (Nat.le_of_lt hlt)] at hrejects
    exact .intro hr hrejects hasking
  · cases hr

/-- Each call of rules that reject an input is one of the search. -/
theorem AllReject.each (h : AllReject x rules calls) : Each (Searching rules x) calls := by
  induction h with
  | nil => exact Transcript.each_nil
  | @cons r rules calls rest hr _ ih =>
    refine (hr.each.mono fun before c hasking => ?_).append (ih.mono ?_)
    · exact .intro (i := 0) rfl .nil hasking
    · rintro _ c ⟨hlater, hrejects, hasking⟩
      have hall := AllReject.cons hr hrejects
      rw [← List.take_succ_cons] at hall
      rw [← List.append_assoc]
      exact .intro (by rwa [List.getElem?_cons_succ]) hall hasking

/-- Each call of a search is one that the search asks. -/
theorem Finds.each {o : Outcome (Option (Hit rules))} (h : Finds rules x calls o) :
    Each (Searching rules x) calls := by
  have hbefore : ∀ {i : Nat} {before : Transcript σ ν}, AllReject x (rules.take i) before →
      Each (Searching rules x) before := fun h => h.each.mono fun _ _ => Searching.of_take
  cases h with
  | missed hall => exact hall.each
  | found h hrejects haccepts =>
    refine (hbefore hrejects).append (haccepts.each.mono fun before c hasking => ?_)
    exact .intro (getElem?_index _) hrejects hasking
  | broken i hrejects hpanics =>
    refine (hbefore hrejects).append (hpanics.each.mono fun before c hasking => ?_)
    exact .intro (getElem?_index _) hrejects hasking

/-- What a use of a dispatcher asks, after what: a rule whether it takes the input, when all rules
before it have rejected the input; the action of a rule, about the view with which the rule has
accepted the input; and a fallback, about the input, when all rules have rejected it. -/
inductive Justifies (d : Dispatcher σ ν In Out E) (u : InputStep σ ν In Out E) :
    Transcript σ ν → Exchange σ ν → Prop
  | searching {before : Transcript σ ν} {c : Exchange σ ν} :
    Searching d.rules u.input before c → Justifies d u before c
  | answering {i : Nat} {r : Rule σ ν In Out E} {v : r.View}
    {rejecting selecting asked : Transcript σ ν} {c : Exchange σ ν} :
    d.rules[i]? = some r → AllReject u.input (d.rules.take i) rejecting →
    r.Accepts u.input v selecting → r.action.Asking v asked c →
    Justifies d u (rejecting ++ selecting ++ asked) c
  | falling {f : Callback σ ν In (Except E Out)} {x : In} {rejecting : Transcript σ ν}
    (o : Outcome (Except E Out)) : u = .dispatchOr f x → AllReject x d.rules rejecting →
    Justifies d u rejecting ⟨.fallback, f, x, o⟩

/-- The calls of a use are justified by the calls before them. -/
theorem justifies_talks {d : Dispatcher σ ν In Out E} {u : InputStep σ ν In Out E}
    (h : u.Talks d calls) : Each (d.Justifies u) calls := by
  cases h with
  | searching hfinds => exact hfinds.each.mono fun _ _ => .searching
  | answering hfinds hanswers =>
    refine (hfinds.each.mono fun _ _ => .searching).append ?_
    obtain _ | ⟨_, hrejects, haccepts⟩ := hfinds
    exact hanswers.each.mono fun _ _ => .answering (getElem?_index _) hrejects haccepts
  | @falling f x rejecting o hu hrejects =>
    obtain rfl := hu
    have hsearching : Each (d.Justifies (.dispatchOr f x)) rejecting :=
      hrejects.each.mono fun _ _ => .searching (u := .dispatchOr f x)
    refine hsearching.append (Transcript.each_singleton ?_)
    rw [List.append_nil]
    exact .falling o rfl hrejects

end Dispatcher

/-- Every call is justified by the calls before it in the use of a dispatcher that is in progress:
in each single use of any dispatcher, and in each step of a run of a session.  The calls of a use or
step are those that leave its events, up to log records, and its state. -/
theorem calls_justified :
    (∀ (d : Dispatcher σ ν In Out E) (u : InputStep σ ν In Out E) (s : σ),
      ∃ calls, Transcript.Happens s calls (Event.unlogged (u.ask d s).events) (u.ask d s).state
        ∧ Each (d.Justifies u) calls)
    ∧ ∀ (front : List (Step σ ν In Out E)) (st : Step σ ν In Out E)
      (behind : List (Step σ ν In Out E)) (start : Session σ ν In Out E),
      ∃ e calls, (Session.run (front ++ st :: behind) start)[front.length]? = some e
        ∧ Transcript.Happens (Session.after front start).state calls (Event.unlogged e.events)
          e.state.state
        ∧ Each (fun before c => ∃ name u d, st = .input name u
          ∧ (Session.after front start).dispatchers name = some d ∧ d.Justifies u before c)
          calls := by
  have huse : ∀ (d : Dispatcher σ ν In Out E) (u : InputStep σ ν In Out E) (s : σ),
      ∃ calls, Transcript.Happens s calls (Event.unlogged (u.ask d s).events) (u.ask d s).state
        ∧ Each (d.Justifies u) calls := by
    intro d u s
    obtain ⟨calls, htalks, hcalled⟩ := InputStep.talks_of_ask d u s
    exact ⟨calls, hcalled, Dispatcher.justifies_talks htalks⟩
  refine ⟨huse, fun front st behind start => ?_⟩
  generalize hs : Session.after front start = s
  refine ⟨Session.step st s, ?_⟩
  rw [Session.getElem?_run, hs]
  -- only a step that hands an input to a dispatcher makes calls
  by_cases hst : ∃ name u d, st = .input name u ∧ s.dispatchers name = some d
  · obtain ⟨name, u, d, rfl, hd⟩ := hst
    obtain ⟨calls, hcalled, hjustified⟩ := huse d u s.state
    rw [Session.step_input hd]
    exact ⟨calls, rfl, hcalled, hjustified.mono fun before c h => ⟨name, u, d, rfl, hd, h⟩⟩
  · have hquiet : Session.Quiet s (Session.step st s) := Session.quiet_step fun name u h =>
      Option.eq_none_iff_forall_ne_some.mpr fun d hd => hst ⟨name, u, d, h, hd⟩
    obtain ⟨records, hevents, hstate⟩ := hquiet
    rw [hevents, Event.unlogged_map_log, hstate]
    exact ⟨[], rfl, .nil s.state, Transcript.each_nil⟩

end FirstMatch
