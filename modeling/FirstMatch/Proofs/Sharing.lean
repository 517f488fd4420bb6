/-
# One state for all copies

Copies of drafts and dispatchers go their own ways, but a function of the user that stands in
several of them is one function with one state.  If each call of it raises a cell of the shared
state by one, and no other function touches that cell, then the cell numbers its calls through: it
does not matter through which copies they are made, nor how the others end
(`Transcript.Happens.numbers_eq`).

What a use of a dispatcher may call are the functions in its rules and its fallback
(`InputStep.Talks.callees`), and these come from the steps by which the dispatcher was made
(`Session.Knows.step`).  So the calls of a function are numbered through in every series of uses and
in every run of a session.
-/
import FirstMatch.Proofs.Lineage
import FirstMatch.Proofs.Queries

namespace FirstMatch

variable {σ ν In Mid Out E View : Type}

/-! ## Functions that may be called -/

/-- A function of the user, whatever it takes and answers. -/
structure Callee (σ ν : Type) : Type 1 where
  {Argument : Type}
  {Answer : Type}
  function : Callback σ ν Argument Answer

/-- The function that was called. -/
def Exchange.callee (c : Exchange σ ν) : Callee σ ν := ⟨c.function⟩

/-- The functions that a guard may call. -/
def Guard.callees : Guard σ ν In View → List (Callee σ ν)
  | exact _ narrow => [⟨narrow⟩]
  | equals _ narrow same _ => [⟨narrow⟩, ⟨same⟩]
  | structural _ find => [⟨find⟩]
  | any => []
  | whole _ test => [⟨test⟩]

/-- The tests of a condition. -/
def Condition.callees : Condition σ ν View → List (Callee σ ν)
  | test f => [⟨f⟩]
  | both first second => first.callees ++ second.callees

/-- The function at the core of an action, and its maps. -/
def Action.callees {Out : Type} : Action σ ν View E Out → List (Callee σ ν)
  | answer f => [⟨f⟩]
  | mapped inner f => inner.callees ++ [⟨f⟩]

/-- The functions in a rule. -/
def Rule.callees (r : Rule σ ν In Out E) : List (Callee σ ν) :=
  r.guard.callees ++ r.condition.toList.flatMap Condition.callees ++ r.action.callees

/-- The functions in the rules of a draft. -/
def Draft.callees (d : Draft σ ν In Out E) : List (Callee σ ν) := d.rules.flatMap Rule.callees

/-- The functions in the rules of a dispatcher. -/
def Dispatcher.callees (d : Dispatcher σ ν In Out E) : List (Callee σ ν) :=
  d.rules.flatMap Rule.callees

/-- The fallback of a use, if it has one. -/
def InputStep.callees : InputStep σ ν In Out E → List (Callee σ ν)
  | accepts _ => []
  | dispatch? _ => []
  | dispatch _ => []
  | dispatchOr fallback _ => [⟨fallback⟩]

/-- The functions in the drafts of an expression, and its maps. -/
def Expression.callees {Out : Type} : Expression σ ν In E Out → List (Callee σ ν)
  | built draft => draft.callees
  | empty => []
  | copied e => e.callees
  | chained first second => first.callees ++ second.callees
  | mapped f e => e.callees ++ [⟨f⟩]

/-- The functions that a use may call. -/
def Use.callees (u : Use σ ν) : List (Callee σ ν) := u.dispatcher.callees ++ u.request.callees

/-- The functions in the rule that a step on drafts adds, if it adds one. -/
def DraftStep.callees : DraftStep σ ν In Out E → List (Callee σ ν)
  | add _ rule => rule.callees
  | _ => []

/-- The map that a step puts around a dispatcher, if it does. -/
def CombineStep.callees : CombineStep σ ν Out → List (Callee σ ν)
  | map _ f _ => [⟨f⟩]
  | _ => []

/-- The functions that a step brings in. -/
def Step.callees : Step σ ν In Out E → List (Callee σ ν)
  | .draft st => st.callees
  | .combine st => st.callees
  | .input _ u => u.callees

/-! ## What is called -/

/-- All calls of a transcript are calls of certain functions. -/
def Transcript.Among (fs : List (Callee σ ν)) (calls : Transcript σ ν) : Prop :=
  ∀ c ∈ calls, c.callee ∈ fs

namespace Transcript

variable {fs gs : List (Callee σ ν)} {calls rest : Transcript σ ν}

/-- Calls in a row are calls of certain functions if both parts are. -/
theorem Among.append (h : Among fs calls) (h' : Among fs rest) : Among fs (calls ++ rest) := by
  intro c hc
  rcases List.mem_append.mp hc with hc | hc
  · exact h c hc
  · exact h' c hc

/-- Calls of some functions are calls of more functions. -/
theorem Among.mono (h : Among fs calls) (hsub : fs ⊆ gs) : Among gs calls :=
  fun c hc => hsub (h c hc)

/-- More functions may stand behind those that are called. -/
theorem Among.weaken (h : Among fs calls) (gs : List (Callee σ ν)) : Among (fs ++ gs) calls :=
  h.mono (List.subset_append_left fs gs)

/-- The calls of two parts are calls of the functions of both. -/
theorem Among.join (h : Among fs calls) (h' : Among gs rest) :
    Among (fs ++ gs) (calls ++ rest) := by
  apply (h.weaken gs).append
  exact h'.mono (List.subset_append_right fs gs)

end Transcript

open Transcript (Among)

/-- A guard calls its own functions only. -/
theorem Guard.Sees.callees {x : In} {g : Guard σ ν In View} {calls : Transcript σ ν}
    {o : Outcome (Option View)} (h : Guard.Sees x g calls o) : Among g.callees calls := by
  cases h <;> simp [Among, Guard.callees, Exchange.callee]

/-- A condition calls its tests only. -/
theorem Condition.Judges.callees {v : View} {c : Condition σ ν View} {calls : Transcript σ ν}
    {o : Outcome Bool} (h : Condition.Judges v c calls o) : Among c.callees calls := by
  induction h with
  | test f o => simp [Among, Condition.callees, Exchange.callee]
  | stop _ _ ih => exact ih.weaken _
  | next _ _ ih ih' => exact ih.join ih'

/-- An action calls its function and its maps only. -/
theorem Action.Answers.callees {v : View} {a : Action σ ν View E Out} {calls : Transcript σ ν}
    {o : Outcome (Except E Out)} (h : Action.Answers v a calls o) : Among a.callees calls := by
  induction h with
  | answer f o => simp [Among, Action.callees, Exchange.callee]
  | output f o _ ih =>
    apply ih.join
    simp [Among, Exchange.callee]
  | failure f _ ih => exact ih.weaken _
  | panic f _ ih => exact ih.weaken _

namespace Rule

variable {r : Rule σ ν In Out E} {x : In} {calls : Transcript σ ν}

/-- A rule that is to admit a view calls its own functions only. -/
theorem Admits.callees {v : r.View} {o : Outcome Bool} (h : r.Admits v calls o) :
    Among r.callees calls := by
  cases h with
  | free _ => simp [Among]
  | asked hcondition hjudges =>
    refine hjudges.callees.mono fun f hf => ?_
    simp [Rule.callees, hcondition, hf]

/-- A rule that is to select a view calls its own functions only. -/
theorem Selects.callees {o : Outcome (Option r.View)} (h : r.Selects x calls o) :
    Among r.callees calls := by
  have hsees : ∀ {calls : Transcript σ ν} {o : Outcome (Option r.View)},
      Guard.Sees x r.guard calls o → Among r.callees calls := by
    intro calls o hguard
    refine hguard.callees.mono fun f hf => ?_
    simp [Rule.callees, hf]
  cases h with
  | unrecognized hguard => exact hsees hguard
  | unmet hguard hadmits => exact (hsees hguard).append hadmits.callees
  | met hguard hadmits => exact (hsees hguard).append hadmits.callees
  | brokenGuard hguard => exact hsees hguard
  | brokenCondition hguard hadmits => exact (hsees hguard).append hadmits.callees

end Rule

namespace Dispatcher

variable {d : Dispatcher σ ν In Out E} {rules : List (Rule σ ν In Out E)} {x : In}
  {calls : Transcript σ ν}

/-- The functions in a rule are among those in the list that it stands in. -/
theorem callees_subset {r : Rule σ ν In Out E} (h : r ∈ rules) :
    r.callees ⊆ rules.flatMap Rule.callees := fun _ hf => List.mem_flatMap.mpr ⟨r, h, hf⟩

/-- A function in chained dispatchers is in one of the two. -/
theorem mem_callees_orElse {e : Dispatcher σ ν In Out E} {f : Callee σ ν}
    (h : f ∈ (d.orElse e).callees) : f ∈ d.callees ∨ f ∈ e.callees := by
  rw [Dispatcher.callees, orElse, List.flatMap_append] at h
  exact List.mem_append.mp h

/-- Mapping brings in no function but the map. -/
theorem mem_callees_map {g : Callback σ ν Mid Out} {d : Dispatcher σ ν In Mid E} {f : Callee σ ν}
    (h : f ∈ (d.map g).callees) : f ∈ d.callees ∨ f = ⟨g⟩ := by
  obtain ⟨r', hr', hf⟩ := List.mem_flatMap.mp h
  obtain ⟨r, hr, rfl⟩ := List.mem_map.mp hr'
  have hcallees : (r.map g).callees = r.callees ++ [⟨g⟩] := (List.append_assoc _ _ _).symm
  rw [hcallees] at hf
  rcases List.mem_append.mp hf with hf | hf
  · exact .inl (callees_subset hr hf)
  · exact .inr (List.mem_singleton.mp hf)

/-- Rules that reject an input call functions in these rules only. -/
theorem AllReject.callees (h : AllReject x rules calls) :
    Among (rules.flatMap Rule.callees) calls := by
  induction h with
  | nil => simp [Among]
  | cons hr _ ih => exact hr.callees.join ih

/-- A search calls functions in the rules that it goes through only. -/
theorem Finds.callees {o : Outcome (Option (Hit rules))} (h : Finds rules x calls o) :
    Among (rules.flatMap Rule.callees) calls := by
  have hbefore : ∀ {n : Nat} {before : Transcript σ ν}, AllReject x (rules.take n) before →
      Among (rules.flatMap Rule.callees) before := by
    intro n before hrejects
    refine hrejects.callees.mono fun f hf => ?_
    obtain ⟨r, hr, hf⟩ := List.mem_flatMap.mp hf
    exact callees_subset (List.mem_of_mem_take hr) hf
  cases h with
  | missed hall => exact hall.callees
  | found h hrejects haccepts =>
    exact (hbefore hrejects).append (haccepts.callees.mono (callees_subset (List.get_mem _ _)))
  | broken i hrejects hpanics =>
    exact (hbefore hrejects).append (hpanics.callees.mono (callees_subset (List.get_mem _ _)))

end Dispatcher

/-- Compiling, copying, chaining and mapping bring in no functions but those maps. -/
theorem Expression.callees_dispatcher (e : Expression σ ν In E Out) :
    e.dispatcher.callees ⊆ e.callees := by
  induction e with
  | built draft => exact List.Subset.refl _
  | empty => exact List.nil_subset _
  | copied e ih => exact ih
  | chained first second ih ih' =>
    intro f hf
    apply List.mem_append.mpr
    rcases Dispatcher.mem_callees_orElse hf with hf | hf
    · exact .inl (ih hf)
    · exact .inr (ih' hf)
  | mapped g e ih =>
    intro f hf
    apply List.mem_append.mpr
    rcases Dispatcher.mem_callees_map hf with hf | hf
    · exact .inl (ih hf)
    · exact .inr (List.mem_singleton.mpr hf)

/-- A use calls functions in the rules of the dispatcher, and its fallback. -/
theorem InputStep.Talks.callees {d : Dispatcher σ ν In Out E} {u : InputStep σ ν In Out E}
    {calls : Transcript σ ν} (h : u.Talks d calls) : Among (d.callees ++ u.callees) calls := by
  cases h with
  | searching hfinds => exact hfinds.callees.weaken _
  | @answering h selecting calls _ hfinds hanswers =>
    have haction : Among d.callees calls := by
      intro c hc
      apply Dispatcher.callees_subset (List.get_mem d.rules h.index)
      exact List.mem_append_right _ (hanswers.callees c hc)
    exact (hfinds.callees.append haction).weaken _
  | falling o hu hrejects =>
    subst hu
    apply hrejects.callees.join
    simp [Among, InputStep.callees, Exchange.callee]

/-! ## Numbering calls -/

namespace Callee

/-- Each call of a function raises a cell of the state by one, however the call ends. -/
def Counts (cell : σ → Nat) (f : Callee σ ν) : Prop :=
  ∀ a s, cell (f.function.body a s).state = cell s + 1

/-- No call of a function changes a cell of the state. -/
def Ignores (cell : σ → Nat) (f : Callee σ ν) : Prop :=
  ∀ a s, cell (f.function.body a s).state = cell s

end Callee

namespace Transcript

open Classical in
/-- What a cell holds right after each call of a function, when calls are made one after the other
from a state on. -/
noncomputable def numbers (cell : σ → Nat) (f : Callee σ ν) : σ → Transcript σ ν → List Nat
  | _, [] => []
  | s, c :: calls =>
    let t := (c.function.call c.role c.argument s).state
    if c.callee = f then cell t :: numbers cell f t calls else numbers cell f t calls

/-- A cell that only one function touches numbers the calls of that function through. -/
theorem Happens.numbers_eq {s t : σ} {calls : Transcript σ ν} {events : List (Event ν)}
    {cell : σ → Nat} {f : Callee σ ν} (h : Happens s calls events t) (hf : f.Counts cell)
    (hothers : ∀ c ∈ calls, c.callee = f ∨ c.callee.Ignores cell) :
    numbers cell f s calls = List.range' (cell s + 1) (numbers cell f s calls).length
    ∧ cell t = cell s + (numbers cell f s calls).length := by
  induction h with
  | nil s => exact ⟨rfl, rfl⟩
  | @cons c calls events events' s t u hc _ ih =>
    obtain ⟨hnumbers, hcell⟩ := ih fun c' hc' => hothers c' (List.mem_cons_of_mem c hc')
    have hstate : (c.function.call c.role c.argument s).state = t := by rw [hc]
    rw [numbers, hstate]
    -- a call of `f` raises the cell by one, and a call of another function leaves it
    by_cases hcallee : c.callee = f
    · have hraised : cell t = cell s + 1 := by
        subst hcallee
        rw [← hstate]
        exact hf c.argument s
      rw [if_pos hcallee, List.length_cons, List.range'_succ, ← hraised, ← hnumbers]
      refine ⟨rfl, ?_⟩
      omega
    · have hkept : cell t = cell s := by
        rw [← hstate]
        exact (hothers c List.mem_cons_self).resolve_left hcallee c.argument s
      rw [if_neg hcallee, ← hkept]
      exact ⟨hnumbers, hcell⟩

end Transcript

/-! ## Series of uses -/

namespace Use

/-- The calls of a series of uses: those of each use, which leave its events, up to log records, and
its state. -/
inductive Conversation : List (Use σ ν) → σ → Transcript σ ν → Prop
  | nil (s : σ) : Conversation [] s []
  | cons {u : Use σ ν} {us : List (Use σ ν)} {s : σ} {calls rest : Transcript σ ν} :
    u.request.Talks u.dispatcher calls →
    Transcript.Happens s calls (Event.unlogged (u.run s).events) (u.run s).state →
    Conversation us (u.run s).state rest → Conversation (u :: us) s (calls ++ rest)

/-- Every series of uses makes calls. -/
theorem exists_conversation (us : List (Use σ ν)) (s : σ) : ∃ calls, Conversation us s calls := by
  induction us generalizing s with
  | nil => exact ⟨[], .nil s⟩
  | cons u us ih =>
    obtain ⟨calls, htalks, hcalled⟩ := InputStep.talks_of_ask u.dispatcher u.request s
    obtain ⟨rest, hrest⟩ := ih (u.run s).state
    exact ⟨calls ++ rest, .cons htalks hcalled hrest⟩

variable {us : List (Use σ ν)} {s : σ} {calls : Transcript σ ν}

/-- The events of a first use come before those of the others. -/
theorem events_cons (u : Use σ ν) (us : List (Use σ ν)) (s : σ) :
    events (u :: us) s = (u.run s).events ++ events us (u.run s).state := rfl

/-- The second of two series goes on from the state that the first one leaves. -/
theorem final_append (us us' : List (Use σ ν)) (s : σ) :
    final (us ++ us') s = final us' (final us s) := by
  induction us generalizing s with
  | nil => rfl
  | cons u us ih => exact ih (u.run s).state

/-- The events of two series come one after the other. -/
theorem events_append (us us' : List (Use σ ν)) (s : σ) :
    events (us ++ us') s = events us s ++ events us' (final us s) := by
  induction us generalizing s with
  | nil => rfl
  | cons u us ih =>
    rw [List.cons_append, events_cons, events_cons, ih, List.append_assoc]
    rfl

/-- The calls of a series leave its events, up to log records, and its final state. -/
theorem Conversation.happens (h : Conversation us s calls) :
    Transcript.Happens s calls (Event.unlogged (events us s)) (final us s) := by
  induction h with
  | nil s => exact .nil s
  | cons _ hcalled _ ih =>
    rw [events_cons, Event.unlogged_append]
    exact hcalled.append ih

/-- A series of uses calls functions in their dispatchers and their fallbacks only. -/
theorem Conversation.callees (h : Conversation us s calls) :
    Among (us.flatMap Use.callees) calls := by
  induction h with
  | nil s => simp [Among]
  | cons htalks _ _ ih => exact htalks.callees.join ih

/-- If no other function that may be called touches the cell in which a function counts its calls,
then these are numbered through in a series of uses. -/
theorem Conversation.numbers_eq (h : Conversation us s calls) {cell : σ → Nat} {f : Callee σ ν}
    (hf : f.Counts cell) (hothers : ∀ u ∈ us, ∀ g ∈ u.callees, g = f ∨ g.Ignores cell) :
    Transcript.numbers cell f s calls
        = List.range' (cell s + 1) (Transcript.numbers cell f s calls).length
      ∧ cell (final us s) = cell s + (Transcript.numbers cell f s calls).length := by
  refine h.happens.numbers_eq hf fun c hc => ?_
  obtain ⟨u, hu, hcallee⟩ := List.mem_flatMap.mp (h.callees c hc)
  exact hothers u hu c.callee hcallee

end Use

/-! ## Runs of a session -/

/-- The use that a step makes of a dispatcher of a session, if there is that dispatcher. -/
def Step.uses (s : Session σ ν In Out E) : Step σ ν In Out E → List (Use σ ν)
  | .input name u => (s.dispatchers name).toList.map fun d => ⟨d, u⟩
  | _ => []

namespace Session

/-- The uses of dispatchers in a run of a session. -/
def uses : List (Step σ ν In Out E) → Session σ ν In Out E → List (Use σ ν)
  | [], _ => []
  | st :: steps, s => st.uses s ++ uses steps (step st s).state

/-- The events of a run of a session. -/
def events (steps : List (Step σ ν In Out E)) (s : Session σ ν In Out E) : List (Event ν) :=
  (run steps s).flatMap Ending.events

/-- The events of a first step come before those of the others. -/
theorem events_cons (st : Step σ ν In Out E) (steps : List (Step σ ν In Out E))
    (s : Session σ ν In Out E) :
    events (st :: steps) s = (step st s).events ++ events steps (step st s).state := rfl

/-- A step does to the state of the functions what its use does, and has the same events up to log
records. -/
theorem step_uses (st : Step σ ν In Out E) (s : Session σ ν In Out E) :
    (step st s).state.state = Use.final (st.uses s) s.state
    ∧ Event.unlogged (step st s).events = Event.unlogged (Use.events (st.uses s) s.state) := by
  -- only a step that hands an input to a dispatcher is a use
  have hquiet : Quiet s (step st s) → st.uses s = [] →
      (step st s).state.state = Use.final (st.uses s) s.state
      ∧ Event.unlogged (step st s).events = Event.unlogged (Use.events (st.uses s) s.state) := by
    rintro ⟨records, hevents, hstate⟩ huses
    rw [huses, hevents, Event.unlogged_map_log]
    exact ⟨hstate, rfl⟩
  cases st with
  | draft st => exact hquiet (quiet_draftStep st s) rfl
  | combine st => exact hquiet (quiet_combineStep st s) rfl
  | input name u =>
    cases hd : s.dispatchers name with
    | none =>
      have huses : (Step.input name u).uses s = [] := by rw [Step.uses, hd]; rfl
      refine hquiet (quiet_step ?_) huses
      rintro name' u' ⟨⟩
      exact hd
    | some d =>
      have huses : (Step.input name u).uses s = [⟨d, u⟩] := by rw [Step.uses, hd]; rfl
      have hevents : Use.events [⟨d, u⟩] s.state = (u.ask d s.state).events := List.append_nil _
      rw [step_input hd, huses, hevents]
      exact ⟨rfl, rfl⟩

/-- A run does to the state of the functions what its uses do, one after the other, and has the same
events up to log records. -/
theorem run_uses (steps : List (Step σ ν In Out E)) (s : Session σ ν In Out E) :
    (after steps s).state = Use.final (uses steps s) s.state
    ∧ Event.unlogged (events steps s) = Event.unlogged (Use.events (uses steps s) s.state) := by
  induction steps generalizing s with
  | nil => exact ⟨rfl, rfl⟩
  | cons st steps ih =>
    obtain ⟨hstate, hevents⟩ := step_uses st s
    obtain ⟨hafter, hbehind⟩ := ih (step st s).state
    rw [after, uses, Use.final_append, Use.events_append, events_cons, Event.unlogged_append,
      Event.unlogged_append, hafter, hbehind, hevents, hstate]
    exact ⟨rfl, rfl⟩

end Session

/-! ## Functions in registers -/

namespace Registers

variable {α : Type 1} {Q : α → Prop} {r : Registers α}

/-- What stands under names is of a certain kind. -/
def All (Q : α → Prop) (r : Registers α) : Prop := ∀ name a, r name = some a → Q a

/-- A value of the kind may be put among others of the kind. -/
theorem All.set (h : r.All Q) (name : String) {a : α} (ha : Q a) : (r.set name a).All Q := by
  intro other b hb
  by_cases hother : other = name
  · subst hother
    obtain rfl : a = b := Option.some.inj ((r.set_same other a).symm.trans hb)
    exact ha
  · exact h other b ((r.set_other a hother).symm.trans hb)

/-- Without one of them the others are still of the kind. -/
theorem All.erase (h : r.All Q) (name : String) : (r.erase name).All Q := by
  intro other b hb
  by_cases hother : other = name
  · subst hother
    cases (r.erase_same other).symm.trans hb
  · exact h other b ((r.erase_other hother).symm.trans hb)

end Registers

/-- All functions in the drafts and dispatchers of a session are of a certain kind. -/
structure Session.Knows (P : Callee σ ν → Prop) (s : Session σ ν In Out E) : Prop where
  drafts : s.drafts.All fun d => ∀ f ∈ d.callees, P f
  dispatchers : s.dispatchers.All fun d => ∀ f ∈ d.callees, P f

namespace Session.Knows

variable {P : Callee σ ν → Prop} {s : Session σ ν In Out E}

/-- A session begins without any function. -/
theorem start (P : Callee σ ν → Prop) (s : σ) :
    Knows P ({ state := s } : Session σ ν In Out E) where
  drafts _ _ h := nomatch h
  dispatchers _ _ h := nomatch h

/-- A draft whose functions are of the kind may be put into a session. -/
theorem setDraft (h : s.Knows P) (name : String) (d : Draft σ ν In Out E)
    (hd : ∀ f ∈ d.callees, P f) : (s.setDraft name d).Knows P :=
  ⟨h.drafts.set name hd, h.dispatchers⟩

/-- A dispatcher whose functions are of the kind may be put into a session. -/
theorem setDispatcher (h : s.Knows P) (name : String) (d : Dispatcher σ ν In Out E)
    (hd : ∀ f ∈ d.callees, P f) : (s.setDispatcher name d).Knows P :=
  ⟨h.drafts, h.dispatchers.set name hd⟩

/-- A draft may be taken out of a session. -/
theorem eraseDraft (h : s.Knows P) (name : String) :
    Knows P { s with drafts := s.drafts.erase name } :=
  ⟨h.drafts.erase name, h.dispatchers⟩

/-- A step with a draft keeps the kind if it does so for drafts whose functions are of it. -/
theorem withDraft (h : s.Knows P) {name : String} {g : Draft σ ν In Out E → Stepping σ ν In Out E}
    (hg : ∀ d, (∀ f ∈ d.callees, P f) → (g d s).state.Knows P) :
    (withDraft name g s).state.Knows P := by
  rw [Session.withDraft]
  split
  · exact h
  · next d hd => exact hg d (h.drafts name d hd)

/-- A step with a dispatcher keeps the kind if it does so for dispatchers whose functions are of
it. -/
theorem withDispatcher (h : s.Knows P) {name : String}
    {g : Dispatcher σ ν In Out E → Stepping σ ν In Out E}
    (hg : ∀ d, (∀ f ∈ d.callees, P f) → (g d s).state.Knows P) :
    (withDispatcher name g s).state.Knows P := by
  rw [Session.withDispatcher]
  split
  · exact h
  · next d hd => exact hg d (h.dispatchers name d hd)

/-- A step on drafts keeps the kind if the rule that it brings in is of it. -/
theorem draftStep (h : s.Knows P) {st : DraftStep σ ν In Out E} (hst : ∀ f ∈ st.callees, P f) :
    (draftStep st s).state.Knows P := by
  cases st with
  | start draft => exact h.setDraft draft .empty (by simp [Draft.callees, Draft.empty])
  | copy draft target => exact h.withDraft fun d hd => h.setDraft target d hd
  | look draft => exact h.withDraft fun d _ => h
  | configure draft settings =>
    exact h.withDraft fun d hd => h.setDraft draft (d.withSettings settings) hd
  | configureJson draft text =>
    refine h.withDraft fun d hd => ?_
    cases Settings.ofJson text with
    | error e => exact h
    | ok settings => exact h.setDraft draft (d.withSettings settings) hd
  | add draft rule =>
    refine h.withDraft fun d hd => h.setDraft draft (d.add rule) fun f hf => ?_
    -- a function of the longer draft was there before, or comes with the rule
    rw [Draft.callees, Draft.add, List.flatMap_append, List.flatMap_singleton] at hf
    rcases List.mem_append.mp hf with hf | hf
    · exact hd f hf
    · exact hst f hf
  | compile draft target =>
    exact h.withDraft fun d hd => (h.eraseDraft draft).setDispatcher target d.compile.dispatcher hd
  | compileStrict draft target =>
    rw [Session.draftStep]
    refine h.withDraft fun d hd => ?_
    cases hc : d.compileStrict with
    | ok c =>
      obtain rfl := Draft.compileStrict_eq_ok hc
      exact (h.eraseDraft draft).setDispatcher target d.compile.dispatcher hd
    | error u => exact h.eraseDraft draft

/-- A step that combines dispatchers keeps the kind if the map that it brings in is of it. -/
theorem combineStep (h : s.Knows P) {st : CombineStep σ ν Out} (hst : ∀ f ∈ st.callees, P f) :
    (combineStep st s).state.Knows P := by
  cases st with
  | start dispatcher =>
    exact h.setDispatcher dispatcher .empty (by simp [Dispatcher.callees, Dispatcher.empty])
  | copy dispatcher target => exact h.withDispatcher fun d hd => h.setDispatcher target d hd
  | look dispatcher => exact h.withDispatcher fun d _ => h
  | orElse dispatcher other target =>
    refine h.withDispatcher fun d hd => h.withDispatcher fun e he => ?_
    refine h.setDispatcher target (d.orElse e) fun f hf => ?_
    rcases Dispatcher.mem_callees_orElse hf with hf | hf
    · exact hd f hf
    · exact he f hf
  | map dispatcher g target =>
    refine h.withDispatcher fun d hd => h.setDispatcher target (d.map g) fun f hf => ?_
    rcases Dispatcher.mem_callees_map hf with hf | hf
    · exact hd f hf
    · exact hst f (List.mem_singleton.mpr hf)

/-- Steps that bring in functions of a certain kind only leave only such functions in a session. -/
theorem step (h : s.Knows P) {st : Step σ ν In Out E} (hst : ∀ f ∈ st.callees, P f) :
    (step st s).state.Knows P := by
  cases st with
  | draft st => exact h.draftStep hst
  | combine st => exact h.combineStep hst
  | input name u =>
    obtain ⟨hdrafts, hdispatchers⟩ := Prod.mk.inj (keeps_input name u s)
    constructor
    · rw [hdrafts]
      exact h.drafts
    · rw [hdispatchers]
      exact h.dispatchers

/-- All uses in a run of a session are of functions that were there or come with the steps. -/
theorem uses (h : s.Knows P) {steps : List (Step σ ν In Out E)}
    (hsteps : ∀ st ∈ steps, ∀ f ∈ st.callees, P f) :
    ∀ u ∈ uses steps s, ∀ f ∈ u.callees, P f := by
  induction steps generalizing s with
  | nil => simp [Session.uses]
  | cons st steps ih =>
    intro u hu
    -- a use of the first step, or one of a later step
    rcases List.mem_append.mp hu with hu | hu
    · cases st with
      | draft st => cases hu
      | combine st => cases hu
      | input name request =>
        obtain ⟨d, hd, rfl⟩ := List.mem_map.mp hu
        intro f hf
        rcases List.mem_append.mp hf with hf | hf
        · exact h.dispatchers name d (Option.mem_toList.mp hd) f hf
        · exact hsteps _ List.mem_cons_self f hf
    · have hst := hsteps st List.mem_cons_self
      exact ih (h.step hst) (fun st' hst' => hsteps st' (List.mem_cons_of_mem st hst')) u hu

end Session.Knows

open Session (after step uses) in
/-- What is settled for each draft and each dispatcher of a session by itself, and what is shared by
all of them. -/
structure Session.CopiesApart (σ ν In Out E : Type) : Prop where
  /-- The drafts of a run are those at the ends of their lines. -/
  drafts (steps : List (Step σ ν In Out E)) (s : σ) :
    (after steps { state := s }).drafts = (Step.lines steps.reverse).map Line.draft
  /-- The dispatchers of a run are those of their origins. -/
  dispatchers (steps : List (Step σ ν In Out E)) (s : σ) :
    (after steps { state := s }).dispatchers
      = (Step.origins steps.reverse).map Expression.dispatcher
  labels (e : Expression σ ν In E Out) : e.dispatcher.labels = e.labels
  logUnhandled (e : Expression σ ν In E Out) : e.dispatcher.logUnhandled = e.flags.any id
  /-- Copies bring in no functions but their maps. -/
  callees (e : Expression σ ν In E Out) : e.dispatcher.callees ⊆ e.callees
  /-- What compiling a draft logs goes by the end of its line. -/
  compile_events (steps : List (Step σ ν In Out E)) (s : σ) (draft target : String)
    (l : Line σ ν In Out E) : Step.lines steps.reverse draft = some l →
      (step (.draft (.compile draft target)) (after steps { state := s })).events
        = l.draft.compile.records.map .log
  /-- Whether compiling a draft strictly rejects it goes by the end of its line, too. -/
  compileStrict_outcome (steps : List (Step σ ν In Out E)) (s : σ) (draft target : String)
    (l : Line σ ν In Out E) : Step.lines steps.reverse draft = some l →
      (step (.draft (.compileStrict draft target)) (after steps { state := s })).outcome
        = match l.draft.compileStrict with
          | .ok c => .done (.dispatcher c.dispatcher)
          | .error u => .done (.unreachable u)
  /-- A dispatcher stays as it is until a step makes one under its name. -/
  kept (steps : List (Step σ ν In Out E)) (name : String) (s : Session σ ν In Out E) :
    (∀ st ∈ steps, st.target? ≠ some name) → (after steps s).dispatchers name = s.dispatchers name
  /-- Every series of uses has its calls, which leave its events and its state. -/
  conversation (us : List (Use σ ν)) (s : σ) : ∃ calls, Use.Conversation us s calls
  happens (us : List (Use σ ν)) (s : σ) (calls : Transcript σ ν) :
    Use.Conversation us s calls →
      Transcript.Happens s calls (Event.unlogged (Use.events us s)) (Use.final us s)
  /-- The calls of a function that counts them in a cell of its own are numbered through. -/
  numbers (us : List (Use σ ν)) (s : σ) (cell : σ → Nat) (f : Callee σ ν) : f.Counts cell →
    (∀ u ∈ us, ∀ g ∈ u.callees, g = f ∨ g.Ignores cell) →
    ∀ calls, Use.Conversation us s calls →
      Transcript.numbers cell f s calls
          = List.range' (cell s + 1) (Transcript.numbers cell f s calls).length
        ∧ cell (Use.final us s) = cell s + (Transcript.numbers cell f s calls).length
  /-- A run of a session is a series of uses. -/
  run_state (steps : List (Step σ ν In Out E)) (s : σ) :
    (after steps { state := s }).state = Use.final (uses steps { state := s }) s
  run_events (steps : List (Step σ ν In Out E)) (s : σ) :
    Event.unlogged (Session.events steps { state := s })
      = Event.unlogged (Use.events (uses steps { state := s }) s)
  /-- A run of a session may call only what its steps bring in. -/
  run_callees (steps : List (Step σ ν In Out E)) (s : σ) (P : Callee σ ν → Prop) :
    (∀ st ∈ steps, ∀ f ∈ st.callees, P f) → ∀ u ∈ uses steps { state := s }, ∀ f ∈ u.callees, P f

/-- In a run of a session from empty registers the drafts are those at the ends of their lines, and
the dispatchers are those of their origins: with the names of the rules of the drafts from left to
right, whatever the maps, and with logging of unhandled input if one of the drafts asks for it.
What compiling a draft reports, or that it rejects it, goes by the draft at the end of the line,
too.  A dispatcher stays as it is until a step makes one under its name.

Yet a function is one function in all of these copies, which bring in no others but their maps.  If
each call of it raises a cell of the state by one, and nothing else that dispatchers may call
touches the cell, then in any series of uses of any dispatchers its calls are numbered through from
what the cell holds at the start, in the order in which they are made.  A run of a session is such
a series, and calls only what its steps bring in. -/
theorem copies_apart_functions_shared : Session.CopiesApart σ ν In Out E where
  drafts := Session.drafts_eq_lines
  dispatchers := Session.dispatchers_eq_origins
  labels e := e.labels_dispatcher
  logUnhandled e := e.logUnhandled_dispatcher
  callees e := e.callees_dispatcher
  compile_events steps s draft target l hl := by
    rw [Session.step, Session.draftStep_compile (Session.drafts_eq_lines steps s), hl]
    rfl
  compileStrict_outcome steps s draft target l hl := by
    rw [Session.step, Session.draftStep_compileStrict (Session.drafts_eq_lines steps s), hl]
    dsimp only
    cases l.draft.compileStrict <;> rfl
  kept _ _ s h := Session.dispatchers_after h s
  conversation us s := Use.exists_conversation us s
  happens _ _ _ h := h.happens
  numbers _ _ _ _ hf hothers _ h := h.numbers_eq hf hothers
  run_state steps s := (Session.run_uses steps { state := s }).1
  run_events steps s := (Session.run_uses steps { state := s }).2
  run_callees _ s P hsteps := (Session.Knows.start P s).uses hsteps

namespace Session.Sample

/-- Counts its calls in the state, notes the count and answers with it. -/
def tick : Callback Nat Nat Nat (Except String Nat) where
  shows _ := none
  body _ n := ⟨.done (.ok (n + 1)), [n + 1], n + 1⟩

/-- Takes even numbers only. -/
def even : Rule Nat Nat Nat Nat String := .answering (.whole "even" (.silent (· % 2 == 0))) tick

/-- A draft is copied before its rule is compiled, and the copy gets one more rule; then dispatchers
are mapped and chained. -/
def forked : List (Step Nat Nat Nat Nat String) :=
  [.draft (.start "a"), .draft (.add "a" even), .draft (.copy "a" "b"),
    .draft (.compile "a" "first"), .draft (.add "b" (.answering .any tick)),
    .draft (.configure "b" { logUnhandled := true }), .draft (.compileStrict "b" "second"),
    .combine (.map "first" (.silent (2 * ·)) "doubled"),
    .combine (.orElse "doubled" "second" "both"),
    .input "both" (.dispatch 3), .input "first" (.dispatch 4), .input "doubled" (.dispatch? 6),
    .input "second" (.dispatch 5)]

end Session.Sample

open Session.Sample (tick forked) in
/-- The append to the copy stays with the copy, and all four inputs are counted by one function. -/
theorem copies_apart_functions_shared_forked :
    ((Session.after forked { state := 0 }).dispatchers "first").map Dispatcher.labels
      = some ["even"]
    ∧ ((Session.after forked { state := 0 }).dispatchers "both").map Dispatcher.labels
      = some ["even", "even", "any"]
    ∧ ∃ calls, Use.Conversation (Session.uses forked { state := 0 }) 0 calls
      ∧ Transcript.numbers id ⟨tick⟩ 0 calls = [1, 2, 3, 4] := by
  have hcounts : Callee.Counts id (⟨tick⟩ : Callee Nat Nat) := fun _ _ => rfl
  have hsteps : ∀ st ∈ forked, ∀ g ∈ st.callees, g = ⟨tick⟩ ∨ g.Ignores id := by
    intro st hst g hg
    have hcallees : forked.flatMap Step.callees
        = [⟨.silent (· % 2 == 0)⟩, ⟨tick⟩, ⟨tick⟩, ⟨.silent (2 * ·)⟩] := rfl
    have hmem : g ∈ forked.flatMap Step.callees := List.mem_flatMap.mpr ⟨st, hst, hg⟩
    simp only [hcallees, List.mem_cons, List.not_mem_nil, or_false] at hmem
    rcases hmem with rfl | rfl | rfl | rfl
    · exact .inr fun _ _ => rfl
    · exact .inl rfl
    · exact .inl rfl
    · exact .inr fun _ _ => rfl
  have happly := @copies_apart_functions_shared Nat Nat Nat Nat String
  obtain ⟨calls, hcalls⟩ := happly.conversation (Session.uses forked { state := 0 }) 0
  have hothers := happly.run_callees forked 0 _ hsteps
  obtain ⟨hrange, hfinal⟩ := happly.numbers _ 0 id ⟨tick⟩ hcounts hothers calls hcalls
  have hfour : (Transcript.numbers id ⟨tick⟩ 0 calls).length = 4 := by
    rw [← happly.run_state] at hfinal
    have hafter : (Session.after forked { state := 0 }).state = 4 := by rfl
    rw [hafter] at hfinal
    exact (Nat.zero_add _).symm.trans hfinal.symm
  rw [hfour] at hrange
  rw [happly.dispatchers]
  exact ⟨rfl, rfl, calls, hcalls, hrange⟩

end FirstMatch
