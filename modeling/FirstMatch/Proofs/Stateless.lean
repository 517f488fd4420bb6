/-
# Rules that go by the input alone

What the guard and the condition of a rule say may depend on nothing but the input: they leave the
state as it is, do not panic, and say the same whatever the state is (`Rule.Stateless`).  They may
still leave notes, and the action of the rule may do anything.

In a list of such rules it is settled for every input which rule is the first to take it, or that
none does (`Dispatcher.exists_leads`).  A use of the dispatcher asks up to there, which changes
nothing; what it does besides is the work of the one rule that leads, or of giving up.  So two
dispatchers in which the same rule leads, whatever the input, answer alike
(`Dispatcher.AnswersAs.of_agree`), although they may ask different rules in different orders.
-/
import FirstMatch.Proofs.Outcomes

namespace FirstMatch

variable {σ ν In Out E α β : Type}

/-! ## Settled runs -/

/-- A run that ends with the value `a` and leaves the state as it was, from whatever state it
starts; its events may depend on the state. -/
def Run.Settles {ω : Type} (x : Run σ ω α) (a : α) : Prop :=
  ∀ s, ∃ events, x s = ⟨.done a, events, s⟩

namespace Run.Settles

variable {ω : Type} {x : Run σ ω α} {a b : α}

/-- A value has settled on itself. -/
protected theorem pure (a : α) : (pure a : Run σ ω α).Settles a := fun s => ⟨[], Run.pure_apply a s⟩

/-- Two runs in a row settle on what the second one settles on for the value of the first. -/
theorem bind {f : α → Run σ ω β} {b : β} (hx : x.Settles a) (hf : (f a).Settles b) :
    (x >>= f).Settles b := by
  intro s
  obtain ⟨events, hxs⟩ := hx s
  obtain ⟨events', hfs⟩ := hf s
  exact ⟨events ++ events', by rw [Run.bind_of_done hxs, hfs, Ending.after_mk]⟩

/-- A function of a settled value is settled. -/
theorem map (hx : x.Settles a) (f : α → β) : (f <$> x).Settles (f a) := by
  rw [map_eq_pure_bind]
  exact hx.bind (.pure _)

/-- Of a settled run only the events are open. -/
theorem apply_eq (hx : x.Settles a) (s : σ) : x s = ⟨.done a, (x s).events, s⟩ := by
  obtain ⟨events, hxs⟩ := hx s
  rw [hxs]

/-- If there is a state at all, then a run settles on one value only. -/
theorem eq_of_apply (hx : x.Settles a) {s : σ} (hb : (x s).outcome = .done b) : a = b := by
  rw [hx.apply_eq s] at hb
  exact Outcome.done.inj hb

end Run.Settles

/-- A function that goes by its argument alone. -/
def Callback.Stateless (f : Callback σ ν α β) : Prop := ∀ a, ∃ b, (f.body a).Settles b

/-- A call settles on what the body of the function settles on. -/
theorem Callback.settles_call {f : Callback σ ν α β} {a : α} {b : β} (h : (f.body a).Settles b)
    (role : Role) : (f.call role a).Settles b := by
  intro s
  obtain ⟨notes, hbody⟩ := h s
  exact ⟨.call role (f.shows a) :: notes.map .note, by rw [call_apply, hbody]⟩

/-- A condition goes by the view alone if all of its tests do. -/
theorem Condition.settles_holds {View : Type} {c : Condition σ ν View}
    (h : ∀ f ∈ c.tests, f.Stateless) (v : View) : ∃ b, (c.holds v).Settles b := by
  induction c with
  | test f =>
    obtain ⟨b, hb⟩ := h f (List.mem_singleton_self f) v
    exact ⟨b, f.settles_call hb .condition⟩
  | both first second ih ih' =>
    obtain ⟨b, hb⟩ := ih fun f hf => h f (List.mem_append_left _ hf)
    obtain ⟨b', hb'⟩ := ih' fun f hf => h f (List.mem_append_right _ hf)
    cases b with
    | false => exact ⟨false, hb.bind (.pure false)⟩
    | true => exact ⟨b', hb.bind hb'⟩

/-! ## Stateless rules -/

/-- What the guard and the condition of a rule say depends on the input alone; they leave the state
as it is and do not panic.  Nothing is said of the action. -/
structure Rule.Stateless (r : Rule σ ν In Out E) : Prop where
  guard (x : In) : ∃ v?, (r.guard.view? x).Settles v?
  condition (c : Condition σ ν r.View) : r.condition = some c → ∀ v, ∃ b, (c.holds v).Settles b

/-- From some state the rule takes the input. -/
def Rule.Takes (r : Rule σ ν In Out E) (x : In) : Prop := ∃ s, (r.accepts x s).outcome = .done true

namespace Rule

variable {r : Rule σ ν In Out E} {x : In}

/-- For every input a stateless rule has settled on a view, or on none. -/
theorem Stateless.select? (h : r.Stateless) (x : In) : ∃ v?, (r.select? x).Settles v? := by
  obtain ⟨v?, hguard⟩ := h.guard x
  cases v? with
  | none => exact ⟨none, hguard.bind (.pure none)⟩
  | some v =>
    have hadmits : ∃ b, (Guard.admits r.condition v).Settles b := by
      cases hc : r.condition with
      | none => exact ⟨true, .pure true⟩
      | some c => exact h.condition c hc v
    obtain ⟨b, hb⟩ := hadmits
    exact ⟨if b then some v else none, hguard.bind (hb.bind (.pure _))⟩

/-- A rule takes an input if it selects a view of it. -/
theorem accepts_eq_map (r : Rule σ ν In Out E) (x : In) :
    r.accepts x = Option.isSome <$> r.select? x := (map_eq_pure_bind _ _).symm

/-- A rule that has settled on a view takes the input, whatever the state is. -/
theorem takes_of_settles {v : r.View} (h : (r.select? x).Settles (some v)) (s : σ) : r.Takes x := by
  refine ⟨s, ?_⟩
  rw [accepts_eq_map, (h.map Option.isSome).apply_eq s]
  rfl

/-- A rule that has settled on no view takes the input from no state. -/
theorem not_takes_of_settles (h : (r.select? x).Settles none) : ¬ r.Takes x := by
  rintro ⟨s, htrue⟩
  rw [accepts_eq_map] at htrue
  exact absurd ((h.map Option.isSome).eq_of_apply htrue) (by simp)

/-- A stateless rule has settled on no view for the inputs that it does not take. -/
theorem Stateless.settles_none (h : r.Stateless) (hx : ¬ r.Takes x) :
    (r.select? x).Settles none := by
  obtain ⟨v? | v, hv⟩ := h.select? x
  · exact hv
  -- with a state to start in the rule would take the input, and without one nothing is claimed
  · exact fun s => absurd (takes_of_settles hv s) hx

end Rule

namespace Dispatcher

/-- All rules of a dispatcher go by the input alone. -/
def Stateless (d : Dispatcher σ ν In Out E) : Prop := ∀ r ∈ d.rules, r.Stateless

/-! ## The rule that leads -/

variable {rules front behind : List (Rule σ ν In Out E)} {r : Rule σ ν In Out E} {x : In} {s : σ}

/-- What is left behind when each of some rules is asked about an input, from one and the same
state. -/
def asking (rules : List (Rule σ ν In Out E)) (x : In) (s : σ) : List (Event ν) :=
  rules.flatMap fun r => (r.select? x s).events

/-- No rule of a list takes the input. -/
def Misses (x : In) (rules : List (Rule σ ν In Out E)) : Prop :=
  ∀ r ∈ rules, (r.select? x).Settles none

/-- The rule `r` with rules `front` before it is the first to take the input, with the view `v`. -/
structure Leads (x : In) (front : List (Rule σ ν In Out E)) (r : Rule σ ν In Out E) (v : r.View) :
    Prop where
  misses : Misses x front
  takes : (r.select? x).Settles (some v)

/-- Among stateless rules one leads, or none takes the input. -/
theorem exists_leads (h : ∀ r ∈ rules, r.Stateless) (x : In) :
    Misses x rules ∨ ∃ front r behind v, rules = front ++ r :: behind ∧ Leads x front r v := by
  induction rules with
  | nil => exact .inl fun r hr => absurd hr List.not_mem_nil
  | cons r rules ih =>
    obtain ⟨v? | v, hv⟩ := (h r List.mem_cons_self).select? x
    -- the first rule does not take the input, so the one that leads behind it leads
    · obtain hmisses | ⟨front, r', behind, v, rfl, hleads⟩ :=
        ih fun r' hr' => h r' (List.mem_cons_of_mem r hr')
      · exact .inl (List.forall_mem_cons.mpr ⟨hv, hmisses⟩)
      · have hfront : Misses x (r :: front) := List.forall_mem_cons.mpr ⟨hv, hleads.misses⟩
        exact .inr ⟨r :: front, r', behind, v, rfl, hfront, hleads.takes⟩
    · exact .inr ⟨[], r, rules, v, rfl, fun r' hr' => absurd hr' List.not_mem_nil, hv⟩

/-- Two lists are asked one after the other. -/
theorem asking_append (front behind : List (Rule σ ν In Out E)) (x : In) (s : σ) :
    asking (front ++ behind) x s = asking front x s ++ asking behind x s := List.flatMap_append

/-- A single rule is asked for the view that it selects. -/
theorem asking_singleton (r : Rule σ ν In Out E) (x : In) (s : σ) :
    asking [r] x s = (r.select? x s).events := List.flatMap_singleton _ r

/-- Where no rule takes the input, all rules are asked. -/
theorem Misses.find? (h : Misses x rules) (s : σ) :
    find? rules x s = ⟨.done none, asking rules x s, s⟩ := by
  induction rules with
  | nil => rfl
  | cons r rules ih =>
    obtain ⟨hr, hrules⟩ := List.forall_mem_cons.mp h
    have hrest : (Option.map Hit.later <$> Dispatcher.find? rules x) s
        = ⟨.done (none : Option (Hit (r :: rules))), asking rules x s, s⟩ := by
      rw [Run.map_apply, ih hrules]
      rfl
    rw [Dispatcher.find?, Run.bind_of_done (hr.apply_eq s)]
    exact congrArg (Ending.after (r.select? x s).events)
      ((congrFun (map_eq_pure_bind _ _) s).symm.trans hrest)

/-- A scan of rules that miss the input asks each of them and has no answer. -/
theorem Misses.scan (h : Misses x rules) (n : Nat) (s : σ) :
    scan n rules x s = ⟨.done none, asking rules x s, s⟩ := scan_eq_none_iff.mpr (h.find? s)

/-- Rules that miss the input do not accept it. -/
theorem Misses.anyAccepts (h : Misses x rules) (s : σ) :
    anyAccepts rules x s = ⟨.done false, asking rules x s, s⟩ := by
  rw [anyAccepts_eq, Run.map_apply, h.find? s]
  rfl

/-- Where a rule leads, it answers once the rules up to it are asked. -/
theorem Leads.scan {v : r.View} (h : Leads x front r v) (behind : List (Rule σ ν In Out E))
    (n : Nat) (s : σ) : scan n (front ++ r :: behind) x s
      = ((some <$> r.answer (n + front.length) v) s).after (asking (front ++ [r]) x s) := by
  have hfirst : Dispatcher.scan (n + front.length) (r :: behind) x s
      = ((some <$> r.answer (n + front.length) v) s).after (asking [r] x s) := by
    rw [Dispatcher.scan, Rule.react?, bind_assoc, Run.bind_of_done (h.takes.apply_eq s),
      asking_singleton]
    simp only [Rule.answer, bind_assoc, pure_bind, map_eq_pure_bind]
  rw [scan_append, Run.otherwise_of_none (h.misses.scan n s), hfirst, asking_append,
    Ending.after_after]

/-- Where a rule leads, the rules up to it are asked, and the input is accepted. -/
theorem Leads.anyAccepts {v : r.View} (h : Leads x front r v)
    (behind : List (Rule σ ν In Out E)) (s : σ) :
    anyAccepts (front ++ r :: behind) x s = ⟨.done true, asking (front ++ [r]) x s, s⟩ := by
  have haccepts : r.accepts x s = ⟨.done true, asking [r] x s, s⟩ := by
    rw [r.accepts_eq_map, Run.map_apply, h.takes.apply_eq s, asking_singleton]
    rfl
  rw [anyAccepts_append, Run.bind_of_done (h.misses.anyAccepts s)]
  show (Dispatcher.anyAccepts (r :: behind) x s).after (asking front x s) = _
  rw [Dispatcher.anyAccepts, Run.bind_of_done haccepts, asking_append]
  simp

end Dispatcher

/-! ## Other numbers -/

/-- The same record with other places of rules and other numbers of rules. -/
def Record.renumber (place count : Nat → Nat) : Record → Record
  | handled index label => .handled (place index) label
  | unhandled rules => .unhandled (count rules)
  | record => record

/-- The same event with other places of rules and other numbers of rules. -/
def Event.renumber (place count : Nat → Nat) : Event ν → Event ν
  | log record => .log (record.renumber place count)
  | e => e

/-- Calls and notes have no numbers. -/
theorem Event.map_renumber_of_no_records {place count : Nat → Nat} {events : List (Event ν)}
    (h : events.filterMap record? = []) : events.map (renumber place count) = events := by
  refine (List.map_congr_left fun e he => ?_).trans (List.map_id events)
  cases e with
  | log record => exact absurd (List.filterMap_eq_nil_iff.mp h _ he) (by simp [record?])
  | call role shown => rfl
  | note n => rfl

/-- The same answer with another number of rules that were asked in vain. -/
def Answer.recount (count : Nat → Nat) : Answer Out E → Answer Out E
  | answer (.error (.noMatch reason)) => .answer (.error (.noMatch ⟨count reason.rules⟩))
  | a => a

/-! ## Alike behind other questions -/

/-- Behind the events `asked` the one ending, and behind `asked'` the other one, go on alike from
the state `s`: the same calls are made, none of them to select a rule, and the same records are
written but for the numbers in them; the value of the second ending is that of the first under
`f`. -/
def Ending.GoOnAlike (place count : Nat → Nat) (s : σ) (f : α → β) (asked asked' : List (Event ν))
    (e : Ending σ (Event ν) α) (e' : Ending σ (Event ν) β) : Prop :=
  ∃ (o : Outcome α) (calls : Transcript σ ν) (rest : List (Event ν)) (t : σ),
    e = ⟨o, asked ++ rest, t⟩
    ∧ e' = ⟨o.map f, asked' ++ rest.map (Event.renumber place count), t⟩
    ∧ Transcript.Happens s calls (Event.unlogged rest) t
    ∧ Transcript.Within (fun role => !role.selects) calls

/-- Runs that go on alike do so with functions applied to their values. -/
theorem Ending.GoOnAlike.map {place count : Nat → Nat} {s : σ} {γ δ : Type} {f : α → β}
    {asked asked' : List (Event ν)} {x : Run σ (Event ν) α} {y : Run σ (Event ν) β}
    (h : GoOnAlike place count s f asked asked' (x s) (y s)) {k : γ → δ} {g : α → γ} {g' : β → δ}
    (hg : ∀ a, g' (f a) = k (g a)) :
    GoOnAlike place count s k asked asked' ((g <$> x) s) ((g' <$> y) s) := by
  obtain ⟨o, calls, rest, t, hx, hy, hcalled, hwithin⟩ := h
  refine ⟨o.map g, calls, rest, t, by rw [Run.map_apply, hx], ?_, hcalled, hwithin⟩
  rw [Run.map_apply, hy]
  cases o with
  | done a => exact congrArg (fun b => (⟨.done b, _, t⟩ : Ending σ (Event ν) δ)) (hg a)
  | panic message => rfl

namespace Dispatcher

/-- Asking whether an input is accepted makes calls that select a rule and no others, and these
leave the state as it was. -/
def OnlyAsks (d : Dispatcher σ ν In Out E) (x : In) (s : σ) : Prop :=
  ∃ questions : Transcript σ ν, Transcript.Happens s questions (d.accepts x s).events s
    ∧ Transcript.Within Role.selects questions

/-- A use of `d'` does what the same use of `d` does, but for what is asked of guards and
conditions.  Both first ask what they ask to say whether they accept the input, and then go on
alike; the places and numbers of rules may be others. -/
structure AnswersAs (place count : Nat → Nat) (d d' : Dispatcher σ ν In Out E) : Prop where
  asks (x : In) (s : σ) : d.OnlyAsks x s ∧ d'.OnlyAsks x s
  goOn (u : InputStep σ ν In Out E) (s : σ) :
    Ending.GoOnAlike place count s (Answer.recount count) (d.accepts u.input s).events
      (d'.accepts u.input s).events (u.ask d s) (u.ask d' s)

/-- In both of two lists the same rule leads, or both miss the input. -/
inductive Agree (place : Nat → Nat) (x : In) (rules rules' : List (Rule σ ν In Out E)) : Prop
  | missed : Misses x rules → Misses x rules' → Agree place x rules rules'
  | led {front front' behind behind' : List (Rule σ ν In Out E)} {r : Rule σ ν In Out E}
    {v : r.View} : rules = front ++ r :: behind → rules' = front' ++ r :: behind' →
    Leads x front r v → Leads x front' r v → place front.length = front'.length →
    Agree place x rules rules'

section Agree

variable {place count : Nat → Nat} {d d' : Dispatcher σ ν In Out E} {x : In}

/-- Behind what it asks, a dispatch that finds no rule only gives up. -/
theorem Misses.dispatch? (h : Misses x d.rules) (s : σ) :
    d.dispatch? x s = ⟨.done none, (d.accepts x s).events ++ d.unhandledLog, s⟩ := by
  rw [accepts, h.anyAccepts s]
  exact dispatch?_eq_none_iff_scan.mpr ⟨_, h.scan 0 s, rfl⟩

/-- Behind what it asks, a dispatch is the answer of the rule that leads. -/
theorem Leads.dispatch? {front behind : List (Rule σ ν In Out E)} {r : Rule σ ν In Out E}
    {v : r.View} (hd : d.rules = front ++ r :: behind) (h : Leads x front r v) (s : σ) :
    d.dispatch? x s
      = ((some <$> r.answer front.length v) s).after (d.accepts x s).events := by
  have hscan := h.scan behind 0 s
  rw [← hd, Nat.zero_add] at hscan
  have hne : (Dispatcher.scan 0 d.rules x s).outcome ≠ .done none := by
    rw [hscan, Run.map_apply]
    rcases r.answer front.length v s with ⟨result | message, events, t⟩ <;>
      simp [Outcome.map, Ending.after]
  rw [dispatch?_of_scan_ne_none hne, hscan, accepts, hd, h.anyAccepts behind s]

/-- Where the same rule leads both dispatchers say the same, and leave the state. -/
theorem Agree.accepts (h : Agree place x d.rules d'.rules) (s : σ) :
    ∃ b, d.accepts x s = ⟨.done b, (d.accepts x s).events, s⟩
      ∧ d'.accepts x s = ⟨.done b, (d'.accepts x s).events, s⟩ := by
  cases h with
  | missed hd hd' =>
    refine ⟨false, ?_, ?_⟩
    · rw [Dispatcher.accepts, hd.anyAccepts s]
    · rw [Dispatcher.accepts, hd'.anyAccepts s]
  | led hd hd' hleads hleads' _ =>
    refine ⟨true, ?_, ?_⟩
    · rw [Dispatcher.accepts, hd, hleads.anyAccepts _ s]
    · rw [Dispatcher.accepts, hd', hleads'.anyAccepts _ s]

/-- What is said of an input without a change of state takes questions only. -/
theorem onlyAsks_of_accepts {s : σ} {b : Bool} {events : List (Event ν)}
    (h : d.accepts x s = ⟨.done b, events, s⟩) : d.OnlyAsks x s := by
  have hstate := congrArg Ending.state h
  rw [accepts_apply] at hstate
  obtain ⟨questions, hfinds, hasked⟩ := (follows_find? d.rules x s _ _ _).mp rfl
  rw [OnlyAsks, accepts_apply]
  rw [show (find? d.rules x s).state = s from hstate] at hasked
  exact ⟨questions, hasked, hfinds.within⟩

/-- Dispatchers that agree on an input dispatch it alike. -/
theorem Agree.dispatch? (h : Agree place x d.rules d'.rules) (hsize : d'.size = count d.size)
    (hlog : d'.logUnhandled = d.logUnhandled) (s : σ) :
    Ending.GoOnAlike place count s id (d.accepts x s).events (d'.accepts x s).events
      (d.dispatch? x s) (d'.dispatch? x s) := by
  cases h with
  | missed hd hd' =>
    have hrenumber : d'.unhandledLog = d.unhandledLog.map (Event.renumber place count) := by
      rw [unhandledLog, unhandledLog, hlog, hsize]
      cases d.logUnhandled <;> rfl
    refine ⟨.done none, [], d.unhandledLog, s, hd.dispatch? s, ?_, ?_, Transcript.within_nil⟩
    · rw [hd'.dispatch? s, hrenumber]
      rfl
    · rw [d.unlogged_unhandledLog]
      exact .nil s
  | @led front front' _ _ r v hd hd' hleads hleads' hplace =>
    -- the action of the rule does the same in both, and behind it the place of the rule is logged
    rw [hleads.dispatch? hd s, hleads'.dispatch? hd' s, Run.map_apply, Run.map_apply, Rule.answer,
      Rule.answer]
    rcases hrun : r.action.run v s with ⟨result | message, events, t⟩
    all_goals
      obtain ⟨calls, hanswers, hcalled⟩ := (Action.follows_run _ _ _ _ _ _).mp hrun
      have hwithin : Transcript.Within (fun role => !role.selects) calls := fun c hc => by
        simp [selects_eq_false_of_answers (hanswers.within c hc)]
      have hevents : events.map (Event.renumber place count) = events :=
        Event.map_renumber_of_no_records hcalled.no_records
    · refine ⟨.done (some result), calls, events ++ [.log (.handled front.length r.label)], t,
        ?_, ?_, ?_, hwithin⟩
      · rw [Run.bind_of_done hrun]
        rfl
      · rw [Run.bind_of_done hrun, List.map_append, hevents, ← hplace]
        rfl
      · rw [Event.unlogged_append, hcalled.unlogged, Event.unlogged_log, List.append_nil]
        exact hcalled
    · refine ⟨.panic message, calls, events, t, ?_, ?_, ?_, hwithin⟩
      · rw [Run.bind_of_panic hrun]
        rfl
      · rw [Run.bind_of_panic hrun, hevents]
        rfl
      · rw [hcalled.unlogged]
        exact hcalled

/-- Where a dispatch has no answer, the fallback goes on from there. -/
theorem goOnAlike_dispatchOr {asked asked' : List (Event ν)} {s : σ}
    (h : Ending.GoOnAlike place count s id asked asked' (d.dispatch? x s) (d'.dispatch? x s))
    (f : Callback σ ν In (Except E Out)) :
    Ending.GoOnAlike place count s id asked asked' (d.dispatchOr f x s) (d'.dispatchOr f x s) := by
  obtain ⟨o, calls, rest, t, hd, hd', hcalled, hwithin⟩ := h
  rcases o with (_ | result) | message
  -- the fallback starts from the same state in both, and its events have no numbers
  · have hfallback := Transcript.happens_call .fallback f x t
    have hevents : (f.call .fallback x t).events.map (Event.renumber place count)
        = (f.call .fallback x t).events :=
      Event.map_renumber_of_no_records hfallback.no_records
    refine ⟨(f.call .fallback x t).outcome,
      calls ++ [⟨.fallback, f, x, (f.call .fallback x t).outcome⟩],
      rest ++ (f.call .fallback x t).events, (f.call .fallback x t).state, ?_, ?_, ?_, ?_⟩
    · rw [dispatchOr_of_none hd, Ending.after, List.append_assoc]
    · rw [dispatchOr_of_none hd', Ending.after, List.map_append, hevents, List.append_assoc]
      cases (f.call .fallback x t).outcome <;> rfl
    · rw [Event.unlogged_append, hfallback.unlogged]
      exact hcalled.append hfallback
    · refine Transcript.within_append.mpr ⟨hwithin, fun c hc => ?_⟩
      rw [List.mem_singleton.mp hc]
      rfl
  · exact ⟨.done result, calls, rest, t, dispatchOr_of_some hd, dispatchOr_of_some hd', hcalled,
      hwithin⟩
  · exact ⟨.panic message, calls, rest, t, dispatchOr_of_panic hd, dispatchOr_of_panic hd', hcalled,
      hwithin⟩

/-- Another number of rules is seen in the answer that there is no match, and nowhere else. -/
theorem settle_of_size (hsize : d'.size = count d.size) (result? : Option (Except E Out)) :
    Answer.answer (d'.settle result?) = (Answer.answer (d.settle result?)).recount count := by
  rcases result? with _ | _ | _
  · rw [settle, hsize]
    rfl
  · rfl
  · rfl

/-- Dispatchers that agree on every input answer alike. -/
theorem AnswersAs.of_agree (h : ∀ x, Agree place x d.rules d'.rules)
    (hsize : d'.size = count d.size) (hlog : d'.logUnhandled = d.logUnhandled) :
    AnswersAs place count d d' := by
  refine ⟨fun x s => ?_, fun u s => ?_⟩
  · obtain ⟨b, hd, hd'⟩ := (h x).accepts s
    exact ⟨onlyAsks_of_accepts hd, onlyAsks_of_accepts hd'⟩
  -- the ways of dispatching differ in what they make of one and the same answer
  have hdispatch? := (h u.input).dispatch? hsize hlog s
  cases u with
  | accepts x =>
    obtain ⟨b, hd, hd'⟩ := (h x).accepts s
    refine ⟨.done (.accepted b), [], [], s, ?_, ?_, .nil s, Transcript.within_nil⟩
    · rw [InputStep.ask, Run.map_apply, hd, List.append_nil]
      rfl
    · rw [InputStep.ask, Run.map_apply, hd', List.map_nil, List.append_nil]
      rfl
  | dispatch? x => exact hdispatch?.map fun _ => rfl
  | dispatch x =>
    have hdispatch : Ending.GoOnAlike place count s (Answer.recount count) (d.accepts x s).events
        (d'.accepts x s).events (((fun result? => .answer (d.settle result?)) <$> d.dispatch? x) s)
        (((fun result? => .answer (d'.settle result?)) <$> d'.dispatch? x) s) :=
      hdispatch?.map (settle_of_size hsize)
    rw [InputStep.ask, InputStep.ask, dispatch_eq_map, dispatch_eq_map, ← comp_map, ← comp_map]
    exact hdispatch
  | dispatchOr f x => exact (goOnAlike_dispatchOr hdispatch? f).map fun _ => rfl

end Agree

end Dispatcher

end FirstMatch
