/-
# Searching, then answering

Both ways through a list of rules begin with the same search for the first rule that takes the
input: `Dispatcher.accepts` reports whether it finds one (`anyAccepts_eq`), and
`Dispatcher.dispatch?` goes on to the action of the rule that it finds (`scan_eq`).  The search
itself asks guards and conditions only; its protocol says that every rule before the one found
rejects the input (`follows_find?`).
-/
import FirstMatch.Proofs.Conversation

namespace FirstMatch

variable {σ ν In Out E : Type}

/-- The action of a rule answers for a view, and the place `n` of the rule is logged. -/
def Rule.answer (r : Rule σ ν In Out E) (n : Nat) (v : r.View) :
    Run σ (Event ν) (Except E Out) := do
  let result ← r.action.run v
  Run.emit (.log (.handled n r.label))
  return result

/-! ## The search -/

/-- A rule of a list, with a view for its action. -/
structure Hit (rules : List (Rule σ ν In Out E)) : Type where
  index : Fin rules.length
  view : (rules.get index).View

namespace Hit

variable {r : Rule σ ν In Out E} {rules : List (Rule σ ν In Out E)}

/-- The first rule of a list. -/
def first (v : r.View) : Hit (r :: rules) := ⟨⟨0, Nat.zero_lt_succ _⟩, v⟩

/-- A rule behind the first one. -/
def later (h : Hit rules) : Hit (r :: rules) := ⟨h.index.succ, h.view⟩

/-- The rule of a hit answers; the first rule of the list has the place `n`. -/
def answer (n : Nat) (h : Hit rules) : Run σ (Event ν) (Except E Out) :=
  (rules.get h.index).answer (n + h.index) h.view

/-- Answers for a hit, if there is one. -/
def answer? (n : Nat) : Option (Hit rules) → Run σ (Event ν) (Option (Except E Out))
  | none => pure none
  | some h => some <$> h.answer n

/-- A hit at the first rule has the answer of that rule. -/
theorem answer_first (n : Nat) (v : r.View) :
    (first v : Hit (r :: rules)).answer n = r.answer n v := rfl

/-- A hit behind the first rule has its answer one place later. -/
theorem answer_later (n : Nat) (h : Hit rules) :
    (h.later : Hit (r :: rules)).answer n = h.answer (n + 1) := by
  have hplace : n + (h.index.succ : Nat) = n + 1 + h.index := by
    rw [Fin.val_succ]
    omega
  show (rules.get h.index).answer (n + (h.index.succ : Nat)) h.view = _
  rw [hplace]
  rfl

/-- If there is a hit behind the first rule it has its answer one place later. -/
theorem answer?_map_later (n : Nat) (h? : Option (Hit rules)) :
    answer? n (h?.map (later (r := r))) = answer? (n + 1) h? := by
  cases h? with
  | none => rfl
  | some h => exact congrArg (some <$> ·) (answer_later n h)

/-- A hit whose action ends is logged with its place, counted from `n`. -/
theorem answer?_of_done {h : Hit rules} {s t : σ} {result : Except E Out} {events : List (Event ν)}
    (hrun : (rules.get h.index).action.run h.view s = ⟨.done result, events, t⟩) (n : Nat) :
    answer? n (some h) s = ⟨.done (some result),
      events ++ [.log (.handled (n + h.index) (rules.get h.index).label)], t⟩ := by
  rw [answer?, Run.map_apply, answer, Rule.answer, Run.bind_of_done hrun]
  rfl

/-- A hit whose action panics is not logged. -/
theorem answer?_of_panic {h : Hit rules} {s t : σ} {message : String} {events : List (Event ν)}
    (hrun : (rules.get h.index).action.run h.view s = ⟨.panic message, events, t⟩) (n : Nat) :
    answer? n (some h) s = ⟨.panic message, events, t⟩ := by
  rw [answer?, Run.map_apply, answer, Rule.answer, Run.bind_of_panic hrun]
  rfl

end Hit

namespace Dispatcher

/-- The first rule that takes an input, with the view that it selects. -/
def find? : (rules : List (Rule σ ν In Out E)) → In → Run σ (Event ν) (Option (Hit rules))
  | [], _ => pure none
  | r :: rules, x => do
    match ← r.select? x with
    | some v => return some (.first v)
    | none => return (← find? rules x).map .later

/-- Asking whether a rule takes the input is searching for one. -/
theorem anyAccepts_eq (rules : List (Rule σ ν In Out E)) (x : In) :
    anyAccepts rules x = Option.isSome <$> find? rules x := by
  induction rules with
  | nil => rfl
  | cons r rules ih =>
    simp only [anyAccepts, Rule.accepts, find?, ih, bind_assoc, pure_bind, map_bind]
    congr 1
    funext v?
    cases v? with
    | none => simp [Option.isSome_map]
    | some v => rfl

/-- A scan searches for a rule and lets that one answer. -/
theorem scan_eq (n : Nat) (rules : List (Rule σ ν In Out E)) (x : In) :
    scan n rules x = find? rules x >>= Hit.answer? n := by
  induction rules generalizing n with
  | nil => rfl
  | cons r rules ih =>
    simp only [scan, Rule.react?, find?, ih, bind_assoc]
    congr 1
    funext v?
    cases v? with
    -- `ih` counts the rules behind the first from `n + 1`, as their hits do
    | none => simp [Hit.answer?_map_later]
    | some v =>
      simp only [pure_bind, Hit.answer?, Hit.answer_first, Rule.answer, map_bind, map_pure,
        bind_assoc]

/-! ## The two ways through a dispatcher -/

/-- The log record of an input that no rule takes, if the dispatcher logs it. -/
def unhandledLog (d : Dispatcher σ ν In Out E) : List (Event ν) :=
  if d.logUnhandled then [.log (.unhandled d.size)] else []

/-- To accept an input is to find a rule for it. -/
theorem accepts_apply (d : Dispatcher σ ν In Out E) (x : In) (s : σ) :
    d.accepts x s = ⟨(find? d.rules x s).outcome.map Option.isSome, (find? d.rules x s).events,
      (find? d.rules x s).state⟩ := by
  rw [accepts, anyAccepts_eq, Run.map_apply]

variable {d : Dispatcher σ ν In Out E} {x : In} {s t : σ} {events : List (Event ν)}

/-- An input is accepted exactly if a rule is found for it. -/
theorem accepts_eq_true_iff : d.accepts x s = ⟨.done true, events, t⟩ ↔
    ∃ h, find? d.rules x s = ⟨.done (some h), events, t⟩ := by
  rw [accepts_apply]
  rcases find? d.rules x s with ⟨(_ | h) | message, events', t'⟩ <;> simp [Outcome.map]

/-- An input is not accepted exactly if no rule is found for it. -/
theorem accepts_eq_false_iff : d.accepts x s = ⟨.done false, events, t⟩ ↔
    find? d.rules x s = ⟨.done none, events, t⟩ := by
  rw [accepts_apply]
  rcases find? d.rules x s with ⟨(_ | h) | message, events', t'⟩ <;> simp [Outcome.map]

/-- Asking whether an input is accepted panics exactly if the search does. -/
theorem accepts_eq_panic_iff {message : String} : d.accepts x s = ⟨.panic message, events, t⟩ ↔
    find? d.rules x s = ⟨.panic message, events, t⟩ := by
  rw [accepts_apply]
  rcases find? d.rules x s with ⟨(_ | h) | message', events', t'⟩ <;> simp [Outcome.map]

/-- The courses that a dispatch may take from a state, and how each of them ends: the search
panics, it finds no rule, the action of the rule that it finds panics, or that action answers. -/
inductive Course (d : Dispatcher σ ν In Out E) (x : In) (s : σ) :
    Ending σ (Event ν) (Option (Except E Out)) → Prop
  | searchPanics {message : String} {events : List (Event ν)} {t : σ} :
    find? d.rules x s = ⟨.panic message, events, t⟩ → Course d x s ⟨.panic message, events, t⟩
  | missed {events : List (Event ν)} {t : σ} :
    find? d.rules x s = ⟨.done none, events, t⟩ →
    Course d x s ⟨.done none, events ++ d.unhandledLog, t⟩
  | actionPanics {h : Hit d.rules} {message : String} {events events' : List (Event ν)} {t u : σ} :
    find? d.rules x s = ⟨.done (some h), events, t⟩ →
    (d.rules.get h.index).action.run h.view t = ⟨.panic message, events', u⟩ →
    Course d x s ⟨.panic message, events ++ events', u⟩
  | answered {h : Hit d.rules} {result : Except E Out} {events events' : List (Event ν)} {t u : σ} :
    find? d.rules x s = ⟨.done (some h), events, t⟩ →
    (d.rules.get h.index).action.run h.view t = ⟨.done result, events', u⟩ →
    Course d x s ⟨.done (some result),
      events ++ events' ++ [.log (.handled h.index (d.rules.get h.index).label)], u⟩

/-- Every course that a dispatch may take is the one that it takes. -/
theorem dispatch?_of_course {e : Ending σ (Event ν) (Option (Except E Out))}
    (h : Course d x s e) : d.dispatch? x s = e := by
  rw [dispatch?, scan_eq, bind_assoc]
  cases h with
  | searchPanics hfind => rw [Run.bind_of_panic hfind]
  | missed hfind =>
    rw [Run.bind_of_done hfind]
    cases hlog : d.logUnhandled <;>
      simp [Hit.answer?, unhandledLog, hlog, Run.map_apply, Outcome.map]
  | actionPanics hfind hrun =>
    rw [Run.bind_of_done hfind, Run.bind_of_panic (Hit.answer?_of_panic hrun 0), Ending.after_mk]
  | answered hfind hrun =>
    rw [Run.bind_of_done hfind, Run.bind_of_done (Hit.answer?_of_done hrun 0), Ending.after_after,
      ← List.append_assoc, Nat.zero_add]
    simp

/-- A dispatch takes one of its courses. -/
theorem course_iff {e : Ending σ (Event ν) (Option (Except E Out))} :
    Course d x s e ↔ d.dispatch? x s = e := by
  constructor
  · exact dispatch?_of_course
  · rintro rfl
    rcases hfind : find? d.rules x s with ⟨(_ | h) | message, events, t⟩
    · rw [dispatch?_of_course (.missed hfind)]
      exact .missed hfind
    · rcases hrun : (d.rules.get h.index).action.run h.view t with ⟨result | message, events', u⟩
      · rw [dispatch?_of_course (.answered hfind hrun)]
        exact .answered hfind hrun
      · rw [dispatch?_of_course (.actionPanics hfind hrun)]
        exact .actionPanics hfind hrun
    · rw [dispatch?_of_course (.searchPanics hfind)]
      exact .searchPanics hfind

/-! ## What a search asks -/

/-- All of the rules reject an input, one after the other. -/
inductive AllReject (x : In) : List (Rule σ ν In Out E) → Transcript σ ν → Prop
  | nil : AllReject x [] []
  | cons {r : Rule σ ν In Out E} {rules : List (Rule σ ν In Out E)} {calls rest : Transcript σ ν} :
    r.Rejects x calls → AllReject x rules rest → AllReject x (r :: rules) (calls ++ rest)

/-- What a search asks.  Nothing is found if all rules reject the input; a rule is found if all
rules before it reject the input and it accepts. -/
inductive Finds (rules : List (Rule σ ν In Out E)) (x : In) : Protocol σ ν (Option (Hit rules))
  | missed {calls : Transcript σ ν} : AllReject x rules calls → Finds rules x calls (.done none)
  | found (h : Hit rules) {before calls : Transcript σ ν} :
    AllReject x (rules.take h.index) before → (rules.get h.index).Accepts x h.view calls →
    Finds rules x (before ++ calls) (.done (some h))
  | broken (i : Fin rules.length) {before calls : Transcript σ ν} {message : String} :
    AllReject x (rules.take i) before → (rules.get i).Selects x calls (.panic message) →
    Finds rules x (before ++ calls) (.panic message)

/-- A search goes on behind a rule that rejects the input. -/
theorem Finds.cons {r : Rule σ ν In Out E} {rules : List (Rule σ ν In Out E)} {x : In}
    {calls rest : Transcript σ ν} {o : Outcome (Option (Hit rules))} (hr : r.Rejects x calls)
    (hrest : Finds rules x rest o) :
    Finds (r :: rules) x (calls ++ rest) (o.map (Option.map .later)) := by
  cases hrest with
  | missed hall => exact .missed (.cons hr hall)
  | found h hbefore haccepts =>
    rw [← List.append_assoc]
    exact .found h.later (.cons hr hbefore) haccepts
  | broken i hbefore hpanic =>
    rw [← List.append_assoc]
    exact .broken (show Fin (r :: rules).length from i.succ) (.cons hr hbefore) hpanic

/-- A search either ends at the first rule or goes on behind it. -/
theorem Finds.of_cons {r : Rule σ ν In Out E} {rules : List (Rule σ ν In Out E)} {x : In}
    {calls : Transcript σ ν} {o : Outcome (Option (Hit (r :: rules)))}
    (h : Finds (r :: rules) x calls o) :
    (∃ message, r.Selects x calls (.panic message) ∧ o = .panic message)
      ∨ (∃ v, r.Accepts x v calls ∧ o = .done (some (.first v)))
      ∨ ∃ before rest o', r.Rejects x before ∧ Finds rules x rest o' ∧ calls = before ++ rest
        ∧ o = o'.map (Option.map .later) := by
  -- where it ends at the first rule nothing was asked before, so the place decides the case
  cases h with
  | missed hall =>
    obtain _ | ⟨hr, hrest⟩ := hall
    exact .inr (.inr ⟨_, _, _, hr, .missed hrest, rfl, rfl⟩)
  | found h hbefore haccepts =>
    obtain ⟨⟨_ | i, hi⟩, v⟩ := h
    · cases hbefore
      exact .inr (.inl ⟨v, haccepts, rfl⟩)
    · obtain _ | ⟨hr, hrest⟩ := hbefore
      have hfound := Finds.found ⟨⟨i, Nat.lt_of_succ_lt_succ hi⟩, v⟩ hrest haccepts
      exact .inr (.inr ⟨_, _, _, hr, hfound, List.append_assoc .., rfl⟩)
  | broken i hbefore hpanic =>
    obtain ⟨_ | i, hi⟩ := i
    · cases hbefore
      exact .inl ⟨_, hpanic, rfl⟩
    · obtain _ | ⟨hr, hrest⟩ := hbefore
      have hbroken := Finds.broken ⟨i, Nat.lt_of_succ_lt_succ hi⟩ hrest hpanic
      exact .inr (.inr ⟨_, _, _, hr, hbroken, List.append_assoc .., rfl⟩)

/-- A search asks rules in order, up to the first that accepts. -/
theorem follows_find? (rules : List (Rule σ ν In Out E)) (x : In) :
    (find? rules x).Follows (Finds rules x) := by
  induction rules with
  | nil =>
    refine (Run.Follows.pure none).congr fun calls o => ?_
    constructor
    · rintro ⟨⟩
      exact .missed .nil
    · intro hfinds
      cases hfinds with
      | missed hall =>
        cases hall
        exact .intro
      | found h => exact h.index.elim0
      | broken i => exact i.elim0
  | cons r rules ih =>
    refine ((r.follows_select? x).bind
      (Q := fun v? => v?.elim
        (Protocol.Bind (Finds rules x) fun h? => Protocol.Pure (h?.map Hit.later))
        fun v => Protocol.Pure (some (Hit.first v))) fun v? => ?_).congr fun calls o => ?_
    · cases v? with
      | none => exact ih.bind fun h? => .pure _
      | some v => exact .pure _
    · constructor
      · rintro (hpanic | @⟨calls, rest, _ | v, _, hselects, hrest⟩)
        · exact .broken (show Fin (r :: rules).length from ⟨0, Nat.zero_lt_succ _⟩) .nil hpanic
        -- a view of the first rule ends the search, and without one it goes on behind
        · obtain ⟨o', hfinds, rfl⟩ := Protocol.bind_pure_iff.mp hrest
          exact .cons hselects hfinds
        · obtain ⟨⟩ := hrest
          rw [List.append_nil]
          exact .found (.first v : Hit (r :: rules)) .nil hselects
      · intro hfinds
        obtain ⟨_, hpanic, rfl⟩ | ⟨v, haccepts, rfl⟩ | ⟨_, _, o', hr, hrest, rfl, rfl⟩ :=
          hfinds.of_cons
        · exact .panic hpanic
        · rw [← List.append_nil calls]
          exact .done haccepts Protocol.Pure.intro
        · exact .done hr (Protocol.bind_pure_iff.mpr ⟨o', hrest, rfl⟩)

end Dispatcher

end FirstMatch
