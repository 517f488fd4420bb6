/-
# One dispatcher behind another

Chained dispatchers work one after the other: the second is asked only if no rule of the first takes
the input, and from the state in which the first left off.  What changes is the bookkeeping alone.
The places of the rules of the second are counted on from the size of the first, and unhandled input
is logged at most once, for all rules of both.
-/
import FirstMatch.Proofs.Phases

namespace FirstMatch

variable {σ ν In Out E : Type}

/-! ## Places counted on -/

/-- The same event with `n` rules in front of the one whose place it gives. -/
def Event.behind (n : Nat) : Event ν → Event ν
  | .log (.handled index label) => .log (.handled (n + index) label)
  | e => e

/-- Calls and notes give no places. -/
theorem Event.map_behind_of_no_records {n : Nat} {events : List (Event ν)}
    (h : events.filterMap record? = []) : events.map (behind n) = events := by
  induction events with
  | nil => rfl
  | cons e events ih =>
    cases e with
    | log record => simp [record?] at h
    | call role shown => exact congrArg (Event.call role shown :: ·) (ih h)
    | note note => exact congrArg (Event.note note :: ·) (ih h)

/-! ## Runs that may have no value -/

/-- The second run where the first one has no value. -/
def Run.otherwise {ω α : Type} (x y : Run σ ω (Option α)) : Run σ ω (Option α) := do
  match ← x with
  | some a => return some a
  | none => y

namespace Run

variable {ω α : Type} {x y z : Run σ ω (Option α)} {s t : σ}

/-- Without a value of the first run the second one goes on from its state. -/
theorem otherwise_of_none {events : List ω} (h : x s = ⟨.done none, events, t⟩) :
    x.otherwise y s = (y t).after events := by
  rw [otherwise, bind_of_done h]

/-- With a value of the first run, or a panic, the second one does not happen. -/
theorem otherwise_of_ne_none (h : (x s).outcome ≠ .done none) : x.otherwise y s = x s := by
  rw [otherwise, bind_apply]
  rcases hx : x s with ⟨(_ | a) | message, events, t⟩
  · rw [hx] at h
    exact absurd rfl h
  · simp
  · rfl

/-- Three runs, each where the one before has no value, may be grouped in either way. -/
theorem otherwise_assoc : (x.otherwise y).otherwise z = x.otherwise (y.otherwise z) := by
  rw [otherwise, otherwise, bind_assoc, otherwise]
  congr 1
  funext a?
  cases a? with
  | none => rfl
  | some a => exact pure_bind _ _

end Run

namespace Dispatcher

/-! ## Scans of two lists -/

/-- Two lists are scanned one after the other, the second from a later place. -/
theorem scan_append (n : Nat) (rules rules' : List (Rule σ ν In Out E)) (x : In) :
    scan n (rules ++ rules') x = (scan n rules x).otherwise (scan (n + rules.length) rules' x) := by
  induction rules generalizing n with
  | nil => rfl
  | cons r rules ih =>
    rw [List.cons_append, scan, scan, Run.otherwise, bind_assoc]
    congr 1
    funext result?
    cases result? with
    | none =>
      -- the scan of the second list starts one place later than `ih` says
      have hplace : n + (r :: rules).length = n + 1 + rules.length := by
        rw [List.length_cons]
        omega
      rw [hplace]
      exact ih (n + 1)
    | some result => rfl

/-- The rules of the second list are asked only if none of the first takes the input. -/
theorem anyAccepts_append (rules rules' : List (Rule σ ν In Out E)) (x : In) :
    anyAccepts (rules ++ rules') x = (do
      if ← anyAccepts rules x then return true else anyAccepts rules' x) := by
  induction rules with
  | nil => rfl
  | cons r rules ih =>
    rw [List.cons_append, anyAccepts, anyAccepts, bind_assoc]
    congr 1
    funext b
    cases b with
    | false => exact ih
    | true => rfl

/-! ## Scans from another place -/

/-- The same scan with `k` more rules in front: only the place in the log record differs. -/
theorem scan_add (k n : Nat) (rules : List (Rule σ ν In Out E)) (x : In) (s : σ) :
    scan (k + n) rules x s = (scan n rules x s).mapEvents (Event.behind k) := by
  rw [scan_eq, scan_eq]
  rcases hfind : find? rules x s with ⟨o, events, t⟩
  have hevents : events.map (Event.behind k) = events :=
    Event.map_behind_of_no_records ((follows_find? rules x).no_records hfind)
  rcases o with (_ | h) | message
  · rw [Run.bind_of_done hfind, Run.bind_of_done hfind]
    simp [Hit.answer?, Ending.mapEvents, hevents]
  · rw [Run.bind_of_done hfind, Run.bind_of_done hfind]
    rcases hrun : (rules.get h.index).action.run h.view t with ⟨o, events', u⟩
    have hevents' : events'.map (Event.behind k) = events' :=
      Event.map_behind_of_no_records ((Action.follows_run _ _).no_records hrun)
    rcases o with result | message
    -- only here is a place logged: it counts the rules in front of the list and those before it
    · rw [Hit.answer?_of_done hrun, Hit.answer?_of_done hrun]
      simp [Ending.mapEvents, Event.behind, hevents, hevents', Nat.add_assoc]
    · rw [Hit.answer?_of_panic hrun, Hit.answer?_of_panic hrun]
      simp [Ending.mapEvents, hevents, hevents']
  · rw [Run.bind_of_panic hfind, Run.bind_of_panic hfind]
    simp [Ending.mapEvents, hevents]

/-- A scan has no answer exactly if the search finds no rule; it then logs nothing. -/
theorem scan_eq_none_iff {n : Nat} {rules : List (Rule σ ν In Out E)} {x : In} {s t : σ}
    {events : List (Event ν)} :
    scan n rules x s = ⟨.done none, events, t⟩ ↔ find? rules x s = ⟨.done none, events, t⟩ := by
  rw [scan_eq]
  constructor
  · intro hscan
    rcases hfind : find? rules x s with ⟨(_ | h) | message, events', t'⟩
    · rw [Run.bind_of_done hfind] at hscan
      simpa [Hit.answer?] using hscan
    -- a rule that was found answers or panics, so the scan would not have ended without an answer
    · rw [Run.bind_of_done hfind] at hscan
      rcases hrun : (rules.get h.index).action.run h.view t' with ⟨result | message, events', u⟩
      · rw [Hit.answer?_of_done hrun] at hscan
        simp at hscan
      · rw [Hit.answer?_of_panic hrun] at hscan
        simp at hscan
    · rw [Run.bind_of_panic hfind] at hscan
      simp at hscan
  · intro hfind
    rw [Run.bind_of_done hfind]
    simp [Hit.answer?]

/-! ## Dispatching to two dispatchers -/

/-- What is left to do with an input that no rule takes. -/
def giveUp (d : Dispatcher σ ν In Out E) : Run σ (Event ν) (Option (Except E Out)) := do
  if d.logUnhandled then Run.emit (.log (.unhandled d.size))
  return none

variable {a b d : Dispatcher σ ν In Out E} {x : In} {s t : σ} {events : List (Event ν)}

/-- Giving up leaves nothing but the record of unhandled input. -/
theorem giveUp_apply : d.giveUp s = ⟨.done none, d.unhandledLog, s⟩ := by
  rw [giveUp, unhandledLog]
  cases d.logUnhandled <;> rfl

/-- A dispatch scans the rules and gives up where the scan has no answer. -/
theorem dispatch?_eq_otherwise : d.dispatch? x = (scan 0 d.rules x).otherwise d.giveUp := by
  rw [dispatch?, Run.otherwise]
  congr 1
  funext result?
  cases result? with
  | none => rfl
  | some result => rfl

/-- Chained dispatchers scan the rules of the first and then, from another place, those of the
second; only then they give up. -/
theorem dispatch?_orElse_eq_otherwise : (a.orElse b).dispatch? x =
    (scan 0 a.rules x).otherwise ((scan a.size b.rules x).otherwise (a.orElse b).giveUp) := by
  rw [dispatch?_eq_otherwise, orElse, scan_append, Run.otherwise_assoc, Nat.zero_add]
  rfl

/-- Where the scan answers or panics, so does the dispatch. -/
theorem dispatch?_of_scan_ne_none (h : (scan 0 d.rules x s).outcome ≠ .done none) :
    d.dispatch? x s = scan 0 d.rules x s := by
  rw [dispatch?_eq_otherwise, Run.otherwise_of_ne_none h]

/-- A dispatch has no answer exactly if the scan has none. -/
theorem dispatch?_eq_none_iff_scan : d.dispatch? x s = ⟨.done none, events, t⟩ ↔
    ∃ asked, scan 0 d.rules x s = ⟨.done none, asked, t⟩ ∧ events = asked ++ d.unhandledLog := by
  rw [← course_iff]
  constructor
  · rintro (_ | hfind)
    exact ⟨_, scan_eq_none_iff.mpr hfind, rfl⟩
  · rintro ⟨asked, hscan, rfl⟩
    exact .missed (scan_eq_none_iff.mp hscan)

/-- Where the dispatch answers or panics, the scan does. -/
theorem scan_ne_none_of_dispatch? (h : (d.dispatch? x s).outcome ≠ .done none) :
    (scan 0 d.rules x s).outcome ≠ .done none := by
  rcases hscan : scan 0 d.rules x s with ⟨o, asked, t⟩
  rintro ⟨⟩
  exact h (congrArg Ending.outcome (dispatch?_eq_none_iff_scan.mpr ⟨asked, hscan, rfl⟩))

/-- The second of two dispatchers is not asked where the first one answers or panics. -/
theorem dispatch?_orElse_of_ne_none (h : (a.dispatch? x s).outcome ≠ .done none)
    (b : Dispatcher σ ν In Out E) : (a.orElse b).dispatch? x s = a.dispatch? x s := by
  have hscan := scan_ne_none_of_dispatch? h
  rw [dispatch?_orElse_eq_otherwise, Run.otherwise_of_ne_none hscan,
    dispatch?_of_scan_ne_none hscan]

/-- Where the first of two dispatchers finds no rule, the rules of the second one are scanned
next. -/
theorem dispatch?_orElse_of_scan (h : scan 0 a.rules x s = ⟨.done none, events, t⟩) :
    (a.orElse b).dispatch? x s =
      ((scan a.size b.rules x).otherwise (a.orElse b).giveUp t).after events := by
  rw [dispatch?_orElse_eq_otherwise, Run.otherwise_of_none h]

/-- Where the first of two dispatchers finds no rule and the second one answers or panics, the
second does so with its places counted on. -/
theorem dispatch?_orElse_of_scan_of_ne_none (ha : scan 0 a.rules x s = ⟨.done none, events, t⟩)
    (hb : (b.dispatch? x t).outcome ≠ .done none) : (a.orElse b).dispatch? x s =
      ((b.dispatch? x t).mapEvents (Event.behind a.size)).after events := by
  have hscan := scan_ne_none_of_dispatch? hb
  have hshift : scan a.size b.rules x t = (scan 0 b.rules x t).mapEvents (Event.behind a.size) :=
    scan_add a.size 0 b.rules x t
  have hne : (scan a.size b.rules x t).outcome ≠ .done none := by
    rw [hshift]
    exact hscan
  rw [dispatch?_orElse_of_scan ha, Run.otherwise_of_ne_none hne, hshift,
    dispatch?_of_scan_ne_none hscan]

/-- Where both dispatchers find no rule, they give up as one. -/
theorem dispatch?_orElse_of_scan_of_scan {events' : List (Event ν)} {u : σ}
    (ha : scan 0 a.rules x s = ⟨.done none, events, t⟩)
    (hb : scan 0 b.rules x t = ⟨.done none, events', u⟩) : (a.orElse b).dispatch? x s =
      ⟨.done none, events ++ events' ++ (a.orElse b).unhandledLog, u⟩ := by
  have hb' : scan a.size b.rules x t = ⟨.done none, events', u⟩ :=
    scan_eq_none_iff.mpr (scan_eq_none_iff.mp hb)
  rw [dispatch?_orElse_of_scan ha, Run.otherwise_of_none hb', giveUp_apply, List.append_assoc]
  rfl

/-- Where the first finds no rule and the second one answers, the calls of both come in a row, and
the place is counted on. -/
theorem dispatch?_orElse_of_scan_of_some {events' : List (Event ν)} {u : σ}
    {result : Except E Out} (ha : scan 0 a.rules x s = ⟨.done none, events, t⟩)
    (hb : b.dispatch? x t = ⟨.done (some result), events', u⟩) :
    ∃ called i label, events' = called ++ [.log (.handled i label)]
      ∧ called.filterMap Event.record? = []
      ∧ (a.orElse b).dispatch? x s = ⟨.done (some result),
        events ++ called ++ [.log (.handled (a.size + i) label)], u⟩ := by
  obtain ⟨i, r, calls, called, -, hcalled, rfl⟩ := dispatch?_eq_some_iff.mp hb
  have hne : (b.dispatch? x t).outcome ≠ .done none := by
    rw [hb]
    simp
  refine ⟨called, i, r.label, rfl, hcalled.no_records, ?_⟩
  rw [dispatch?_orElse_of_scan_of_ne_none ha hne, hb, Ending.mapEvents, List.map_append,
    Event.map_behind_of_no_records hcalled.no_records, Ending.after_mk, List.append_assoc]
  rfl

/-- Where the first finds no rule and the second one panics, so do both. -/
theorem dispatch?_orElse_of_scan_of_panic {events' : List (Event ν)} {u : σ} {message : String}
    (ha : scan 0 a.rules x s = ⟨.done none, events, t⟩)
    (hb : b.dispatch? x t = ⟨.panic message, events', u⟩) :
    (a.orElse b).dispatch? x s = ⟨.panic message, events ++ events', u⟩ := by
  obtain ⟨i, r, calls, -, hcalled⟩ := dispatch?_eq_panic_iff.mp hb
  have hne : (b.dispatch? x t).outcome ≠ .done none := by
    rw [hb]
    simp
  rw [dispatch?_orElse_of_scan_of_ne_none ha hne, hb, Ending.mapEvents,
    Event.map_behind_of_no_records hcalled.no_records, Ending.after_mk]

/-- Two dispatchers give no answer together if each gives none, the second from the state in which
the first leaves off. -/
theorem dispatch?_orElse_eq_none_iff :
    ((a.orElse b).dispatch? x s).outcome = .done none ↔ (a.dispatch? x s).outcome = .done none
      ∧ (b.dispatch? x (a.dispatch? x s).state).outcome = .done none := by
  by_cases ha : (a.dispatch? x s).outcome = .done none
  · obtain ⟨asked, hscan, -⟩ := dispatch?_eq_none_iff_scan.mp (Ending.eq_mk ha)
    by_cases hb : (b.dispatch? x (a.dispatch? x s).state).outcome = .done none
    · obtain ⟨asked', hscan', -⟩ := dispatch?_eq_none_iff_scan.mp (Ending.eq_mk hb)
      rw [dispatch?_orElse_of_scan_of_scan hscan hscan']
      simp [ha, hb]
    · rw [dispatch?_orElse_of_scan_of_ne_none hscan hb]
      exact ⟨fun h => absurd h hb, fun h => absurd h.2 hb⟩
  · rw [dispatch?_orElse_of_ne_none ha b]
    exact ⟨fun h => absurd h ha, fun h => absurd h.1 ha⟩

/-- The second of two dispatchers is asked only if the first does not accept the input. -/
theorem accepts_orElse : (a.orElse b).accepts x = (do
    if ← a.accepts x then return true else b.accepts x) :=
  anyAccepts_append a.rules b.rules x

/-- The one reason for which a dispatch fails without an action is that there is no answer. -/
theorem dispatch_eq_noMatch_iff {reason : NoMatch} :
    (d.dispatch x s).outcome = .done (.error (.noMatch reason)) ↔
      reason = ⟨d.size⟩ ∧ (d.dispatch? x s).outcome = .done none := by
  rw [dispatch, Run.bind_apply]
  rcases d.dispatch? x s with ⟨(_ | e | out) | message, events, t⟩
  · simp [eq_comm]
  · simp
  · simp
  · simp

/-- What the second of two dispatchers does with an input behind the calls in which the rules of the
first one reject it, and from the state that these calls leave. -/
structure Continues (a b : Dispatcher σ ν In Out E) (x : In) (s t : σ)
    (asked : List (Event ν)) : Prop where
  /-- The place of the rule that takes the input is counted on. -/
  answers (result : Except E Out) (events : List (Event ν)) (u : σ)
      (hb : b.dispatch? x t = ⟨.done (some result), events, u⟩) :
    ∃ called i label, events = called ++ [.log (.handled i label)]
      ∧ called.filterMap Event.record? = []
      ∧ (a.orElse b).dispatch? x s = ⟨.done (some result),
        asked ++ called ++ [.log (.handled (a.size + i) label)], u⟩
  panics (message : String) (events : List (Event ν)) (u : σ)
      (hb : b.dispatch? x t = ⟨.panic message, events, u⟩) :
    (a.orElse b).dispatch? x s = ⟨.panic message, asked ++ events, u⟩
  /-- The one record that no rule takes the input counts the rules of both. -/
  givesUp (ended : List (Event ν)) (u : σ) (hb : b.dispatch? x t = ⟨.done none, ended, u⟩) :
    ∃ asked', ended = asked' ++ (if b.logUnhandled then [.log (.unhandled b.size)] else [])
      ∧ asked'.filterMap Event.record? = []
      ∧ (a.orElse b).dispatch? x s = ⟨.done none, asked ++ asked'
        ++ (if a.logUnhandled || b.logUnhandled
          then [.log (.unhandled (a.size + b.size))] else []), u⟩

/-- What two dispatchers do with an input, one behind the other. -/
structure Sequential (a b : Dispatcher σ ν In Out E) (x : In) (s : σ) : Prop where
  /-- Where the first one answers or panics the second takes no part. -/
  first (ha : (a.dispatch? x s).outcome ≠ .done none) :
    (a.orElse b).dispatch? x s = a.dispatch? x s
  /-- Where the first one has no answer the second goes on behind its calls. -/
  second (ended : List (Event ν)) (t : σ) (ha : a.dispatch? x s = ⟨.done none, ended, t⟩) :
    ∃ asked, ended = asked ++ (if a.logUnhandled then [.log (.unhandled a.size)] else [])
      ∧ asked.filterMap Event.record? = [] ∧ Continues a b x s t asked
  /-- The second one is asked about the input only if the first does not accept it. -/
  accepts : (a.orElse b).accepts x = do if ← a.accepts x then return true else b.accepts x
  /-- A dispatch to both fails for the rules of both. -/
  noMatch_iff (reason : NoMatch) :
    ((a.orElse b).dispatch x s).outcome = .done (.error (.noMatch reason)) ↔
      reason = ⟨a.size + b.size⟩ ∧ (a.dispatch? x s).outcome = .done none
        ∧ (b.dispatch? x (a.dispatch? x s).state).outcome = .done none

/-- Behind a scan without an answer the second dispatcher goes on. -/
theorem continues_of_scan {asked : List (Event ν)}
    (ha : scan 0 a.rules x s = ⟨.done none, asked, t⟩) : Continues a b x s t asked where
  answers result events u hb := dispatch?_orElse_of_scan_of_some ha hb
  panics message events u hb := dispatch?_orElse_of_scan_of_panic ha hb
  givesUp ended u hb := by
    obtain ⟨asked', hscan', rfl⟩ := dispatch?_eq_none_iff_scan.mp hb
    have hasked' := (follows_find? b.rules x).no_records (scan_eq_none_iff.mp hscan')
    refine ⟨asked', rfl, hasked', ?_⟩
    rw [dispatch?_orElse_of_scan_of_scan ha hscan', unhandledLog, size_orElse]
    rfl

/-- Chained dispatchers in sequence.  If the first one answers or panics, then so do both, and the
second takes no part.  If the first one has no answer, then behind the calls in which its rules
reject the input comes the dispatch of the second from the state that they leave, with the place of
the rule that takes the input counted on; and if the second has no answer either, the one record of
that counts the rules of both.  Asking whether both accept the input asks the second one only if the
first does not, and a failed dispatch counts the rules of both. -/
theorem orElse_sequential (a b : Dispatcher σ ν In Out E) (x : In) (s : σ) :
    Sequential a b x s where
  first ha := dispatch?_orElse_of_ne_none ha b
  second ended t ha := by
    obtain ⟨asked, hscan, rfl⟩ := dispatch?_eq_none_iff_scan.mp ha
    have hasked := (follows_find? a.rules x).no_records (scan_eq_none_iff.mp hscan)
    exact ⟨asked, rfl, hasked, continues_of_scan hscan⟩
  accepts := accepts_orElse
  noMatch_iff reason := by
    rw [dispatch_eq_noMatch_iff, size_orElse, dispatch?_orElse_eq_none_iff]

namespace Sample

/-- Asks once, and logs unhandled input. -/
def once : Dispatcher Nat Nat Nat Nat String := ⟨[everyOther], true⟩

end Sample

/-- Behind itself the sample takes the first input: the rule in front has asked its test once. -/
theorem orElse_sequential_once :
    Sample.once.dispatch? 3 0 = ⟨.done none,
      [.call .condition none, .note 0, .log (.unhandled 1)], 1⟩
    ∧ Sample.once.dispatch? 3 1 = ⟨.done (some (.ok 3)),
      [.call .condition none, .note 1, .call .action (some 3), .log (.handled 0 "any")], 2⟩
    ∧ (∃ asked called i label, (Sample.once.orElse Sample.once).dispatch? 3 0 =
      ⟨.done (some (.ok 3)), asked ++ called ++ [.log (.handled (1 + i) label)], 2⟩)
    ∧ (Sample.once.orElse Sample.once).dispatch? 3 1 = Sample.once.dispatch? 3 1 := by
  obtain ⟨asked, -, -, hcontinues⟩ :=
    (orElse_sequential Sample.once Sample.once 3 0).second _ _ rfl
  obtain ⟨called, i, label, -, -, h⟩ := hcontinues.answers _ _ _ rfl
  have hanswers : (Sample.once.dispatch? 3 1).outcome ≠ .done none := by
    rintro ⟨⟩
  exact ⟨rfl, rfl, ⟨asked, called, i, label, h⟩,
    (orElse_sequential Sample.once Sample.once 3 1).first hanswers⟩

end Dispatcher

end FirstMatch
