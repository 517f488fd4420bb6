/-
# Lookup tables

A list of rules that compare the input with literals is a lookup table.  Its rows may be of
different types, and nothing is assumed of the comparisons: they may be neither reflexive nor
symmetric, use the state and panic.  A row sees the input as a value of its type, or it does not;
only a value that was seen is compared, on the left, with the literal of the row on the right.

The rows in front of the one that answers, or of the place of a panic, have all missed the input
(`Miss`); so what a lookup asks can be written down row by row (`Dispatcher.tries_table_iff`).
-/
import FirstMatch.Proofs.Fallback
import FirstMatch.Proofs.Replacement

namespace FirstMatch

variable {σ ν In Out E : Type}

namespace Transcript

/-- The comparisons among calls, in their order. -/
def comparisons (calls : Transcript σ ν) : Transcript σ ν :=
  calls.filter fun c => c.role = .compare

/-- The comparisons of calls in a row come one after the other. -/
theorem comparisons_append (calls rest : Transcript σ ν) :
    comparisons (calls ++ rest) = comparisons calls ++ comparisons rest := List.filter_append ..

/-- A call in a transcript that happens ends as the function does in some state. -/
theorem Happens.exists_outcome {s t : σ} {calls : Transcript σ ν} {events : List (Event ν)}
    (h : Happens s calls events t) {c : Exchange σ ν} (hc : c ∈ calls) :
    ∃ u, (c.function.body c.argument u).outcome = c.outcome := by
  induction h with
  | nil s => cases hc
  | @cons first calls events events' s t u hfirst _ ih =>
    rcases List.mem_cons.mp hc with rfl | hc
    · exact ⟨s, congrArg Ending.outcome hfirst⟩
    · exact ih hc

end Transcript

/-! ## Rows -/

/-- A row of a lookup table: how the input is seen as a value of some type, a literal of that type
with how it is shown and compared, and what answers for a value that equals it. -/
structure Row (σ ν In Out E : Type) : Type 1 where
  {View : Type}
  shown : String
  narrow : Callback σ ν In (Option View)
  same : Callback σ ν (View × View) Bool
  literal : View
  answer : Callback σ ν View (Except E Out)

namespace Row

/-- The rule of a row. -/
def rule (row : Row σ ν In Out E) : Rule σ ν In Out E :=
  .answering (.equals row.shown row.narrow row.same row.literal) row.answer

/-- The call in which a row sees the input as a value of its type, or does not. -/
def narrowing (row : Row σ ν In Out E) (x : In) (o : Outcome (Option row.View)) : Exchange σ ν :=
  ⟨.narrow, row.narrow, x, o⟩

/-- The call in which a row compares a value, on the left, with its literal. -/
def comparing (row : Row σ ν In Out E) (v : row.View) (o : Outcome Bool) : Exchange σ ν :=
  ⟨.compare, row.same, (v, row.literal), o⟩

/-- The call in which a row answers for a value. -/
def answering (row : Row σ ν In Out E) (v : row.View) (o : Outcome (Except E Out)) :
    Exchange σ ν := ⟨.action, row.answer, v, o⟩

/-- What a row asks that does not miss the input: it sees a value that equals the literal and
answers for that value, or there is a panic before. -/
inductive Hits (row : Row σ ν In Out E) (x : In) : Protocol σ ν (Except E Out)
  | equal (v : row.View) (o : Outcome (Except E Out)) :
    Hits row x [row.narrowing x (.done (some v)), row.comparing v (.done true),
      row.answering v o] o
  | unseen (message : String) : Hits row x [row.narrowing x (.panic message)] (.panic message)
  | uncompared (v : row.View) (message : String) :
    Hits row x [row.narrowing x (.done (some v)), row.comparing v (.panic message)]
      (.panic message)

end Row

/-- A row that misses an input, with the value that it saw, if it saw one. -/
structure Miss (σ ν In Out E : Type) : Type 1 where
  row : Row σ ν In Out E
  view? : Option row.View

namespace Miss

/-- The comparison that a row makes and misses by; without a value there is none. -/
def comparison? (m : Miss σ ν In Out E) : Option (Exchange σ ν) :=
  m.view?.map fun v => m.row.comparing v (.done false)

/-- What a row asks that misses the input. -/
def calls (x : In) (m : Miss σ ν In Out E) : Transcript σ ν :=
  m.row.narrowing x (.done m.view?) :: m.comparison?.toList

end Miss

/-! ## What a row asks -/

/-- A rule without a condition asks its guard and nothing else. -/
theorem Rule.selects_answering_iff {View : Type} {g : Guard σ ν In View}
    {f : Callback σ ν View (Except E Out)} {x : In} {calls : Transcript σ ν}
    {o : Outcome (Option (answering g f).View)} :
    (answering g f).Selects x calls o ↔ Guard.Sees x g calls o := by
  -- without a condition every view is admitted, and nothing is asked
  have hfree : ∀ {v : (answering g f).View} {rest : Transcript σ ν} {o : Outcome Bool},
      (answering g f).Admits v rest o → rest = [] ∧ o = .done true := by
    rintro v rest o (_ | ⟨hsome, -⟩)
    · exact ⟨rfl, rfl⟩
    · cases hsome
  constructor
  · intro h
    cases h with
    | unrecognized hsees => exact hsees
    | unmet _ hadmits => cases (hfree hadmits).2
    | met hsees hadmits =>
      rw [(hfree hadmits).1, List.append_nil]
      exact hsees
    | brokenGuard hsees => exact hsees
    | brokenCondition _ hadmits => cases (hfree hadmits).2
  · intro hsees
    match o with
    | .done none => exact .unrecognized hsees
    | .done (some v) =>
      rw [← List.append_nil calls]
      exact .met hsees (.free rfl)
    | .panic message => exact .brokenGuard hsees

/-- A guard with a literal compares the value that it saw, if it saw one. -/
theorem Guard.sees_equals_iff {View : Type} {shown : String}
    {narrow : Callback σ ν In (Option View)} {same : Callback σ ν (View × View) Bool}
    {literal : View} {x : In} {calls : Transcript σ ν} {o : Outcome (Option View)} :
    Sees x (.equals shown narrow same literal) calls o ↔
      (∃ message, calls = [⟨.narrow, narrow, x, .panic message⟩] ∧ o = .panic message)
      ∨ (calls = [⟨.narrow, narrow, x, .done none⟩] ∧ o = .done none)
      ∨ ∃ v o', calls = [⟨.narrow, narrow, x, .done (some v)⟩, ⟨.compare, same, (v, literal), o'⟩]
        ∧ o = o'.map fun b => if b then some v else none := by
  constructor
  · intro hsees
    cases hsees with
    | differs => exact .inr (.inl ⟨rfl, rfl⟩)
    | broken => exact .inl ⟨_, rfl, rfl⟩
    | compared _ _ _ _ v o' => exact .inr (.inr ⟨v, o', rfl, rfl⟩)
  · rintro (⟨message, rfl, rfl⟩ | ⟨rfl, rfl⟩ | ⟨v, o', rfl, rfl⟩)
    · exact .broken ..
    · exact .differs ..
    · exact .compared ..

/-- An action without maps makes one call. -/
theorem Action.answers_answer_iff {View : Type} {f : Callback σ ν View (Except E Out)} {v : View}
    {calls : Transcript σ ν} {o : Outcome (Except E Out)} :
    Answers v (.answer f) calls o ↔ calls = [⟨.action, f, v, o⟩] := by
  constructor
  · rintro ⟨⟩
    rfl
  · rintro rfl
    exact .answer f o

namespace Row

variable {row : Row σ ν In Out E} {x : In} {calls : Transcript σ ν}

/-- A row rejects an input exactly if it misses it: it sees no value, or one that is not its
literal. -/
theorem rejects_iff : row.rule.Rejects x calls ↔ ∃ view?, calls = Miss.calls x ⟨row, view?⟩ := by
  refine (Rule.selects_answering_iff.trans Guard.sees_equals_iff).trans ?_
  constructor
  · rintro (⟨message, -, ho⟩ | ⟨rfl, -⟩ | ⟨v, (_ | _) | message, rfl, ho⟩)
    · cases ho
    · exact ⟨none, rfl⟩
    · exact ⟨some v, rfl⟩
    · cases ho
    · cases ho
  · rintro ⟨_ | v, rfl⟩
    · exact .inr (.inl ⟨rfl, rfl⟩)
    · exact .inr (.inr ⟨v, .done false, rfl, rfl⟩)

/-- A row accepts an input exactly if it sees a value in it that equals its literal. -/
theorem accepts_iff {v : row.View} : row.rule.Accepts x v calls ↔
    calls = [row.narrowing x (.done (some v)), row.comparing v (.done true)] := by
  refine (Rule.selects_answering_iff.trans Guard.sees_equals_iff).trans ?_
  constructor
  · rintro (⟨message, -, ho⟩ | ⟨-, ho⟩ | ⟨v', (_ | _) | message, rfl, ho⟩)
    · cases ho
    · cases ho
    · cases ho
    · cases ho
      rfl
    · cases ho
  · rintro rfl
    exact .inr (.inr ⟨v, .done true, rfl, rfl⟩)

/-- A row panics exactly if its narrowing or its comparison does. -/
theorem panics_iff {message : String} : row.rule.Selects x calls (.panic message) ↔
    calls = [row.narrowing x (.panic message)]
      ∨ ∃ v, calls = [row.narrowing x (.done (some v)), row.comparing v (.panic message)] := by
  refine (Rule.selects_answering_iff.trans Guard.sees_equals_iff).trans ?_
  constructor
  · rintro (⟨message', rfl, ho⟩ | ⟨-, ho⟩ | ⟨v, (_ | _) | message', rfl, ho⟩)
    · cases ho
      exact .inl rfl
    · cases ho
    · cases ho
    · cases ho
    · cases ho
      exact .inr ⟨v, rfl⟩
  · rintro (rfl | ⟨v, rfl⟩)
    · exact .inl ⟨message, rfl, rfl⟩
    · exact .inr (.inr ⟨v, .panic message, rfl, rfl⟩)

end Row

namespace Dispatcher

/-! ## What a lookup asks -/

/-- The dispatcher of a lookup table. -/
def table (rows : List (Row σ ν In Out E)) (log : Bool) : Dispatcher σ ν In Out E :=
  ⟨rows.map Row.rule, log⟩

variable {rows : List (Row σ ν In Out E)} {log : Bool} {x : In} {calls : Transcript σ ν}

/-- All rows of a table reject an input if each of them misses it. -/
theorem allReject_table_iff : AllReject x (rows.map Row.rule) calls ↔
    ∃ misses : List (Miss σ ν In Out E), misses.map Miss.row = rows
      ∧ calls = misses.flatMap (Miss.calls x) := by
  induction rows generalizing calls with
  | nil =>
    constructor
    · rintro ⟨⟩
      exact ⟨[], rfl, rfl⟩
    · rintro ⟨misses, hrows, rfl⟩
      obtain rfl := List.map_eq_nil_iff.mp hrows
      exact .nil
  | cons row rows ih =>
    constructor
    · rintro (_ | ⟨hrow, hrows⟩)
      obtain ⟨view?, rfl⟩ := Row.rejects_iff.mp hrow
      obtain ⟨misses, rfl, rfl⟩ := ih.mp hrows
      exact ⟨⟨row, view?⟩ :: misses, rfl, rfl⟩
    · rintro ⟨misses, hrows, rfl⟩
      obtain ⟨m, misses, rfl, rfl, hmisses⟩ := List.map_eq_cons_iff.mp hrows
      exact .cons (Row.rejects_iff.mpr ⟨m.view?, rfl⟩) (ih.mpr ⟨misses, hmisses, rfl⟩)

/-- The rows of a table up to the one at some place. -/
theorem exists_rows_of_getElem? {i : Nat} {r : Rule σ ν In Out E}
    (h : (table rows log).rules[i]? = some r) :
    ∃ row, r = row.rule ∧ rows = rows.take i ++ row :: rows.drop (i + 1)
      ∧ (table rows log).rules.take i = (rows.take i).map Row.rule
      ∧ (rows.take i).length = i := by
  have hmap : (rows.map Row.rule)[i]? = some r := h
  rw [List.getElem?_map, Option.map_eq_some_iff] at hmap
  obtain ⟨row, hrow, rfl⟩ := hmap
  obtain ⟨hlt, rfl⟩ := List.getElem?_eq_some_iff.mp hrow
  refine ⟨_, rfl, ?_, List.map_take.symm, List.length_take_of_le (Nat.le_of_lt hlt)⟩
  rw [List.getElem_cons_drop, List.take_append_drop]

/-- The row behind rows that miss the input stands at the place that counts them. -/
theorem rules_table_of_misses (misses : List (Miss σ ν In Out E)) (row : Row σ ν In Out E)
    (behind : List (Row σ ν In Out E)) (log : Bool) (x : In) :
    (table (misses.map Miss.row ++ row :: behind) log).rules[misses.length]? = some row.rule
      ∧ AllReject x ((table (misses.map Miss.row ++ row :: behind) log).rules.take misses.length)
        (misses.flatMap (Miss.calls x)) := by
  have hlength : ((misses.map Miss.row).map Row.rule).length = misses.length := by simp
  have hrules : (table (misses.map Miss.row ++ row :: behind) log).rules
      = (misses.map Miss.row).map Row.rule ++ row.rule :: behind.map Row.rule := by
    rw [table, List.map_append, List.map_cons]
  constructor
  · rw [hrules, List.getElem?_append_right (Nat.le_of_eq hlength), hlength, Nat.sub_self]
    rfl
  · rw [hrules, List.take_left' hlength]
    exact allReject_table_iff.mpr ⟨misses, rfl, rfl⟩

/-- A lookup tries the first row that does not miss the input. -/
theorem tries_table_iff {i : Nat} {r : Rule σ ν In Out E} {o : Outcome (Except E Out)} :
    (table rows log).Tries x i r calls o ↔
      ∃ (misses : List (Miss σ ν In Out E)) (row : Row σ ν In Out E)
        (behind : List (Row σ ν In Out E)) (hits : Transcript σ ν),
        rows = misses.map Miss.row ++ row :: behind ∧ row.Hits x hits o
          ∧ i = misses.length ∧ r = row.rule ∧ calls = misses.flatMap (Miss.calls x) ++ hits := by
  constructor
  -- the rule that is tried took the input or panicked over it
  · rintro (⟨hi, hrejects, haccepts, hanswers⟩ | ⟨hi, hrejects, hpanics⟩)
    · obtain ⟨row, rfl, hrows, htake, hlength⟩ := exists_rows_of_getElem? hi
      rw [htake] at hrejects
      obtain ⟨misses, hmisses, rfl⟩ := allReject_table_iff.mp hrejects
      obtain rfl := Row.accepts_iff.mp haccepts
      obtain rfl := Action.answers_answer_iff.mp hanswers
      rw [← hmisses, List.length_map] at hlength
      rw [← hmisses] at hrows
      exact ⟨misses, row, _, _, hrows, .equal _ o, hlength.symm, rfl, List.append_assoc ..⟩
    · obtain ⟨row, rfl, hrows, htake, hlength⟩ := exists_rows_of_getElem? hi
      rw [htake] at hrejects
      obtain ⟨misses, hmisses, rfl⟩ := allReject_table_iff.mp hrejects
      rw [← hmisses, List.length_map] at hlength
      rw [← hmisses] at hrows
      obtain rfl | ⟨v, rfl⟩ := Row.panics_iff.mp hpanics
      · exact ⟨misses, row, _, _, hrows, .unseen _, hlength.symm, rfl, rfl⟩
      · exact ⟨misses, row, _, _, hrows, .uncompared v _, hlength.symm, rfl, rfl⟩
  · rintro ⟨misses, row, behind, hits, rfl, hhits, rfl, rfl, rfl⟩
    obtain ⟨hi, hrejects⟩ := rules_table_of_misses misses row behind log x
    cases hhits with
    | equal v o =>
      have htries := Tries.accepted hi hrejects (Row.accepts_iff.mpr rfl)
        (Action.answers_answer_iff.mpr rfl : Action.Answers v row.rule.action _ o)
      rwa [List.append_assoc] at htries
    | unseen message => exact .broken hi hrejects (Row.panics_iff.mpr (.inl rfl))
    | uncompared v message => exact .broken hi hrejects (Row.panics_iff.mpr (.inr ⟨v, rfl⟩))

/-! ## The comparisons of a lookup -/

/-- Rows that miss the input make one comparison for each value that is seen. -/
theorem comparisons_misses (misses : List (Miss σ ν In Out E)) (x : In) :
    Transcript.comparisons (misses.flatMap (Miss.calls x)) = misses.filterMap Miss.comparison? := by
  induction misses with
  | nil => rfl
  | cons m misses ih =>
    have hm : Transcript.comparisons (Miss.calls x m) = m.comparison?.toList := by
      obtain ⟨row, _ | v⟩ := m <;> rfl
    rw [List.flatMap_cons, Transcript.comparisons_append, ih, hm, List.filterMap_cons]
    cases m.comparison? <;> rfl

/-- A row that does not miss the input makes one comparison, with a value that it saw, unless it
panics before. -/
theorem comparisons_hits {row : Row σ ν In Out E} {o : Outcome (Except E Out)}
    (h : row.Hits x calls o) : Transcript.comparisons calls = []
      ∨ ∃ v o', row.narrowing x (.done (some v)) ∈ calls ∧ o' ≠ .done false
        ∧ Transcript.comparisons calls = [row.comparing v o'] := by
  cases h with
  | equal v o => exact .inr ⟨v, .done true, List.mem_cons_self, by simp, rfl⟩
  | unseen message => exact .inl rfl
  | uncompared v message => exact .inr ⟨v, .panic message, List.mem_cons_self, by simp, rfl⟩

/-- The comparisons of a lookup: one for each row that saw a value and missed the input by it, in
the order of the rows, and perhaps one more of the next row, which did not answer that the values
differ. -/
theorem exists_comparisons (rows : List (Row σ ν In Out E)) (log : Bool) (x : In) (s : σ) :
    ∃ (calls : Transcript σ ν) (misses : List (Miss σ ν In Out E)) (last : Transcript σ ν),
      (InputStep.dispatch? x).Talks (table rows log) calls
      ∧ Transcript.Happens s calls (Event.unlogged ((table rows log).dispatch? x s).events)
        ((table rows log).dispatch? x s).state
      ∧ (∀ m ∈ misses, m.row.narrowing x (.done m.view?) ∈ calls)
      ∧ Transcript.comparisons calls = misses.filterMap Miss.comparison? ++ last
      ∧ ((misses.map Miss.row <+: rows ∧ last = [])
        ∨ ∃ row v o, misses.map Miss.row ++ [row] <+: rows
          ∧ row.narrowing x (.done (some v)) ∈ calls ∧ o ≠ .done false
          ∧ last = [row.comparing v o]) := by
  have hnarrowing : ∀ (misses : List (Miss σ ν In Out E)) (hits : Transcript σ ν),
      ∀ m ∈ misses, m.row.narrowing x (.done m.view?) ∈ misses.flatMap (Miss.calls x) ++ hits := by
    intro misses hits m hm
    exact List.mem_append_left _ (List.mem_flatMap.mpr ⟨m, hm, List.mem_cons_self⟩)
  -- either all rows miss the input, or some row is the first that does not
  by_cases h : ((table rows log).dispatch? x s).outcome = .done none
  · obtain ⟨calls, called, t, hrejects, hcalled, hd⟩ := exists_allReject h
    obtain ⟨misses, hrows, rfl⟩ := allReject_table_iff.mp hrejects
    refine ⟨_, misses, [], .searching (.missed hrejects), ?_, ?_, ?_, .inl ⟨?_, rfl⟩⟩
    · rw [hd, Event.unlogged_append, hcalled.unlogged, unlogged_unhandledLog, List.append_nil]
      exact hcalled
    · have hall := hnarrowing misses []
      rwa [List.append_nil] at hall
    · rw [comparisons_misses, List.append_nil]
    · exact hrows ▸ List.prefix_rfl
  · obtain ⟨i, r, calls, o, htries, hcalled⟩ := exists_tries h
    have htalks : (InputStep.dispatch? x).Talks (table rows log) calls := htries.talks
    obtain ⟨misses, row, behind, hits, rfl, hhits, rfl, rfl, rfl⟩ := tries_table_iff.mp htries
    refine ⟨_, misses, Transcript.comparisons hits, htalks, hcalled, hnarrowing misses hits, ?_, ?_⟩
    · rw [Transcript.comparisons_append, comparisons_misses]
    · obtain hnone | ⟨v, o', hseen, ho', hone⟩ := comparisons_hits hhits
      · exact .inl ⟨List.prefix_append .., hnone⟩
      · refine .inr ⟨row, v, o', ⟨behind, ?_⟩, List.mem_append_right _ hseen, ho', hone⟩
        rw [List.append_assoc]
        rfl

end Dispatcher

/-! ## Literals that equal nothing -/

namespace Row

variable {row : Row σ ν In Out E}

/-- No value equals the literal of the row, such as one that is not a number. -/
def EqualsNothing (row : Row σ ν In Out E) : Prop :=
  ∀ v u, (row.same.body (v, row.literal) u).outcome ≠ .done true

/-- The comparison of a row that equals nothing never holds. -/
theorem EqualsNothing.not_happens (h : row.EqualsNothing) {v : row.View} {s t : σ}
    {calls : Transcript σ ν} {events : List (Event ν)}
    (hcalls : row.comparing v (.done true) ∈ calls) :
    ¬ Transcript.Happens s calls events t := by
  intro hcalled
  obtain ⟨u, hu⟩ := hcalled.exists_outcome hcalls
  exact h v u hu

/-- What would answer for a literal that equals nothing does not matter. -/
theorem EqualsNothing.actsLike (h : row.EqualsNothing) (g : Callback σ ν row.View (Except E Out)) :
    row.rule.ActsLike { row with answer := g }.rule where
  accepts _ := rfl
  react? x := by
    ext s
    rcases hselect : row.rule.select? x s with ⟨(_ | v) | message, events, t⟩
    · have hselect' : { row with answer := g }.rule.select? x s = ⟨.done none, events, t⟩ := hselect
      rw [Rule.react?, Rule.react?, Run.bind_of_done hselect, Run.bind_of_done hselect']
    -- a view is selected only if the comparison answers true
    · obtain ⟨calls, haccepts, hcalled⟩ := (row.rule.follows_select? x s _ _ _).mp hselect
      obtain rfl := accepts_iff.mp haccepts
      exact absurd hcalled (h.not_happens (List.mem_cons_of_mem _ List.mem_cons_self))
    · have hselect' : { row with answer := g }.rule.select? x s = ⟨.panic message, events, t⟩ :=
        hselect
      rw [Rule.react?, Rule.react?, Run.bind_of_panic hselect, Run.bind_of_panic hselect']

end Row

namespace Dispatcher

variable {rows : List (Row σ ν In Out E)} {log : Bool} {x : In} {s t : σ}
  {events : List (Event ν)}

/-! ## Lookups -/

/-- A look-up has a result exactly if the rows before some row miss the input and that row answers
so. -/
theorem lookup_eq_some_iff {result : Except E Out} :
    (table rows log).dispatch? x s = ⟨.done (some result), events, t⟩ ↔
      ∃ (misses : List (Miss σ ν In Out E)) (row : Row σ ν In Out E)
        (behind : List (Row σ ν In Out E)) (v : row.View) (called : List (Event ν)),
        rows = misses.map Miss.row ++ row :: behind
        ∧ Transcript.Happens s (misses.flatMap (Miss.calls x)
          ++ [row.narrowing x (.done (some v)), row.comparing v (.done true),
            row.answering v (.done result)]) called t
        ∧ events = called ++ [.log (.handled misses.length row.rule.label)] := by
  rw [dispatch?_eq_some_iff]
  constructor
  · rintro ⟨i, r, calls, called, htries, hcalled, rfl⟩
    obtain ⟨misses, row, behind, hits, hrows, hhits, rfl, rfl, rfl⟩ := tries_table_iff.mp htries
    obtain ⟨v⟩ := hhits
    exact ⟨misses, row, behind, v, called, hrows, hcalled, rfl⟩
  · rintro ⟨misses, row, behind, v, called, hrows, hcalled, rfl⟩
    exact ⟨_, _, _, called, tries_table_iff.mpr
      ⟨misses, row, behind, _, hrows, .equal v _, rfl, rfl, rfl⟩, hcalled, rfl⟩

/-- A look-up has no result exactly if all rows miss the input. -/
theorem lookup_eq_none_iff :
    (table rows log).dispatch? x s = ⟨.done none, events, t⟩ ↔
      ∃ (misses : List (Miss σ ν In Out E)) (called : List (Event ν)),
        rows = misses.map Miss.row
        ∧ Transcript.Happens s (misses.flatMap (Miss.calls x)) called t
        ∧ events = called ++ if log then [.log (.unhandled rows.length)] else [] := by
  have hlog : (table rows log).unhandledLog
      = if log then [.log (.unhandled rows.length)] else ([] : List (Event ν)) := by
    rw [unhandledLog, size, table, List.length_map]
  rw [dispatch?_eq_none_iff, hlog]
  constructor
  · rintro ⟨calls, called, hrejects, hcalled, rfl⟩
    obtain ⟨misses, hrows, rfl⟩ := allReject_table_iff.mp hrejects
    exact ⟨misses, called, hrows.symm, hcalled, rfl⟩
  · rintro ⟨misses, called, hrows, hcalled, rfl⟩
    exact ⟨_, called, allReject_table_iff.mpr ⟨misses, hrows.symm, rfl⟩, hcalled, rfl⟩

/-- A look-up panics exactly if the rows before some row miss the input and that row panics. -/
theorem lookup_eq_panic_iff {message : String} :
    (table rows log).dispatch? x s = ⟨.panic message, events, t⟩ ↔
      ∃ (misses : List (Miss σ ν In Out E)) (row : Row σ ν In Out E)
        (behind : List (Row σ ν In Out E)) (hits : Transcript σ ν),
        rows = misses.map Miss.row ++ row :: behind ∧ row.Hits x hits (.panic message)
        ∧ Transcript.Happens s (misses.flatMap (Miss.calls x) ++ hits) events t := by
  rw [dispatch?_eq_panic_iff]
  constructor
  · rintro ⟨i, r, calls, htries, hcalled⟩
    obtain ⟨misses, row, behind, hits, hrows, hhits, rfl, rfl, rfl⟩ := tries_table_iff.mp htries
    exact ⟨misses, row, behind, hits, hrows, hhits, hcalled⟩
  · rintro ⟨misses, row, behind, hits, hrows, hhits, hcalled⟩
    exact ⟨_, _, _, tries_table_iff.mpr ⟨misses, row, behind, hits, hrows, hhits, rfl, rfl, rfl⟩,
      hcalled⟩

/-- A row whose literal equals nothing is never on record. -/
theorem log_handled_notMem {front behind : List (Row σ ν In Out E)} {row : Row σ ν In Out E}
    (hrow : row.EqualsNothing) (log : Bool) (x : In) (s : σ) (label : String) :
    .log (.handled front.length label)
      ∉ ((table (front ++ row :: behind) log).dispatch? x s).events := by
  intro hmem
  rcases hd : (table (front ++ row :: behind) log).dispatch? x s
    with ⟨(_ | result) | message, events, t⟩
  · obtain ⟨misses, called, -, hcalled, rfl⟩ := lookup_eq_none_iff.mp hd
    rw [hd] at hmem
    rcases List.mem_append.mp hmem with hmem | hmem
    · exact hcalled.log_notMem _ hmem
    · cases log <;> simp at hmem
  · obtain ⟨misses, row', behind', v, called, hrows, hcalled, rfl⟩ := lookup_eq_some_iff.mp hd
    rw [hd] at hmem
    rcases List.mem_append.mp hmem with hmem | hmem
    · exact hcalled.log_notMem _ hmem
    -- the record gives the place of a row whose comparison has held
    · have hplace : front.length = misses.length :=
        (Record.handled.inj (Event.log.inj (List.mem_singleton.mp hmem))).1
      rw [← List.length_map Miss.row] at hplace
      obtain ⟨-, hrest⟩ := List.append_inj hrows hplace
      obtain ⟨rfl, -⟩ := List.cons.inj hrest
      have hequal : row.comparing v (.done true)
          ∈ [row.narrowing x (.done (some v)), row.comparing v (.done true),
            row.answering v (.done result)] := List.mem_cons_of_mem _ List.mem_cons_self
      exact hrow.not_happens (List.mem_append_right _ hequal) hcalled
  · obtain ⟨misses, row', behind', hits, -, -, hcalled⟩ := lookup_eq_panic_iff.mp hd
    rw [hd] at hmem
    exact hcalled.log_notMem _ hmem

/-- What would answer for a literal that equals nothing may be replaced by anything. -/
theorem alike_of_equalsNothing {row : Row σ ν In Out E} (hrow : row.EqualsNothing)
    (front behind : List (Row σ ν In Out E)) (log : Bool)
    (g : Callback σ ν row.View (Except E Out)) :
    (table (front ++ { row with answer := g } :: behind) log).Alike
      (table (front ++ row :: behind) log) := by
  have hrules : ∀ r : Row σ ν In Out E, table (front ++ r :: behind) log
      = ⟨front.map Row.rule ++ r.rule :: behind.map Row.rule, log⟩ := by
    intro r
    rw [table, List.map_append, List.map_cons]
  rw [hrules, hrules]
  exact alike_replace (hrow.actsLike g) rfl _ _ log

/-- How an input is looked up in a table, from a state on. -/
structure LooksUp (rows : List (Row σ ν In Out E)) (log : Bool) (x : In) (s : σ) : Prop where
  /-- Some rows miss the input, and the next one sees a value that equals its literal. -/
  result_iff (result : Except E Out) (events : List (Event ν)) (t : σ) :
    (table rows log).dispatch? x s = ⟨.done (some result), events, t⟩ ↔
      ∃ (misses : List (Miss σ ν In Out E)) (row : Row σ ν In Out E)
        (behind : List (Row σ ν In Out E)) (v : row.View) (called : List (Event ν)),
        rows = misses.map Miss.row ++ row :: behind
        ∧ Transcript.Happens s (misses.flatMap (Miss.calls x)
          ++ [row.narrowing x (.done (some v)), row.comparing v (.done true),
            row.answering v (.done result)]) called t
        ∧ events = called ++ [.log (.handled misses.length row.rule.label)]
  /-- All rows miss the input. -/
  none_iff (events : List (Event ν)) (t : σ) :
    (table rows log).dispatch? x s = ⟨.done none, events, t⟩ ↔
      ∃ (misses : List (Miss σ ν In Out E)) (called : List (Event ν)),
        rows = misses.map Miss.row
        ∧ Transcript.Happens s (misses.flatMap (Miss.calls x)) called t
        ∧ events = called ++ if log then [.log (.unhandled rows.length)] else []
  /-- Some rows miss the input, and a function of the next one panics. -/
  panic_iff (message : String) (events : List (Event ν)) (t : σ) :
    (table rows log).dispatch? x s = ⟨.panic message, events, t⟩ ↔
      ∃ (misses : List (Miss σ ν In Out E)) (row : Row σ ν In Out E)
        (behind : List (Row σ ν In Out E)) (hits : Transcript σ ν),
        rows = misses.map Miss.row ++ row :: behind ∧ row.Hits x hits (.panic message)
        ∧ Transcript.Happens s (misses.flatMap (Miss.calls x) ++ hits) events t
  /-- The comparisons are those of the rows that saw a value, up to the first that does not answer
  that the value and the literal differ. -/
  comparisons : ∃ (calls : Transcript σ ν) (misses : List (Miss σ ν In Out E))
    (last : Transcript σ ν), (InputStep.dispatch? x).Talks (table rows log) calls
    ∧ Transcript.Happens s calls (Event.unlogged ((table rows log).dispatch? x s).events)
      ((table rows log).dispatch? x s).state
    ∧ (∀ m ∈ misses, m.row.narrowing x (.done m.view?) ∈ calls)
    ∧ Transcript.comparisons calls = misses.filterMap Miss.comparison? ++ last
    ∧ ((misses.map Miss.row <+: rows ∧ last = [])
      ∨ ∃ row v o, misses.map Miss.row ++ [row] <+: rows
        ∧ row.narrowing x (.done (some v)) ∈ calls ∧ o ≠ .done false
        ∧ last = [row.comparing v o])
  /-- Where narrowing goes by the input alone, a row sees the value of the input. -/
  narrowing (calls : Transcript σ ν) (events : List (Event ν)) (t : σ) :
    Transcript.Happens s calls events t → ∀ (row : Row σ ν In Out E) (v? v?' : Option row.View),
      (∀ u, (row.narrow.body x u).outcome = .done v?) → row.narrowing x (.done v?') ∈ calls →
      v?' = v?
  /-- A row whose literal equals nothing takes no input. -/
  equalsNothing_log (front : List (Row σ ν In Out E)) (row : Row σ ν In Out E)
    (behind : List (Row σ ν In Out E)) : rows = front ++ row :: behind → row.EqualsNothing →
      ∀ label, .log (.handled front.length label) ∉ ((table rows log).dispatch? x s).events
  /-- What would answer for a row whose literal equals nothing does not matter. -/
  equalsNothing_alike (front : List (Row σ ν In Out E)) (row : Row σ ν In Out E)
    (behind : List (Row σ ν In Out E)) : rows = front ++ row :: behind → row.EqualsNothing →
      ∀ g, (table (front ++ { row with answer := g } :: behind) log).Alike (table rows log)

/-- A table with rows of any types, and with any comparisons.  A lookup ends with a result exactly
if some rows miss the input and the next one sees a value that equals its literal, and answers for
that value; it ends without one exactly if all rows miss the input; and it panics exactly if,
behind rows that miss the input, a narrowing, a comparison or an answer does.  So its comparisons
are those of the rows that saw a value, in their order and with the value on the left, up to the
first that does not answer that the two differ.  What a row sees is the value of the input if
narrowing goes by the input alone.  A row whose literal equals nothing never takes an input, and
what would answer for it does not matter. -/
theorem lookup_first_match (rows : List (Row σ ν In Out E)) (log : Bool) (x : In) (s : σ) :
    LooksUp rows log x s where
  result_iff _ _ _ := lookup_eq_some_iff
  none_iff _ _ := lookup_eq_none_iff
  panic_iff _ _ _ := lookup_eq_panic_iff
  comparisons := exists_comparisons rows log x s
  narrowing calls events t hcalled row v? v?' hnarrow hmem := by
    obtain ⟨u, hu⟩ := hcalled.exists_outcome hmem
    exact (Outcome.done.inj ((hnarrow u).symm.trans hu)).symm
  equalsNothing_log front row behind hrows hrow := by
    subst hrows
    exact log_handled_notMem hrow log x s
  equalsNothing_alike front row behind hrows hrow := by
    subst hrows
    exact alike_of_equalsNothing hrow front behind log

namespace Sample

/-- Compares numbers, and counts the comparisons in the state. -/
def counted : Callback Nat String (Float × Float) Bool where
  shows _ := none
  body p n := ⟨.done (p.1 == p.2), [], n + 1⟩

/-- A row for inputs that are numbers or texts. -/
abbrev SampleRow : Type 1 := Row Nat String (Float ⊕ String) UInt64 String

/-- Takes a number that equals a literal, and answers with its bits. -/
def number (shown : String) (literal : Float) : SampleRow where
  shown := shown
  narrow := .silent Sum.getLeft?
  same := counted
  literal := literal
  answer := .silent fun v => .ok v.toBits

/-- Takes one text. -/
def text (literal : String) : SampleRow where
  shown := literal
  narrow := .silent Sum.getRight?
  same := .silent fun p => p.1 == p.2
  literal := literal
  answer := .silent fun _ => .ok 0

/-- Rows for what is not a number, for a text, and for zero. -/
def numbers : List SampleRow :=
  [number "NaN" (0 / 0), text "zero", number "0.0" 0]

/-- Nothing equals what is not a number, not even itself. -/
theorem beq_nan (v : Float) : (v == 0 / 0) = false := by
  have hnan : (0 / 0 : Float).toModel.unpack = .notANumber := rfl
  show (v.toModel.unpack.compare (0 / 0 : Float).toModel.unpack == some .eq) = false
  rw [hnan]
  cases v.toModel.unpack with
  | infinity s => cases s <;> rfl
  | finite s => cases s <;> rfl
  | zero => rfl
  | notANumber => rfl

/-- What is not a number equals nothing. -/
theorem equalsNothing_nan : (number "NaN" (0 / 0)).EqualsNothing := by
  have hdiffers : ∀ v : Float, Outcome.done (v == 0 / 0) ≠ .done true := by
    intro v
    rw [beq_nan]
    simp
  exact fun v _ => hdiffers v

end Sample

open Sample (SampleRow numbers number text) in
/-- In the sample negative zero is looked up by two comparisons with numbers and none with a text;
the row of zero takes it and answers for the value itself.  The row for what is not a number takes
nothing, and not that either. -/
theorem lookup_first_match_numbers :
    (table numbers false).dispatch? (.inl (-0)) 0
      = ⟨.done (some (.ok 0x8000000000000000)), [.call .narrow none, .call .compare none,
        .call .narrow none, .call .narrow none, .call .compare none, .call .action none,
        .log (.handled 2 "== 0.0")], 2⟩
    ∧ (∃ (misses : List (Miss Nat String (Float ⊕ String) UInt64 String)) (row : SampleRow)
      (behind : List SampleRow) (v : row.View) (called : List (Event String)),
      numbers = misses.map Miss.row ++ row :: behind
      ∧ Transcript.Happens 0 (misses.flatMap (Miss.calls (.inl (-0)))
        ++ [row.narrowing (.inl (-0)) (.done (some v)), row.comparing v (.done true),
          row.answering v (.done (.ok 0x8000000000000000))]) called 2)
    ∧ ((table numbers false).dispatch? (.inl (0 / 0)) 0).outcome = .done none
    ∧ (∀ label, .log (.handled 0 label)
      ∉ ((table numbers false).dispatch? (.inl (0 / 0)) 0).events)
    ∧ (table ({ number "NaN" (0 / 0) with answer := .silent fun _ => .error "taken" }
      :: [text "zero", number "0.0" 0]) false).Alike (table numbers false) := by
  have hnan := lookup_first_match numbers false (.inl (0 / 0)) 0
  obtain ⟨misses, row, behind, v, called, hrows, hcalled, -⟩ :=
    ((lookup_first_match numbers false (.inl (-0)) 0).result_iff _ _ _).mp rfl
  exact ⟨rfl, ⟨misses, row, behind, v, called, hrows, hcalled⟩, rfl,
    hnan.equalsNothing_log [] _ _ rfl Sample.equalsNothing_nan,
    hnan.equalsNothing_alike [] _ _ rfl Sample.equalsNothing_nan _⟩

end Dispatcher

end FirstMatch
