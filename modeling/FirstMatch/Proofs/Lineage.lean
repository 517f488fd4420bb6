/-
# Where drafts and dispatchers come from

A draft is settled by its own line: what was appended to it and configured on it since it was
started, and before that on the draft of which it is a copy (`Step.lines`).  A dispatcher is
settled by its origin, an expression over the drafts of which it is made (`Step.origins`).  Both
are read off the steps of a session from the latest one backwards, and no other step matters.

That the registers of a session hold what lines and origins say is shown step by step
(`Session.registers_after`).  A step changes the registers under the names that it is for only, so a
dispatcher stays as it is until a step makes one under its name (`Session.dispatchers_after`).
-/
import FirstMatch.Proofs.Compilation
import FirstMatch.Proofs.NormalForm
import FirstMatch.Proofs.Uses

namespace FirstMatch

variable {σ ν In Out E : Type}

/-! ## Registers -/

namespace Registers

variable {α β : Type 1}

/-- The registers with a value put under a name, if there is a value. -/
def set? (r : Registers α) (name : String) : Option α → Registers α
  | none => r
  | some a => r.set name a

/-- The registers with every value turned into another. -/
def map (f : α → β) (r : Registers α) : Registers β := fun name => (r name).map f

/-- To turn the values of registers into others commutes with putting one in. -/
theorem map_set (f : α → β) (r : Registers α) (name : String) (a : α) :
    (r.set name a).map f = (r.map f).set name (f a) := by
  funext other
  unfold map set
  by_cases h : other = name
  · rw [if_pos h, if_pos h]
    rfl
  · rw [if_neg h, if_neg h]

/-- To turn the values of registers into others commutes with clearing one. -/
theorem map_erase (f : α → β) (r : Registers α) (name : String) :
    (r.erase name).map f = (r.map f).erase name := by
  funext other
  unfold map erase
  by_cases h : other = name
  · rw [if_pos h, if_pos h]
    rfl
  · rw [if_neg h, if_neg h]

/-- Clearing an empty register changes nothing. -/
theorem erase_of_none {r : Registers α} {name : String} (h : r name = none) : r.erase name = r := by
  funext other
  unfold erase
  by_cases hother : other = name
  · rw [if_pos hother, hother, h]
  · rw [if_neg hother]

end Registers

/-! ## Lines of drafts -/

/-- What may happen to a draft on its line. -/
inductive Change (σ ν In Out E : Type) : Type 1 where
  | append (rule : Rule σ ν In Out E)
  /-- The settings take the place of those that were there. -/
  | configure (settings : Settings)

namespace Change

/-- The rule that a change appends, if it appends one. -/
def rule? : Change σ ν In Out E → Option (Rule σ ν In Out E)
  | append rule => some rule
  | configure _ => none

/-- The settings that a change brings, if it brings some. -/
def settings? : Change σ ν In Out E → Option Settings
  | append _ => none
  | configure settings => some settings

end Change

/-- What happened to a draft, from the first change on. -/
abbrev Line (σ ν In Out E : Type) : Type 1 := List (Change σ ν In Out E)

/-- The draft at the end of a line: all rules in the order in which they were appended, under the
last settings, wherever these stand among the rules. -/
def Line.draft (l : Line σ ν In Out E) : Draft σ ν In Out E where
  rules := l.filterMap Change.rule?
  settings := (l.filterMap Change.settings?).getLast?.getD .standard

/-- A rule at the end of a line stands at the end of the draft. -/
theorem Line.draft_append (l : Line σ ν In Out E) (r : Rule σ ν In Out E) :
    draft (l ++ [.append r]) = (draft l).add r := by
  simp [draft, Draft.add, Change.rule?, Change.settings?]

/-- Settings at the end of a line are those of the draft. -/
theorem Line.draft_configure (l : Line σ ν In Out E) (s : Settings) :
    draft (l ++ [.configure s]) = (draft l).withSettings s := by
  simp [draft, Draft.withSettings, Change.rule?, Change.settings?]

/-- The lines of the drafts after a step, given those before it.  A step that finds no draft leaves
the lines as they are. -/
def DraftStep.lines (older : Registers (Line σ ν In Out E)) :
    DraftStep σ ν In Out E → Registers (Line σ ν In Out E)
  | start draft => older.set draft []
  | copy draft target => older.set? target (older draft)
  | look _ => older
  | configure draft settings => older.set? draft ((older draft).map (· ++ [.configure settings]))
  | configureJson draft text =>
    match Settings.ofJson text with
    | .error _ => older
    | .ok settings => older.set? draft ((older draft).map (· ++ [.configure settings]))
  | add draft rule => older.set? draft ((older draft).map (· ++ [.append rule]))
  | compile draft _ => older.erase draft
  | compileStrict draft _ => older.erase draft

/-- The lines of the drafts after steps, of which the latest stands first. -/
def Step.lines : List (Step σ ν In Out E) → Registers (Line σ ν In Out E)
  | [] => .empty
  | .draft st :: past => st.lines (lines past)
  | .combine _ :: past => lines past
  | .input _ _ :: past => lines past

/-! ## Origins of dispatchers -/

/-- The origins of the dispatchers after a step on drafts, given the lines and origins before it.  A
draft that is rejected makes no dispatcher. -/
def DraftStep.origins (lines : Registers (Line σ ν In Out E))
    (older : Registers (Expression σ ν In E Out)) :
    DraftStep σ ν In Out E → Registers (Expression σ ν In E Out)
  | compile draft target => older.set? target ((lines draft).map fun l => .built l.draft)
  | compileStrict draft target => older.set? target ((lines draft).bind fun l =>
    match l.draft.compileStrict with
    | .ok _ => some (.built l.draft)
    | .error _ => none)
  | _ => older

/-- The origins of the dispatchers after a step that combines some, given those before it. -/
def CombineStep.origins (older : Registers (Expression σ ν In E Out)) :
    CombineStep σ ν Out → Registers (Expression σ ν In E Out)
  | start dispatcher => older.set dispatcher .empty
  | copy dispatcher target => older.set? target ((older dispatcher).map .copied)
  | look _ => older
  | orElse dispatcher other target => older.set? target
    ((older dispatcher).bind fun e => (older other).map fun e' => .chained e e')
  | map dispatcher f target => older.set? target ((older dispatcher).map (.mapped f))

/-- The origins of the dispatchers after steps, of which the latest stands first. -/
def Step.origins : List (Step σ ν In Out E) → Registers (Expression σ ν In E Out)
  | [] => .empty
  | .draft st :: past => st.origins (lines past) (origins past)
  | .combine st :: past => st.origins (origins past)
  | .input _ _ :: past => origins past

/-- The name under which a step makes a dispatcher, if it makes one. -/
def Step.target? : Step σ ν In Out E → Option String
  | .draft (.compile _ target) => some target
  | .draft (.compileStrict _ target) => some target
  | .draft _ => none
  | .combine (.start dispatcher) => some dispatcher
  | .combine (.copy _ target) => some target
  | .combine (.look _) => none
  | .combine (.orElse _ _ target) => some target
  | .combine (.map _ _ target) => some target
  | .input _ _ => none

/-- The names of the rules of an expression: those of its drafts from left to right, which no map
changes. -/
def Expression.labels {Out : Type} : Expression σ ν In E Out → List String
  | built draft => draft.labels
  | empty => []
  | copied e => e.labels
  | chained first second => first.labels ++ second.labels
  | mapped _ e => e.labels

/-- The rules of the dispatcher have the names that the expression says. -/
theorem Expression.labels_dispatcher (e : Expression σ ν In E Out) :
    e.dispatcher.labels = e.labels := by
  induction e with
  | built draft => exact Draft.labels_compile draft
  | empty => exact Dispatcher.labels_empty
  | copied e ih => exact ih
  | chained first second ih ih' =>
    rw [dispatcher, Dispatcher.labels_orElse, ih, ih']
    rfl
  | mapped f e ih =>
    rw [dispatcher, Dispatcher.labels_map, ih]
    rfl

/-! ## The registers of a session -/

namespace Session

variable {s : Session σ ν In Out E} {lines : Registers (Line σ ν In Out E)}
  {origins : Registers (Expression σ ν In E Out)}

/-! ### What a step leaves as it is -/

section

variable {name : String}

/-- A step left a part of the session as it was. -/
def Keeps {α : Type 1} (part : Session σ ν In Out E → α) (s : Session σ ν In Out E)
    (e : Ending (Session σ ν In Out E) (Event ν) (Reply σ ν In Out E)) : Prop :=
  part e.state = part s

/-- A step with a draft keeps a part of the session if it does so for every draft. -/
theorem keeps_withDraft {α : Type 1} {part : Session σ ν In Out E → α} {draft : String}
    {f : Draft σ ν In Out E → Stepping σ ν In Out E} (h : ∀ d, Keeps part s (f d s)) :
    Keeps part s (withDraft draft f s) := by
  rw [withDraft]
  split
  · rfl
  · exact h _

/-- A step with a dispatcher keeps a part of the session if it does so for every dispatcher. -/
theorem keeps_withDispatcher {α : Type 1} {part : Session σ ν In Out E → α} {dispatcher : String}
    {f : Dispatcher σ ν In Out E → Stepping σ ν In Out E} (h : ∀ d, Keeps part s (f d s)) :
    Keeps part s (withDispatcher dispatcher f s) := by
  rw [withDispatcher]
  split
  · rfl
  · exact h _

/-- Using a dispatcher changes no register. -/
theorem keeps_input (dispatcher : String) (u : InputStep σ ν In Out E) (s : Session σ ν In Out E) :
    Keeps (fun s => (s.drafts, s.dispatchers)) s (step (.input dispatcher u) s) := by
  refine keeps_withDispatcher fun d => ?_
  rw [inputStep_eq]
  rfl

/-- Combining dispatchers changes no draft. -/
theorem keeps_combineStep (st : CombineStep σ ν Out) (s : Session σ ν In Out E) :
    Keeps drafts s (combineStep st s) := by
  cases st with
  | start dispatcher => rfl
  | copy dispatcher target => exact keeps_withDispatcher fun d => rfl
  | look dispatcher => exact keeps_withDispatcher fun d => rfl
  | orElse dispatcher other target =>
    exact keeps_withDispatcher fun d => keeps_withDispatcher fun e => rfl
  | map dispatcher f target => exact keeps_withDispatcher fun d => rfl

/-- A dispatcher under another name than the one that a step makes stays. -/
theorem set_other_of_target {target : String} (h : some target ≠ some name)
    (d : Dispatcher σ ν In Out E) : s.dispatchers.set target d name = s.dispatchers name :=
  Registers.set_other s.dispatchers d fun hname => h (congrArg some hname.symm)

/-- A step leaves all dispatchers as they are but the one under its target. -/
theorem keeps_step {st : Step σ ν In Out E} (h : st.target? ≠ some name)
    (s : Session σ ν In Out E) :
    Keeps (fun s => s.dispatchers name) s (step st s) := by
  cases st with
  | draft st =>
    cases st with
    | start draft => rfl
    | copy draft target => exact keeps_withDraft fun d => rfl
    | look draft => exact keeps_withDraft fun d => rfl
    | configure draft settings => exact keeps_withDraft fun d => rfl
    | configureJson draft text =>
      refine keeps_withDraft fun d => ?_
      cases Settings.ofJson text <;> rfl
    | add draft rule => exact keeps_withDraft fun d => rfl
    | compile draft target =>
      rw [step, draftStep]
      exact keeps_withDraft fun d => set_other_of_target h _
    | compileStrict draft target =>
      rw [step, draftStep]
      refine keeps_withDraft fun d => ?_
      cases d.compileStrict with
      | ok c => exact set_other_of_target h _
      | error u => rfl
  | combine st =>
    cases st with
    | start dispatcher => exact set_other_of_target h _
    | copy dispatcher target => exact keeps_withDispatcher fun d => set_other_of_target h _
    | look dispatcher => exact keeps_withDispatcher fun d => rfl
    | orElse dispatcher other target =>
      exact keeps_withDispatcher fun d => keeps_withDispatcher fun e => set_other_of_target h _
    | map dispatcher f target => exact keeps_withDispatcher fun d => set_other_of_target h _
  | input dispatcher u =>
    have hkeeps := keeps_input dispatcher u s
    exact congrArg (fun registers => registers.2 name) hkeeps

/-- A dispatcher stays as it is until a step makes one under its name. -/
theorem dispatchers_after {steps : List (Step σ ν In Out E)}
    (h : ∀ st ∈ steps, st.target? ≠ some name) (s : Session σ ν In Out E) :
    (after steps s).dispatchers name = s.dispatchers name := by
  induction steps generalizing s with
  | nil => rfl
  | cons st steps ih =>
    rw [after, ih fun st' hst' => h st' (List.mem_cons_of_mem st hst')]
    exact keeps_step (h st List.mem_cons_self) s

/-- Two series of steps are made one after the other. -/
theorem after_append (steps steps' : List (Step σ ν In Out E)) (s : Session σ ν In Out E) :
    after (steps ++ steps') s = after steps' (after steps s) := by
  induction steps generalizing s with
  | nil => rfl
  | cons st steps ih => exact ih (step st s).state

end

/-! ### What a step makes of drafts -/

section

variable (h : s.drafts = lines.map Line.draft)

include h

/-- A step with a draft works on the draft at the end of its line. -/
theorem withDraft_apply (name : String) (f : Draft σ ν In Out E → Stepping σ ν In Out E) :
    withDraft name f s = match lines name with
      | none => ending (.unknown name) [] s
      | some l => f l.draft s := by
  have hname : s.drafts name = (lines name).map Line.draft := congrFun h name
  rw [withDraft, hname]
  cases lines name <;> rfl

/-- Compiling makes a dispatcher of the draft at the end of its line. -/
theorem draftStep_compile (draft target : String) :
    draftStep (.compile draft target) s = match lines draft with
      | none => ending (.unknown draft) [] s
      | some l => ending (.dispatcher l.draft.compile.dispatcher) l.draft.compile.records
        (s.setCompiled draft target l.draft.compile) := by
  rw [draftStep]
  exact withDraft_apply h draft _

/-- Compiling strictly makes a dispatcher of the draft at the end of its line, or erases the
draft. -/
theorem draftStep_compileStrict (draft target : String) :
    draftStep (.compileStrict draft target) s = match lines draft with
      | none => ending (.unknown draft) [] s
      | some l => match l.draft.compileStrict with
        | .ok c => ending (.dispatcher c.dispatcher) c.records (s.setCompiled draft target c)
        | .error u => ending (.unreachable u) [] { s with drafts := s.drafts.erase draft } := by
  rw [draftStep]
  exact withDraft_apply h draft _

/-- A draft that is replaced by the one at the end of a line has this line. -/
theorem drafts_replaceDraft (name : String) (l : Line σ ν In Out E) (reply : Reply σ ν In Out E) :
    (replaceDraft name l.draft reply s).state.drafts = (lines.set name l).map Line.draft := by
  rw [Registers.map_set, ← h]
  rfl

/-- A draft that is gone has no line. -/
theorem drafts_erase (name : String) : s.drafts.erase name = (lines.erase name).map Line.draft := by
  rw [Registers.map_erase, h]

/-- Configuring a draft makes its line one change longer. -/
theorem drafts_configure (draft : String) (settings : Settings) :
    (draftStep (.configure draft settings) s).state.drafts
      = (DraftStep.lines lines (.configure draft settings)).map Line.draft := by
  rw [draftStep, DraftStep.lines, withDraft_apply h]
  cases lines draft with
  | none => exact h
  | some l =>
    simp only [← Line.draft_configure]
    exact drafts_replaceDraft h draft _ _

/-- A step on drafts does to them what it does to their lines. -/
theorem drafts_draftStep (st : DraftStep σ ν In Out E) :
    (draftStep st s).state.drafts = (st.lines lines).map Line.draft := by
  cases st with
  | start draft => exact drafts_replaceDraft h draft [] _
  | copy draft target =>
    rw [draftStep, DraftStep.lines, withDraft_apply h]
    cases lines draft with
    | none => exact h
    | some l => exact drafts_replaceDraft h target l _
  | look draft =>
    have hlook : draftStep (.look draft) s = match lines draft with
        | none => ending (.unknown draft) [] s
        | some l => ending (.draft l.draft) [] s := withDraft_apply h draft _
    rw [hlook]
    cases lines draft <;> exact h
  | configure draft settings => exact drafts_configure h draft settings
  | configureJson draft text =>
    rw [draftStep, DraftStep.lines]
    -- a text that is refused leaves the draft as it is; any other one configures it
    have hconfigure := drafts_configure h draft
    cases Settings.ofJson text with
    | error e =>
      rw [withDraft_apply h]
      cases lines draft <;> exact h
    | ok settings => exact hconfigure settings
  | add draft rule =>
    rw [draftStep, DraftStep.lines, withDraft_apply h]
    cases lines draft with
    | none => exact h
    | some l =>
      simp only [← Line.draft_append]
      exact drafts_replaceDraft h draft _ _
  | compile draft target =>
    -- compiling uses the draft up, and its line ends
    rw [draftStep_compile h, DraftStep.lines]
    cases hl : lines draft with
    | none =>
      rw [Registers.erase_of_none hl]
      exact h
    | some l => exact drafts_erase h draft
  | compileStrict draft target =>
    rw [draftStep_compileStrict h, DraftStep.lines]
    cases hl : lines draft with
    | none =>
      rw [Registers.erase_of_none hl]
      exact h
    | some l =>
      dsimp only
      -- a draft that is rejected is used up as well
      cases l.draft.compileStrict with
      | ok c => exact drafts_erase h draft
      | error u => exact drafts_erase h draft

end

/-! ### What a step makes of dispatchers -/

section

variable (h : s.dispatchers = origins.map Expression.dispatcher)

include h

/-- A step with a dispatcher works on the dispatcher of its origin. -/
theorem withDispatcher_apply (name : String)
    (f : Dispatcher σ ν In Out E → Stepping σ ν In Out E) :
    withDispatcher name f s = match origins name with
      | none => ending (.unknown name) [] s
      | some e => f e.dispatcher s := by
  have hname : s.dispatchers name = (origins name).map Expression.dispatcher := congrFun h name
  rw [withDispatcher, hname]
  cases origins name <;> rfl

/-- A dispatcher that is made by an expression has this expression as its origin. -/
theorem dispatchers_set (name : String) (e : Expression σ ν In E Out) :
    s.dispatchers.set name e.dispatcher = (origins.set name e).map Expression.dispatcher := by
  rw [Registers.map_set, ← h]

/-- A step that combines dispatchers does to them what it does to their origins. -/
theorem dispatchers_combineStep (st : CombineStep σ ν Out) :
    (combineStep st s).state.dispatchers = (st.origins origins).map Expression.dispatcher := by
  cases st with
  | start dispatcher => exact dispatchers_set h dispatcher .empty
  | copy dispatcher target =>
    rw [combineStep, CombineStep.origins, withDispatcher_apply h]
    cases origins dispatcher with
    | none => exact h
    | some e => exact dispatchers_set h target e.copied
  | look dispatcher =>
    have hlook : combineStep (.look dispatcher) s = match origins dispatcher with
        | none => ending (.unknown dispatcher) [] s
        | some e => ending (.dispatcher e.dispatcher) [] s := withDispatcher_apply h dispatcher _
    rw [hlook]
    cases origins dispatcher <;> exact h
  | orElse dispatcher other target =>
    rw [combineStep, CombineStep.origins, withDispatcher_apply h]
    cases origins dispatcher with
    | none => exact h
    | some e =>
      -- the other dispatcher is looked up in the same registers
      simp only [withDispatcher_apply h, Option.bind_some]
      cases origins other with
      | none => exact h
      | some e' => exact dispatchers_set h target (e.chained e')
  | map dispatcher f target =>
    rw [combineStep, CombineStep.origins, withDispatcher_apply h]
    cases origins dispatcher with
    | none => exact h
    | some e => exact dispatchers_set h target (e.mapped f)

/-- A step on drafts makes a dispatcher if it compiles one of them. -/
theorem dispatchers_draftStep (hdrafts : s.drafts = lines.map Line.draft)
    (st : DraftStep σ ν In Out E) :
    (draftStep st s).state.dispatchers
      = (st.origins lines origins).map Expression.dispatcher := by
  -- a step without a target makes no dispatcher
  have hkeeps : (∀ name, (Step.draft st).target? ≠ some name) →
      (draftStep st s).state.dispatchers = origins.map Expression.dispatcher := by
    intro htarget
    rw [← h]
    funext name
    exact keeps_step (htarget name) s
  cases st with
  | compile draft target =>
    rw [draftStep_compile hdrafts, DraftStep.origins]
    cases lines draft with
    | none => exact h
    | some l => exact dispatchers_set h target (.built l.draft)
  | compileStrict draft target =>
    rw [draftStep_compileStrict hdrafts, DraftStep.origins]
    cases lines draft with
    | none => exact h
    | some l =>
      simp only [Option.bind_some]
      cases hc : l.draft.compileStrict with
      | ok c =>
        obtain rfl := Draft.compileStrict_eq_ok hc
        exact dispatchers_set h target (.built l.draft)
      | error u => exact h
  | _ => exact hkeeps (by simp [Step.target?])

end

/-! ### Registers after steps -/

/-- The lines and the origins of steps say which drafts and dispatchers a session holds after them.
-/
theorem registers_after (past : List (Step σ ν In Out E)) (s : σ) :
    (after past.reverse { state := s }).drafts = (Step.lines past).map Line.draft
    ∧ (after past.reverse { state := s }).dispatchers
      = (Step.origins past).map Expression.dispatcher := by
  induction past with
  | nil => exact ⟨rfl, rfl⟩
  | cons st past ih =>
    obtain ⟨hdrafts, hdispatchers⟩ := ih
    -- the step that stands first is the latest one, and is made after all others
    rw [List.reverse_cons, after_append]
    cases st with
    | draft st =>
      exact ⟨drafts_draftStep hdrafts st, dispatchers_draftStep hdispatchers hdrafts st⟩
    | combine st =>
      exact ⟨(keeps_combineStep st _).trans hdrafts, dispatchers_combineStep hdispatchers st⟩
    | input name u =>
      obtain ⟨hdrafts', hdispatchers'⟩ := Prod.mk.inj (keeps_input name u _)
      exact ⟨hdrafts'.trans hdrafts, hdispatchers'.trans hdispatchers⟩

/-- After steps the drafts are those at the ends of their lines. -/
theorem drafts_eq_lines (steps : List (Step σ ν In Out E)) (s : σ) :
    (after steps { state := s }).drafts = (Step.lines steps.reverse).map Line.draft := by
  obtain ⟨hdrafts, -⟩ := registers_after steps.reverse s
  rwa [List.reverse_reverse] at hdrafts

/-- After steps the dispatchers are those of their origins. -/
theorem dispatchers_eq_origins (steps : List (Step σ ν In Out E)) (s : σ) :
    (after steps { state := s }).dispatchers
      = (Step.origins steps.reverse).map Expression.dispatcher := by
  obtain ⟨-, hdispatchers⟩ := registers_after steps.reverse s
  rwa [List.reverse_reverse] at hdispatchers

end Session

end FirstMatch
