/-
# Sessions

In a session drafts and dispatchers are kept in named registers and worked on step by step, while
the functions of the user share one state.  A step answers with a reply, or ends in a panic of a
function of the user; the registers and the state stay usable either way.
-/
import FirstMatch.Draft
import FirstMatch.Settings.Reader

namespace FirstMatch

/-! ## Registers -/

/-- Values under names. -/
def Registers (α : Type 1) : Type 1 := String → Option α

namespace Registers

variable {α : Type 1}

/-- Registers that hold nothing. -/
def empty : Registers α := fun _ => none

/-- The registers with a value put under a name, in place of what was there. -/
def set (r : Registers α) (name : String) (a : α) : Registers α := fun other =>
  if other = name then some a else r other

/-- The registers with nothing under a name. -/
def erase (r : Registers α) (name : String) : Registers α := fun other =>
  if other = name then none else r other

/-- What was put into a register is in it. -/
@[simp] theorem set_same (r : Registers α) (name : String) (a : α) :
    r.set name a name = some a := by
  simp [set]

/-- Putting something into a register leaves the others. -/
theorem set_other (r : Registers α) {name other : String} (a : α) (h : other ≠ name) :
    r.set name a other = r other := by
  simp [set, h]

/-- A register that was cleared is empty. -/
@[simp] theorem erase_same (r : Registers α) (name : String) : r.erase name name = none := by
  simp [erase]

/-- Clearing a register leaves the others. -/
theorem erase_other (r : Registers α) {name other : String} (h : other ≠ name) :
    r.erase name other = r other := by
  simp [erase, h]

end Registers

/-! ## Steps -/

/-- A step on drafts. -/
inductive DraftStep (σ ν In Out E : Type) : Type 1 where
  | start (draft : String)
  | copy (draft target : String)
  | look (draft : String)
  | configure (draft : String) (settings : Settings)
  | configureJson (draft : String) (text : String)
  | add (draft : String) (rule : Rule σ ν In Out E)
  /-- Compiling consumes the draft. -/
  | compile (draft dispatcher : String)
  | compileStrict (draft dispatcher : String)

/-- A step that makes dispatchers out of others. -/
inductive CombineStep (σ ν Out : Type) : Type 1 where
  | start (dispatcher : String)
  | copy (dispatcher target : String)
  | look (dispatcher : String)
  | orElse (dispatcher other target : String)
  | map (dispatcher : String) (f : Callback σ ν Out Out) (target : String)

/-- A step that hands an input to a dispatcher. -/
inductive InputStep (σ ν In Out E : Type) : Type 1 where
  | accepts (x : In)
  | dispatch? (x : In)
  | dispatch (x : In)
  | dispatchOr (fallback : Callback σ ν In (Except E Out)) (x : In)

/-- A step of a session. -/
inductive Step (σ ν In Out E : Type) : Type 1 where
  | draft (step : DraftStep σ ν In Out E)
  | combine (step : CombineStep σ ν Out)
  | input (dispatcher : String) (step : InputStep σ ν In Out E)

/-- What a step answers. -/
inductive Reply (σ ν In Out E : Type) : Type 1 where
  | draft (d : Draft σ ν In Out E)
  | size (rules : Nat)
  | refused (e : Json.Error)
  | dispatcher (d : Dispatcher σ ν In Out E)
  | unreachable (u : Unreachable)
  | accepted (b : Bool)
  | answer? (result : Option (Except E Out))
  | answer (result : Except (Failure E) Out)
  | answerOr (result : Except E Out)
  /-- There is nothing under a name that the step uses. -/
  | unknown (name : String)

/-- Drafts and dispatchers under names, and the state of the user's functions. -/
structure Session (σ ν In Out E : Type) : Type 1 where
  drafts : Registers (Draft σ ν In Out E) := .empty
  dispatchers : Registers (Dispatcher σ ν In Out E) := .empty
  state : σ

namespace Session

variable {σ ν In Out E : Type}

/-- A step of a session as a run. -/
abbrev Stepping (σ ν In Out E : Type) :=
  Run (Session σ ν In Out E) (Event ν) (Reply σ ν In Out E)

/-- The same session with a draft under a name. -/
def setDraft (s : Session σ ν In Out E) (name : String) (d : Draft σ ν In Out E) :
    Session σ ν In Out E :=
  { s with drafts := s.drafts.set name d }

/-- The same session with a dispatcher under a name. -/
def setDispatcher (s : Session σ ν In Out E) (name : String) (d : Dispatcher σ ν In Out E) :
    Session σ ν In Out E :=
  { s with dispatchers := s.dispatchers.set name d }

/-- The same session without the draft, and with what was made of it under another name. -/
def setCompiled (s : Session σ ν In Out E) (draft dispatcher : String)
    (c : Compiled σ ν In Out E) : Session σ ν In Out E :=
  ({ s with drafts := s.drafts.erase draft }).setDispatcher dispatcher c.dispatcher

/-- An answer that needs no function of the user. -/
def ending (reply : Reply σ ν In Out E) (records : List Record) (s : Session σ ν In Out E) :
    Ending (Session σ ν In Out E) (Event ν) (Reply σ ν In Out E) :=
  ⟨.done reply, records.map .log, s⟩

/-- Continues with the draft under a name. -/
def withDraft (name : String) (f : Draft σ ν In Out E → Stepping σ ν In Out E) :
    Stepping σ ν In Out E := fun s =>
  match s.drafts name with
  | none => ending (.unknown name) [] s
  | some d => f d s

/-- Continues with the dispatcher under a name. -/
def withDispatcher (name : String) (f : Dispatcher σ ν In Out E → Stepping σ ν In Out E) :
    Stepping σ ν In Out E := fun s =>
  match s.dispatchers name with
  | none => ending (.unknown name) [] s
  | some d => f d s

/-- A run of functions of the user, which changes their state and no register. -/
def onState {α : Type} (reply : α → Reply σ ν In Out E) (x : Run σ (Event ν) α) :
    Stepping σ ν In Out E := fun s =>
  let e := x s.state
  { outcome := match e.outcome with
      | .done a => .done (reply a)
      | .panic message => .panic message
    events := e.events
    state := { s with state := e.state } }

/-- Puts a changed draft back under its name. -/
def replaceDraft (name : String) (d : Draft σ ν In Out E) (reply : Reply σ ν In Out E) :
    Stepping σ ν In Out E := fun s => ending reply [] (s.setDraft name d)

/-- Makes a dispatcher under a name. -/
def makeDispatcher (name : String) (d : Dispatcher σ ν In Out E) : Stepping σ ν In Out E :=
  fun s => ending (.dispatcher d) [] (s.setDispatcher name d)

/-- Does a step on drafts. -/
def draftStep : DraftStep σ ν In Out E → Stepping σ ν In Out E
  | .start name => replaceDraft name .empty (.draft .empty)
  | .copy name target => withDraft name fun d => replaceDraft target d (.draft d)
  | .look name => withDraft name fun d => ending (.draft d) []
  | .configure name settings => withDraft name fun d =>
    let d := d.withSettings settings
    replaceDraft name d (.draft d)
  | .configureJson name text => withDraft name fun d =>
    match Settings.ofJson text with
    | .error e => ending (.refused e) []
    | .ok settings =>
      let d := d.withSettings settings
      replaceDraft name d (.draft d)
  | .add name rule => withDraft name fun d =>
    let d := d.add rule
    replaceDraft name d (.size d.size)
  | .compile name target => withDraft name fun d s =>
    ending (.dispatcher d.compile.dispatcher) d.compile.records (s.setCompiled name target d.compile)
  | .compileStrict name target => withDraft name fun d s =>
    match d.compileStrict with
    | .ok c => ending (.dispatcher c.dispatcher) c.records (s.setCompiled name target c)
    | .error u => ending (.unreachable u) [] { s with drafts := s.drafts.erase name }

/-- Does a step that combines dispatchers. -/
def combineStep : CombineStep σ ν Out → Stepping σ ν In Out E
  | .start name => makeDispatcher name .empty
  | .copy name target => withDispatcher name fun d => makeDispatcher target d
  | .look name => withDispatcher name fun d => ending (.dispatcher d) []
  | .orElse name other target => withDispatcher name fun d => withDispatcher other fun e =>
    makeDispatcher target (d.orElse e)
  | .map name f target => withDispatcher name fun d => makeDispatcher target (d.map f)

/-- Hands an input to a dispatcher. -/
def inputStep (d : Dispatcher σ ν In Out E) : InputStep σ ν In Out E → Stepping σ ν In Out E
  | .accepts x => onState .accepted (d.accepts x)
  | .dispatch? x => onState .answer? (d.dispatch? x)
  | .dispatch x => onState .answer (d.dispatch x)
  | .dispatchOr fallback x => onState .answerOr (d.dispatchOr fallback x)

/-- Does a step. -/
def step : Step σ ν In Out E → Stepping σ ν In Out E
  | .draft s => draftStep s
  | .combine s => combineStep s
  | .input name s => withDispatcher name fun d => inputStep d s

/-- Does steps one after the other and answers how each of them ended. -/
def run (steps : List (Step σ ν In Out E)) (s : Session σ ν In Out E) :
    List (Ending (Session σ ν In Out E) (Event ν) (Reply σ ν In Out E)) :=
  Run.series (steps.map step) s

end Session

end FirstMatch
