/-
# Rewiring

A dispatcher may be rewired: every function of the user in it is replaced by another one, in one and
the same way.  What its rules are called, how they are put together and what calls show stays as it
was.

A rewired dispatcher does with the new functions what the first one does with the old ones.  So a
relation between runs carries over from functions to dispatchers: if it holds between the calls of a
function before and after, and is kept when runs are put together (`Rewiring.Lifts`), then it holds
between each use of the dispatcher and the same use of the rewired one (`Rewiring.Lifts.ask`).
-/
import FirstMatch.Proofs.Uses

namespace FirstMatch

variable {σ τ ν α β In Out E View : Type}

/-- A replacement for what a function of the user does, whatever it answers; the new function may
use another state. -/
structure Rewiring (σ τ ν : Type) : Type 1 where
  body : {β : Type} → Run σ ν β → Run τ ν β

/-! ## Rewired dispatchers -/

/-- The same function rewired; its calls show the same. -/
def Callback.rewire (w : Rewiring σ τ ν) (f : Callback σ ν α β) : Callback τ ν α β :=
  ⟨f.shows, fun a => w.body (f.body a)⟩

/-- The same condition with its tests rewired. -/
def Condition.rewire (w : Rewiring σ τ ν) : Condition σ ν View → Condition τ ν View
  | test f => .test (f.rewire w)
  | both first second => .both (first.rewire w) (second.rewire w)

/-- The same guard with its functions rewired; labels and literals stay. -/
def Guard.rewire (w : Rewiring σ τ ν) {View : Type} : Guard σ ν In View → Guard τ ν In View
  | exact label narrow => .exact label (narrow.rewire w)
  | equals shown narrow same literal => .equals shown (narrow.rewire w) (same.rewire w) literal
  | structural label find => .structural label (find.rewire w)
  | any => .any
  | whole label test => .whole label (test.rewire w)

/-- The same action with its function and its maps rewired. -/
def Action.rewire (w : Rewiring σ τ ν) {Out : Type} : Action σ ν View E Out → Action τ ν View E Out
  | answer f => .answer (f.rewire w)
  | mapped inner f => .mapped (inner.rewire w) (f.rewire w)

/-- The same rule with its guard, its condition and its action rewired. -/
def Rule.rewire (w : Rewiring σ τ ν) (r : Rule σ ν In Out E) : Rule τ ν In Out E :=
  ⟨r.guard.rewire w, r.condition.map (Condition.rewire w), r.action.rewire w⟩

/-- The same dispatcher with every rule rewired. -/
def Dispatcher.rewire (w : Rewiring σ τ ν) (d : Dispatcher σ ν In Out E) :
    Dispatcher τ ν In Out E :=
  ⟨d.rules.map (Rule.rewire w), d.logUnhandled⟩

/-- The same use with its fallback rewired, if it has one. -/
def InputStep.rewire (w : Rewiring σ τ ν) : InputStep σ ν In Out E → InputStep τ ν In Out E
  | accepts x => .accepts x
  | dispatch? x => .dispatch? x
  | dispatch x => .dispatch x
  | dispatchOr fallback x => .dispatchOr (fallback.rewire w) x

variable {w : Rewiring σ τ ν}

/-- Rewiring a guard keeps its label. -/
@[simp] theorem Guard.label_rewire (g : Guard σ ν In View) : (g.rewire w).label = g.label := by
  cases g <;> rfl

/-- Rewiring a rule keeps its name. -/
@[simp] theorem Rule.label_rewire (r : Rule σ ν In Out E) : (r.rewire w).label = r.label :=
  r.guard.label_rewire

/-- Rewiring a dispatcher keeps the number of its rules. -/
@[simp] theorem Dispatcher.size_rewire (d : Dispatcher σ ν In Out E) :
    (d.rewire w).size = d.size := List.length_map _

/-- Rewiring a dispatcher keeps whether it logs unhandled input. -/
@[simp] theorem Dispatcher.logUnhandled_rewire (d : Dispatcher σ ν In Out E) :
    (d.rewire w).logUnhandled = d.logUnhandled := rfl

/-! ## Relations between runs -/

namespace Rewiring

/-- A relation between runs that holds between calls of a function before and after it is rewired,
and that is kept when runs are put together. -/
structure Lifts (w : Rewiring σ τ ν)
    (R : (α : Type) → Run σ (Event ν) α → Run τ (Event ν) α → Prop) : Prop where
  pure {α : Type} (a : α) : R α (pure a) (pure a)
  bind {α β : Type} {x : Run σ (Event ν) α} {y : Run τ (Event ν) α}
    {f : α → Run σ (Event ν) β} {g : α → Run τ (Event ν) β} :
    R α x y → (∀ a, R β (f a) (g a)) → R β (x >>= f) (y >>= g)
  log (record : Record) : R Unit (Run.emit (.log record)) (Run.emit (.log record))
  call {α β : Type} (role : Role) (f : Callback σ ν α β) (a : α) :
    R β (f.call role a) ((f.rewire w).call role a)

namespace Lifts

variable {R : (α : Type) → Run σ (Event ν) α → Run τ (Event ν) α → Prop}

/-- The relation carries over to functions of the values. -/
theorem map {x : Run σ (Event ν) α} {y : Run τ (Event ν) α} (h : w.Lifts R) (f : α → β)
    (hxy : R α x y) : R β (f <$> x) (f <$> y) := by
  rw [map_eq_pure_bind, map_eq_pure_bind]
  exact h.bind hxy fun a => h.pure (f a)

/-- The relation carries over to conditions, by induction on their tests. -/
theorem holds (h : w.Lifts R) (c : Condition σ ν View) (v : View) :
    R Bool (c.holds v) ((c.rewire w).holds v) := by
  induction c with
  | test f => exact h.call .condition f v
  | both first second ih ih' =>
    refine h.bind ih fun b => ?_
    cases b with
    | false => exact h.pure false
    | true => exact ih'

/-- The relation carries over to guards. -/
theorem view? {View : Type} (h : w.Lifts R) (g : Guard σ ν In View) (x : In) :
    R (Option View) (g.view? x) ((g.rewire w).view? x) := by
  cases g with
  | exact label narrow => exact h.call .narrow narrow x
  | equals shown narrow same literal =>
    refine h.bind (h.call .narrow narrow x) fun v? => ?_
    cases v? with
    | none => exact h.pure none
    | some v => exact h.bind (h.call .compare same (v, literal)) fun b => h.pure _
  | structural label find => exact h.call .guard find x
  | any => exact h.pure (some x)
  | whole label test => exact h.bind (h.call .guard test x) fun b => h.pure _

/-- The relation carries over to conditions that there may be. -/
theorem admits (h : w.Lifts R) (c? : Option (Condition σ ν View)) (v : View) :
    R Bool (Guard.admits c? v) (Guard.admits (c?.map (Condition.rewire w)) v) := by
  cases c? with
  | none => exact h.pure true
  | some c => exact h.holds c v

/-- The relation carries over to the selection of a view. -/
theorem select? (h : w.Lifts R) (r : Rule σ ν In Out E) (x : In) :
    R (Option r.View) (r.select? x) ((r.rewire w).select? x) := by
  refine h.bind (h.view? r.guard x) fun v? => ?_
  cases v? with
  | none => exact h.pure none
  | some v => exact h.bind (h.admits r.condition v) fun b => h.pure _

/-- The relation carries over to actions, by induction on their maps. -/
theorem run {Out : Type} (h : w.Lifts R) (a : Action σ ν View E Out) (v : View) :
    R (Except E Out) (a.run v) ((a.rewire w).run v) := by
  induction a with
  | answer f => exact h.call .action f v
  | mapped inner f ih =>
    refine h.bind ih fun result => ?_
    cases result with
    | error e => exact h.pure (Except.error e)
    | ok out => exact h.bind (h.call .map f out) fun next => h.pure (Except.ok next)

/-- The relation carries over to the question whether a rule takes an input. -/
theorem ruleAccepts (h : w.Lifts R) (r : Rule σ ν In Out E) (x : In) :
    R Bool (r.accepts x) ((r.rewire w).accepts x) :=
  h.bind (h.select? r x) fun v? => h.pure v?.isSome

/-- The relation carries over to the answer of a rule. -/
theorem react? (h : w.Lifts R) (r : Rule σ ν In Out E) (x : In) :
    R (Option (Except E Out)) (r.react? x) ((r.rewire w).react? x) := by
  refine h.bind (h.select? r x) fun v? => ?_
  cases v? with
  | none => exact h.pure none
  | some v => exact h.bind (h.run r.action v) fun result => h.pure (some result)

/-- The relation carries over to the question whether some rule of a list takes an input. -/
theorem anyAccepts (h : w.Lifts R) (rules : List (Rule σ ν In Out E)) (x : In) :
    R Bool (Dispatcher.anyAccepts rules x)
      (Dispatcher.anyAccepts (rules.map (Rule.rewire w)) x) := by
  induction rules with
  | nil => exact h.pure false
  | cons r rules ih =>
    refine h.bind (h.ruleAccepts r x) fun b => ?_
    cases b with
    | false => exact ih
    | true => exact h.pure true

/-- The relation carries over to scans, which log the same labels. -/
theorem scan (h : w.Lifts R) (n : Nat) (rules : List (Rule σ ν In Out E)) (x : In) :
    R (Option (Except E Out)) (Dispatcher.scan n rules x)
      (Dispatcher.scan n (rules.map (Rule.rewire w)) x) := by
  induction rules generalizing n with
  | nil => exact h.pure none
  | cons r rules ih =>
    refine h.bind (h.react? r x) fun result? => ?_
    cases result? with
    | none => exact ih (n + 1)
    | some result =>
      show R _ _ (Run.emit (.log (.handled n (r.rewire w).label)) >>= fun _ => _)
      rw [r.label_rewire]
      exact h.bind (h.log _) fun _ => h.pure (some result)

/-- The relation carries over to dispatches, which log the same number of rules. -/
theorem dispatch? (h : w.Lifts R) (d : Dispatcher σ ν In Out E) (x : In) :
    R (Option (Except E Out)) (d.dispatch? x) ((d.rewire w).dispatch? x) := by
  refine h.bind (h.scan 0 d.rules x) fun result? => ?_
  cases result? with
  | none =>
    cases hlog : d.logUnhandled with
    | false =>
      simp only [d.logUnhandled_rewire, hlog]
      exact h.pure none
    | true =>
      simp only [d.logUnhandled_rewire, d.size_rewire, hlog]
      exact h.bind (h.log _) fun _ => h.pure none
  | some result => exact h.pure (some result)

/-- A use of the rewired dispatcher is related to the same use of the first one. -/
theorem ask (h : w.Lifts R) (d : Dispatcher σ ν In Out E) (u : InputStep σ ν In Out E) :
    R (Answer Out E) (u.ask d) ((u.rewire w).ask (d.rewire w)) := by
  cases u with
  | accepts x => exact h.map _ (h.anyAccepts d.rules x)
  | dispatch? x => exact h.map _ (h.dispatch? d x)
  | dispatch x =>
    refine h.map _ (h.bind (h.dispatch? d x) fun result? => ?_)
    rw [d.size_rewire]
    match result? with
    | none => exact h.pure _
    | some (.ok out) => exact h.pure _
    | some (.error e) => exact h.pure _
  | dispatchOr f x =>
    refine h.map _ (h.bind (h.dispatch? d x) fun result? => ?_)
    cases result? with
    | none => exact h.call .fallback f x
    | some result => exact h.pure result

end Lifts

end Rewiring

end FirstMatch
