/-
# Normal forms

A dispatcher is made by an expression: drafts are compiled, and dispatchers are copied, chained and
mapped.  Its rules are those of the compiled drafts from left to right, each behind the maps on its
way up to the root of the expression (`Expression.leaves`).  A leaf reacts as its rule does and
hands an output on to these maps, the innermost one first (`Leaf.react?_flat`).

The dispatcher of the leaves is the one that the expression makes (`Expression.dispatcher_eq_flat`).
The laws of chaining and mapping hold of dispatchers, and so of the expressions that make them.
-/
import FirstMatch.Describe
import FirstMatch.Proofs.CatchAll

namespace FirstMatch

variable {σ ν In Mid Out Next E View : Type}

/-! ## Maps in a row -/

/-- Maps of which each takes the output of the one before it. -/
inductive MapChain (σ ν : Type) : Type → Type → Type 1 where
  | nil {Out : Type} : MapChain σ ν Out Out
  | cons {Mid Next Out : Type} (f : Callback σ ν Mid Next) (maps : MapChain σ ν Next Out) :
    MapChain σ ν Mid Out

/-- Passes an output through maps, from the first one on. -/
def MapChain.pass {Mid Out : Type} : MapChain σ ν Mid Out → Mid → Run σ (Event ν) Out
  | nil, out => pure out
  | cons f maps, out => do
    let next ← f.call .map out
    maps.pass next

/-- An action with maps around it, of which the first one is the innermost. -/
def Action.through {Mid Out : Type} : MapChain σ ν Mid Out → Action σ ν View E Mid →
    Action σ ν View E Out
  | .nil, a => a
  | .cons f maps, a => through maps (.mapped a f)

/-- Behind maps an action gives an output to the maps and leaves its failures alone. -/
theorem Action.run_through (maps : MapChain σ ν Mid Out) (a : Action σ ν View E Mid) (v : View) :
    (a.through maps).run v = a.run v >>= fun result =>
      match result with
      | .ok out => .ok <$> maps.pass out
      | .error e => pure (.error e) := by
  induction maps with
  | nil =>
    refine (bind_pure (a.run v)).symm.trans ?_
    congr 1
    funext result
    cases result <;> rfl
  | cons f maps ih =>
    rw [through, ih, run_mapped, bind_assoc]
    congr 1
    funext result
    cases result with
    | ok out => simp only [bind_assoc, pure_bind, MapChain.pass, map_bind]
    | error e => simp only [pure_bind]

/-- A rule with maps around its action. -/
def Rule.through (maps : MapChain σ ν Mid Out) (r : Rule σ ν In Mid E) : Rule σ ν In Out E :=
  { r with action := r.action.through maps }

/-! ## Expressions -/

/-- How a dispatcher is made. -/
inductive Expression (σ ν In E : Type) : Type → Type 1 where
  | built {Out : Type} (draft : Draft σ ν In Out E) : Expression σ ν In E Out
  | empty {Out : Type} : Expression σ ν In E Out
  | copied {Out : Type} (e : Expression σ ν In E Out) : Expression σ ν In E Out
  | chained {Out : Type} (first second : Expression σ ν In E Out) : Expression σ ν In E Out
  | mapped {Mid Out : Type} (f : Callback σ ν Mid Out) (e : Expression σ ν In E Mid) :
    Expression σ ν In E Out

/-- A rule of a draft in an expression, with the maps above it. -/
structure Leaf (σ ν In Out E : Type) : Type 1 where
  {Mid : Type}
  rule : Rule σ ν In Mid E
  maps : MapChain σ ν Mid Out

/-- A leaf as one rule. -/
def Leaf.flat (l : Leaf σ ν In Out E) : Rule σ ν In Out E := l.rule.through l.maps

namespace Leaf

/-- Maps are not asked when a view is selected. -/
theorem accepts_flat (l : Leaf σ ν In Out E) (x : In) : l.flat.accepts x = l.rule.accepts x := rfl

/-- A leaf reacts as its rule does, and passes an output through the maps. -/
theorem react?_flat (l : Leaf σ ν In Out E) (x : In) :
    l.flat.react? x = l.rule.react? x >>= fun result? =>
      match result? with
      | none => pure none
      | some (.ok out) => (fun out => some (.ok out)) <$> l.maps.pass out
      | some (.error e) => pure (some (.error e)) := by
  have hselect : l.flat.select? x = l.rule.select? x := rfl
  rw [Rule.react?, Rule.react?, hselect, bind_assoc]
  congr 1
  -- both select alike, so what is left to compare is what they do with the view
  funext v?
  cases v? with
  | none => simp only [pure_bind]
  | some v =>
    have hrun := Action.run_through l.maps l.rule.action v
    show (l.rule.action.through l.maps).run v >>= _ = _
    rw [hrun, bind_assoc, bind_assoc]
    congr 1
    funext result
    cases result with
    | ok out => simp only [pure_bind, map_eq_pure_bind, bind_assoc]
    | error e => simp only [pure_bind]

end Leaf

namespace Expression

/-- The dispatcher that an expression makes. -/
def dispatcher {Out : Type} : Expression σ ν In E Out → Dispatcher σ ν In Out E
  | built draft => draft.compile.dispatcher
  | empty => .empty
  | copied e => e.dispatcher
  | chained first second => first.dispatcher.orElse second.dispatcher
  | mapped f e => e.dispatcher.map f

/-- The leaves of an expression that stands below maps, from left to right. -/
def leavesBelow {Mid : Type} : Expression σ ν In E Mid → MapChain σ ν Mid Out →
    List (Leaf σ ν In Out E)
  | built draft, maps => draft.rules.map fun r => ⟨r, maps⟩
  | empty, _ => []
  | copied e, maps => e.leavesBelow maps
  | chained first second, maps => first.leavesBelow maps ++ second.leavesBelow maps
  | mapped f e, maps => e.leavesBelow (.cons f maps)

/-- The leaves of an expression from left to right. -/
def leaves (e : Expression σ ν In E Out) : List (Leaf σ ν In Out E) := e.leavesBelow .nil

/-- Whether unhandled input is to be logged, as each draft and each empty dispatcher says. -/
def flags {Out : Type} : Expression σ ν In E Out → List Bool
  | built draft => [draft.settings.logUnhandled]
  | empty => [false]
  | copied e => e.flags
  | chained first second => first.flags ++ second.flags
  | mapped _ e => e.flags

/-- The dispatcher of the leaves. -/
def flat (e : Expression σ ν In E Out) : Dispatcher σ ν In Out E :=
  ⟨e.leaves.map Leaf.flat, e.flags.any id⟩

/-- The rules of an expression below maps are those of its dispatcher with the maps around them. -/
theorem map_flat_leavesBelow (e : Expression σ ν In E Mid) (maps : MapChain σ ν Mid Out) :
    (e.leavesBelow maps).map Leaf.flat = e.dispatcher.rules.map (Rule.through maps) := by
  -- a map goes to the front of `maps` on the way down, and around the rules on the way up
  induction e with
  | built draft =>
    rw [leavesBelow, List.map_map]
    rfl
  | empty => rfl
  | copied e ih => exact ih maps
  | chained first second ih ih' =>
    rw [leavesBelow, List.map_append, ih maps, ih' maps, ← List.map_append]
    rfl
  | mapped f e ih =>
    rw [leavesBelow, ih (.cons f maps), dispatcher, Dispatcher.map, List.map_map]
    rfl

/-- An expression logs unhandled input if one of its leaves asks for it. -/
theorem logUnhandled_dispatcher (e : Expression σ ν In E Out) :
    e.dispatcher.logUnhandled = e.flags.any id := by
  induction e with
  | built draft => exact (Bool.or_false _).symm
  | empty => rfl
  | copied e ih => exact ih
  | chained first second ih ih' =>
    rw [flags, List.any_append, ← ih, ← ih']
    rfl
  | mapped f e ih => exact ih

/-- An expression makes the dispatcher of its leaves. -/
theorem dispatcher_eq_flat (e : Expression σ ν In E Out) : e.dispatcher = e.flat := by
  have hrules : e.dispatcher.rules = e.leaves.map Leaf.flat := by
    rw [leaves, map_flat_leavesBelow]
    exact (List.map_id e.dispatcher.rules).symm
  rw [flat, ← hrules, ← logUnhandled_dispatcher]

end Expression

/-! ## Dispatchers that cannot be told apart -/

/-- Two dispatchers that cannot be told apart, neither by what they are nor by what they do. -/
structure Dispatcher.Indistinguishable (d e : Dispatcher σ ν In Out E) : Prop extends
    Alike d e where
  size : d.size = e.size
  isEmpty : d.isEmpty = e.isEmpty
  labels : d.labels = e.labels
  compact : d.layout.compact = e.layout.compact
  pretty : d.layout.pretty = e.layout.pretty
  logUnhandled : d.logUnhandled = e.logUnhandled

/-- Equal dispatchers cannot be told apart. -/
theorem Dispatcher.Indistinguishable.of_eq {d e : Dispatcher σ ν In Out E} (h : d = e) :
    d.Indistinguishable e := by
  subst h
  exact ⟨⟨fun _ => rfl, fun _ => rfl, fun _ => rfl, fun _ _ => rfl⟩, rfl, rfl, rfl, rfl, rfl, rfl⟩

/-- What the leaves of expressions say of the dispatchers that the expressions make. -/
structure Expression.Normalizes (σ ν In Out Next E : Type) : Prop where
  /-- The dispatcher of the leaves cannot be told apart from the one that the expression makes. -/
  flat (e : Expression σ ν In E Out) : e.dispatcher.Indistinguishable e.flat
  size (e : Expression σ ν In E Out) : e.flat.size = e.leaves.length
  /-- A leaf has the name of the rule of a draft. -/
  labels (e : Expression σ ν In E Out) : e.flat.labels = e.leaves.map fun l => l.rule.label
  /-- Unhandled input is logged if a leaf asks for it. -/
  logUnhandled (e : Expression σ ν In E Out) : e.flat.logUnhandled = e.flags.any id
  /-- The rules are the leaves from left to right. -/
  rule (e : Expression σ ν In E Out) (i : Nat) : e.flat.rules[i]? = e.leaves[i]?.map Leaf.flat
  leaf_isCatchAll (l : Leaf σ ν In Out E) : l.flat.isCatchAll = l.rule.isCatchAll
  /-- A leaf takes the inputs that the rule takes. -/
  leaf_accepts (l : Leaf σ ν In Out E) (x : In) : l.flat.accepts x = l.rule.accepts x
  /-- The outputs of a leaf go through the maps above the rule, the innermost one first. -/
  leaf_react? (l : Leaf σ ν In Out E) (x : In) :
    l.flat.react? x = l.rule.react? x >>= fun result? =>
      match result? with
      | none => pure none
      | some (.ok out) => (fun out => some (.ok out)) <$> l.maps.pass out
      | some (.error e) => pure (some (.error e))
  assoc (a b c : Expression σ ν In E Out) :
    (chained (chained a b) c).dispatcher.Indistinguishable (chained a (chained b c)).dispatcher
  empty_chained (a : Expression σ ν In E Out) :
    (chained empty a).dispatcher.Indistinguishable a.dispatcher
  chained_empty (a : Expression σ ν In E Out) :
    (chained a empty).dispatcher.Indistinguishable a.dispatcher
  mapped_chained (f : Callback σ ν Out Next) (a b : Expression σ ν In E Out) :
    (mapped f (chained a b)).dispatcher.Indistinguishable
      (chained (mapped f a) (mapped f b)).dispatcher

/-- An expression makes a dispatcher that cannot be told apart from the flat one, whose rules are
the leaves of the expression from left to right.  Each of them is named as the rule of a draft and
takes the inputs that this rule takes; its outputs go through the maps above that rule, the
innermost one first.  Unhandled input is logged if a leaf asks for it.  And chaining is
associative, with the empty dispatcher on either side as identity, and maps distribute over it. -/
theorem Expression.normal_form : Expression.Normalizes σ ν In Out Next E where
  flat e := .of_eq e.dispatcher_eq_flat
  size _ := List.length_map _
  labels e := by
    rw [Dispatcher.labels, Expression.flat, List.map_map]
    rfl
  logUnhandled _ := rfl
  rule _ _ := List.getElem?_map
  leaf_isCatchAll _ := rfl
  leaf_accepts l x := l.accepts_flat x
  leaf_react? l x := l.react?_flat x
  assoc _ _ _ := .of_eq (Dispatcher.orElse_assoc _ _ _)
  empty_chained _ := .of_eq (Dispatcher.empty_orElse _)
  chained_empty _ := .of_eq (Dispatcher.orElse_empty _)
  mapped_chained f _ _ := .of_eq (Dispatcher.map_orElse f _ _)

end FirstMatch
