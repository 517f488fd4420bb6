/-
# What rules ask

The protocols of guards, conditions, actions and rules: which functions of the user each of them
calls, on what, in which order, and what it makes of the answers.  A guard has at most one function
to ask, and a comparison behind it; a condition asks its tests up to the first that does not hold; a
rule asks its condition only about a view that its guard recognised; an action asks its maps only
about outputs, the innermost one first.  A panic ends each of them.

That the runs follow these protocols (`Guard.follows_view?`, `Condition.follows_holds`,
`Action.follows_run`, `Rule.follows_select?`) is the one place where they are taken apart.
-/
import FirstMatch.Dispatcher
import FirstMatch.Proofs.Transcript

namespace FirstMatch

variable {σ ν In Out E View : Type}

/-! ## Guards -/

namespace Guard

/-- What a guard asks about an input, and the view that it recognises, if it does. -/
inductive Sees (x : In) : {View : Type} → Guard σ ν In View → Protocol σ ν (Option View)
  | exact {View : Type} (label : String) (narrow : Callback σ ν In (Option View))
    (o : Outcome (Option View)) : Sees x (.exact label narrow) [⟨.narrow, narrow, x, o⟩] o
  | differs {View : Type} (shown : String) (narrow : Callback σ ν In (Option View))
    (same : Callback σ ν (View × View) Bool) (literal : View) :
    Sees x (.equals shown narrow same literal) [⟨.narrow, narrow, x, .done none⟩] (.done none)
  | broken {View : Type} (shown : String) (narrow : Callback σ ν In (Option View))
    (same : Callback σ ν (View × View) Bool) (literal : View) (message : String) :
    Sees x (.equals shown narrow same literal) [⟨.narrow, narrow, x, .panic message⟩]
      (.panic message)
  | compared {View : Type} (shown : String) (narrow : Callback σ ν In (Option View))
    (same : Callback σ ν (View × View) Bool) (literal v : View) (o : Outcome Bool) :
    Sees x (.equals shown narrow same literal)
      [⟨.narrow, narrow, x, .done (some v)⟩, ⟨.compare, same, (v, literal), o⟩]
      (o.map fun b => if b then some v else none)
  | structural {View : Type} (label : String) (find : Callback σ ν In (Option View))
    (o : Outcome (Option View)) : Sees x (.structural label find) [⟨.guard, find, x, o⟩] o
  | any : Sees x .any [] (.done (some x))
  | whole (label : String) (test : Callback σ ν In Bool) (o : Outcome Bool) :
    Sees x (.whole label test) [⟨.guard, test, x, o⟩] (o.map fun b => if b then some x else none)

/-- A guard calls the functions of its protocol. -/
theorem follows_view? (g : Guard σ ν In View) (x : In) : (g.view? x).Follows (Sees x g) := by
  cases g with
  | exact label narrow =>
    refine (Run.Follows.call .narrow narrow x).congr fun calls o => ?_
    constructor
    · rintro ⟨⟩
      exact .exact label narrow o
    · rintro ⟨⟩
      exact .intro o
  | equals shown narrow same literal =>
    refine ((Run.Follows.call .narrow narrow x).bind
      (Q := fun v? => v?.elim (Protocol.Pure none) fun v =>
        Protocol.Bind (Protocol.Call .compare same (v, literal)) fun b =>
          Protocol.Pure (if b then some v else none)) fun v? => ?_).congr fun calls o => ?_
    · cases v? with
      | none => exact .pure none
      | some v => exact (Run.Follows.call .compare same (v, literal)).bind fun b => .pure _
    -- the narrowing panics, it sees nothing, or it sees a view that is then compared
    · constructor
      · rintro (⟨⟨⟩⟩ | @⟨_, _, _ | v, _, ⟨⟩, hrest⟩)
        · exact .broken shown narrow same literal _
        · obtain ⟨⟩ := hrest
          exact .differs shown narrow same literal
        · obtain ⟨o', ⟨⟩, rfl⟩ := Protocol.bind_pure_iff.mp hrest
          exact .compared shown narrow same literal v o'
      · intro hsees
        cases hsees with
        | differs => exact .done (a := none) (Protocol.Call.intro _) Protocol.Pure.intro
        | broken => exact .panic (Protocol.Call.intro _)
        | compared _ _ _ _ v o =>
          exact .done (a := some v) (Protocol.Call.intro _)
            (Protocol.bind_pure_iff.mpr ⟨o, .intro o, rfl⟩)
  | structural label find =>
    refine (Run.Follows.call .guard find x).congr fun calls o => ?_
    constructor
    · rintro ⟨⟩
      exact .structural label find o
    · rintro ⟨⟩
      exact .intro o
  | any =>
    refine (Run.Follows.pure (some x)).congr fun calls o => ?_
    constructor
    · rintro ⟨⟩
      exact .any
    · rintro ⟨⟩
      exact .intro
  | whole label test =>
    refine ((Run.Follows.call .guard test x).bind
      fun b => .pure (if b then some x else none)).congr fun calls o => ?_
    rw [Protocol.bind_pure_iff]
    constructor
    · rintro ⟨o', ⟨⟩, rfl⟩
      exact .whole label test o'
    · rintro ⟨⟩
      exact ⟨_, .intro _, rfl⟩

end Guard

/-! ## Conditions -/

namespace Condition

/-- What a condition asks about a view, and what it says: its tests are asked from left to right,
and none behind one that does not hold. -/
inductive Judges (v : View) : Condition σ ν View → Protocol σ ν Bool
  | test (f : Callback σ ν View Bool) (o : Outcome Bool) :
    Judges v (.test f) [⟨.condition, f, v, o⟩] o
  | stop {first second : Condition σ ν View} {calls : Transcript σ ν} {o : Outcome Bool} :
    Judges v first calls o → o ≠ .done true → Judges v (.both first second) calls o
  | next {first second : Condition σ ν View} {calls rest : Transcript σ ν} {o : Outcome Bool} :
    Judges v first calls (.done true) → Judges v second rest o →
    Judges v (.both first second) (calls ++ rest) o

/-- A condition calls the functions of its protocol. -/
theorem follows_holds (c : Condition σ ν View) (v : View) : (c.holds v).Follows (Judges v c) := by
  induction c with
  | test f =>
    refine (Run.Follows.call .condition f v).congr fun calls o => ?_
    constructor
    · rintro ⟨⟩
      exact .test f o
    · rintro ⟨⟩
      exact .intro o
  | both first second ih ih' =>
    refine (ih.bind (Q := fun b => if b then Judges v second else Protocol.Pure false)
      fun b => ?_).congr fun calls o => ?_
    · cases b with
      | false => exact .pure false
      | true => exact ih'
    · constructor
      · rintro (hfirst | @⟨_, _, _ | _, _, hfirst, hrest⟩)
        · exact .stop hfirst (by simp)
        · obtain ⟨⟩ := hrest
          rw [List.append_nil]
          exact .stop hfirst (by simp)
        · exact .next hfirst hrest
      · intro hjudges
        cases hjudges with
        -- `stop` covers both ends of the first test that keep the second from being made
        | @stop _ _ _ o hfirst ho =>
          match o with
          | .panic message => exact .panic hfirst
          | .done true => exact absurd rfl ho
          | .done false =>
            rw [← List.append_nil calls]
            exact .done hfirst .intro
        | next hfirst hsecond => exact .done hfirst hsecond

end Condition

/-! ## Actions -/

namespace Action

/-- What an action asks about a view, and its result: its function once, and each map once if the
one inside it has an output, the innermost first. -/
inductive Answers (v : View) : {Out : Type} → Action σ ν View E Out → Protocol σ ν (Except E Out)
  | answer {Out : Type} (f : Callback σ ν View (Except E Out)) (o : Outcome (Except E Out)) :
    Answers v (.answer f) [⟨.action, f, v, o⟩] o
  | output {Mid Out : Type} {inner : Action σ ν View E Mid} {calls : Transcript σ ν} {out : Mid}
    (f : Callback σ ν Mid Out) (o : Outcome Out) :
    Answers v inner calls (.done (.ok out)) →
    Answers v (.mapped inner f) (calls ++ [⟨.map, f, out, o⟩]) (o.map .ok)
  | failure {Mid Out : Type} {inner : Action σ ν View E Mid} {calls : Transcript σ ν} {e : E}
    (f : Callback σ ν Mid Out) :
    Answers v inner calls (.done (.error e)) →
    Answers v (.mapped inner f) calls (.done (.error e))
  | panic {Mid Out : Type} {inner : Action σ ν View E Mid} {calls : Transcript σ ν}
    {message : String} (f : Callback σ ν Mid Out) :
    Answers v inner calls (.panic message) → Answers v (.mapped inner f) calls (.panic message)

/-- What a map asks about a result: it is called on an output, and a failure passes by. -/
def Maps {Mid : Type} (f : Callback σ ν Mid Out) : Except E Mid → Protocol σ ν (Except E Out)
  | .ok out => Protocol.Bind (Protocol.Call .map f out) fun next => Protocol.Pure (.ok next)
  | .error e => Protocol.Pure (.error e)

/-- An action calls the functions of its protocol. -/
theorem follows_run (a : Action σ ν View E Out) (v : View) : (a.run v).Follows (Answers v a) := by
  -- on the maps around the function, from the innermost outwards
  induction a with
  | answer f =>
    refine (Run.Follows.call .action f v).congr fun calls o => ?_
    constructor
    · rintro ⟨⟩
      exact .answer f o
    · rintro ⟨⟩
      exact .intro o
  | mapped inner f ih =>
    refine (ih.bind (Q := Maps f) fun result => ?_).congr fun calls o => ?_
    · cases result with
      | ok out => exact (Run.Follows.call .map f out).bind fun next => .pure (Except.ok next)
      | error e => exact .pure (Except.error e)
    · constructor
      · rintro (hinner | @⟨_, _, e | out, _, hinner, hrest⟩)
        · exact .panic f hinner
        · obtain ⟨⟩ := hrest
          rw [List.append_nil]
          exact .failure f hinner
        · obtain ⟨o', ⟨⟩, rfl⟩ := Protocol.bind_pure_iff.mp hrest
          exact .output f o' hinner
      · intro hanswers
        cases hanswers with
        | output _ o hinner =>
          exact .done hinner (Protocol.bind_pure_iff.mpr ⟨o, .intro o, rfl⟩)
        | failure _ hinner =>
          rw [← List.append_nil calls]
          exact .done hinner .intro
        | panic _ hinner => exact .panic hinner

end Action

/-! ## Rules -/

namespace Rule

/-- What a rule asks about a view that its guard recognised, and whether the view meets the
condition: without a condition nothing is asked and every view does. -/
inductive Admits (r : Rule σ ν In Out E) (v : r.View) : Protocol σ ν Bool
  | free : r.condition = none → Admits r v [] (.done true)
  | asked {c : Condition σ ν r.View} {calls : Transcript σ ν} {o : Outcome Bool} :
    r.condition = some c → Condition.Judges v c calls o → Admits r v calls o

/-- What a rule asks to select a view.  It rejects the input (with no view) if its guard does not
recognise it, or if the view that the guard recognised does not meet the condition; it accepts the
input with a view that its guard recognised and that meets the condition. -/
inductive Selects (r : Rule σ ν In Out E) (x : In) : Protocol σ ν (Option r.View)
  | unrecognized {calls : Transcript σ ν} :
    Guard.Sees x r.guard calls (.done none) → Selects r x calls (.done none)
  | unmet {calls rest : Transcript σ ν} {v : r.View} :
    Guard.Sees x r.guard calls (.done (some v)) → r.Admits v rest (.done false) →
    Selects r x (calls ++ rest) (.done none)
  | met {calls rest : Transcript σ ν} {v : r.View} :
    Guard.Sees x r.guard calls (.done (some v)) → r.Admits v rest (.done true) →
    Selects r x (calls ++ rest) (.done (some v))
  | brokenGuard {calls : Transcript σ ν} {message : String} :
    Guard.Sees x r.guard calls (.panic message) → Selects r x calls (.panic message)
  | brokenCondition {calls rest : Transcript σ ν} {v : r.View} {message : String} :
    Guard.Sees x r.guard calls (.done (some v)) → r.Admits v rest (.panic message) →
    Selects r x (calls ++ rest) (.panic message)

/-- A rule rejects an input. -/
abbrev Rejects (r : Rule σ ν In Out E) (x : In) (calls : Transcript σ ν) : Prop :=
  r.Selects x calls (.done none)

/-- A rule accepts an input with a view. -/
abbrev Accepts (r : Rule σ ν In Out E) (x : In) (v : r.View) (calls : Transcript σ ν) : Prop :=
  r.Selects x calls (.done (some v))

/-- Whether a rule admits a view is settled by the calls of its condition. -/
theorem follows_admits (r : Rule σ ν In Out E) (v : r.View) :
    (Guard.admits r.condition v).Follows (r.Admits v) := by
  cases hc : r.condition with
  | none =>
    refine (Run.Follows.pure true).congr fun calls o => ?_
    constructor
    · rintro ⟨⟩
      exact .free hc
    · intro hadmits
      cases hadmits with
      | free => exact .intro
      | asked hsome => exact absurd (hc.symm.trans hsome) (by simp)
  | some c =>
    refine (c.follows_holds v).congr fun calls o => ?_
    constructor
    · exact .asked hc
    · intro hadmits
      cases hadmits with
      | free hnone => exact absurd (hc.symm.trans hnone) (by simp)
      | asked hsome hjudges =>
        obtain rfl := Option.some.inj (hc.symm.trans hsome)
        exact hjudges

/-- A rule selects a view by asking its guard and, if that recognises one, its condition. -/
theorem follows_select? (r : Rule σ ν In Out E) (x : In) :
    (r.select? x).Follows (r.Selects x) := by
  refine ((r.guard.follows_view? x).bind
    (Q := fun v? => v?.elim (Protocol.Pure none) fun v =>
      Protocol.Bind (r.Admits v) fun b => Protocol.Pure (if b then some v else none))
    fun v? => ?_).congr fun calls o => ?_
  · cases v? with
    | none => exact .pure none
    | some v => exact (r.follows_admits v).bind fun b => .pure _
  -- guard and condition, one behind the other, end in the five ways of `Selects`
  · constructor
    · rintro (hsees | @⟨calls, rest, _ | v, _, hsees, hrest⟩)
      · exact .brokenGuard hsees
      · obtain ⟨⟩ := hrest
        rw [List.append_nil]
        exact .unrecognized hsees
      · obtain ⟨(_ | _) | message, hadmits, rfl⟩ := Protocol.bind_pure_iff.mp hrest
        · exact .unmet hsees hadmits
        · exact .met hsees hadmits
        · exact .brokenCondition hsees hadmits
    · intro hselects
      cases hselects with
      | unrecognized hsees =>
        rw [← List.append_nil calls]
        exact .done hsees .intro
      | unmet hsees hadmits =>
        exact .done hsees (Protocol.bind_pure_iff.mpr ⟨_, hadmits, rfl⟩)
      | met hsees hadmits =>
        exact .done hsees (Protocol.bind_pure_iff.mpr ⟨_, hadmits, rfl⟩)
      | brokenGuard hsees => exact .panic hsees
      | brokenCondition hsees hadmits =>
        exact .done hsees (Protocol.bind_pure_iff.mpr ⟨_, hadmits, rfl⟩)

end Rule

end FirstMatch
