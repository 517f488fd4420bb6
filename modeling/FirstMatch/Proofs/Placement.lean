/-
# Where a check stands

A check on the input may stand in the guard of a rule or in its condition.  A function that finds a
view may keep only views of which a condition holds; a guard may compare the view with a literal;
and a guard may test the whole input.  In each case the check may move behind the guard, and a rule
with the check there looks like one with the check in the guard, since in both the check is made
once, on the same value, after the view was found and before the action is asked.

A check inside the guard is made by the function of the guard and not by the rule, so the two make
it in different calls, and it is a watcher who sees the same of both; since functions may show all
of their calls, none of these is lost on him.  None of these rules counts as a catch-all, wherever
the check stands.
-/
import FirstMatch.Proofs.Replacement

namespace FirstMatch

variable {σ ν α β In Out E View : Type}

/-! ## Checks inside a function -/

namespace Callback

/-- The test whether a value equals a literal, by a comparison that has the value on its left. -/
def equalTo (same : Callback σ ν (View × View) Bool) (literal : View) : Callback σ ν View Bool where
  shows _ := none
  body v := same.within (v, literal)

/-- What is seen of a call is what the function notes when it is called within another one. -/
theorem watched_call (role : Role) (f : Callback σ ν α β) (a : α) :
    (f.call role a).watched = (f.within a).mapEvents .note := by
  ext s
  rw [watched_call_apply]
  rfl

/-- A restricted function finds a view and then tests it, all within one call. -/
theorem within_keeping (find : Callback σ ν In (Option View)) (c : Condition σ ν View) (x : In) :
    (find.keeping c).within x = find.within x >>= fun v? =>
      match v? with
      | none => pure none
      | some v => return if ← c.holdsWithin v then some v else none := by
  ext s
  have hbody : (find.keeping c).body x = find.body x >>= fun v? =>
      match v? with
      | none => pure none
      | some v => return if ← c.holdsWithin v then some v else none := rfl
  rw [within, hbody, Run.bind_apply, Run.bind_apply, within]
  rcases find.body x s with ⟨v? | message, notes, t⟩
  · rw [Ending.after_after]
    rfl
  · rfl

end Callback

/-- What is seen of a condition is what its tests note when it is asked within a function. -/
theorem Condition.watched_holds (c : Condition σ ν View) (v : View) :
    (c.holds v).watched = (c.holdsWithin v).mapEvents .note := by
  ext s
  rcases hrun : c.holds v s with ⟨o, events, t⟩
  have hentries := Event.entries_eq_map_note ((c.follows_holds v).no_records hrun)
  rw [Run.watched, Run.mapEvents, holdsWithin, hrun, hentries]
  rfl

/-! ## Checks in a guard or behind it -/

namespace Guard

/-- Without a condition the view of the guard is selected. -/
theorem select?_none (g : Guard σ ν In View) (x : In) : g.select? none x = g.view? x := by
  rw [select?]
  conv_rhs => rw [← bind_pure (g.view? x)]
  congr 1
  funext v?
  cases v? <;> rfl

/-- A function may keep the views of which a condition holds, or the condition may be asked about
what it finds. -/
theorem watched_select?_keeping (label : String) (find : Callback σ ν In (Option View))
    (c : Condition σ ν View) (x : In) :
    ((structural label (find.keeping c)).select? none x).watched
      = ((structural label find).select? (some c) x).watched := by
  rw [select?_none, view?, Callback.watched_call, Callback.within_keeping, Run.mapEvents_bind,
    ← Callback.watched_call .guard, select?, view?, Run.watched_bind]
  congr 1
  funext v?
  cases v? with
  | none => rfl
  | some v =>
    show (c.holdsWithin v >>= fun b => pure (if b then some v else none)).mapEvents .note
      = (c.holds v >>= fun b => pure (if b then some v else none)).watched
    rw [Run.mapEvents_bind, Run.watched_bind, c.watched_holds]
    rfl

/-- A guard may compare a view with a literal, or a condition may. -/
theorem watched_select?_equals (shown label : String) (narrow : Callback σ ν In (Option View))
    (same : Callback σ ν (View × View) Bool) (literal : View) (x : In) :
    ((equals shown narrow same literal).select? none x).watched
      = ((exact label narrow).select? (some (.test (.equalTo same literal))) x).watched := by
  rw [select?_none, view?, Run.watched_bind, select?, view?, Run.watched_bind]
  congr 1
  funext v?
  cases v? with
  | none => rfl
  | some v =>
    show (same.call .compare (v, literal) >>= fun b => pure (if b then some v else none)).watched
      = ((Callback.equalTo same literal).call .condition v
        >>= fun b => pure (if b then some v else none)).watched
    rw [Run.watched_bind, Run.watched_bind, Callback.watched_call, Callback.watched_call]
    rfl

/-- A guard may test the whole input, or a condition may. -/
theorem watched_select?_whole (label : String) (test : Callback σ ν In Bool) (x : In) :
    ((whole label test).select? none x).watched
      = (any.select? (some (.test test)) x).watched := by
  rw [select?_none, view?, select?, view?_any, pure_bind]
  show (test.call .guard x >>= fun b => pure (if b then some x else none)).watched
    = (test.call .condition x >>= fun b => pure (if b then some x else none)).watched
  rw [Run.watched_bind, Run.watched_bind, Callback.watched_call, Callback.watched_call]

end Guard

/-! ## Rules with a check in the guard or behind it -/

namespace Rule

/-- A rule is never the first of a list that counts as a catch-all. -/
def NeverCatchesAll (r : Rule σ ν In Out E) : Prop :=
  ∀ (front behind : List (Rule σ ν In Out E)) (settings : Settings),
    Draft.catchAll? ⟨front ++ r :: behind, settings⟩ ≠ some front.length

/-- A rule that does not count as a catch-all does not count as one in any list. -/
theorem neverCatchesAll_of_isCatchAll_eq_false {r : Rule σ ν In Out E} (h : r.isCatchAll = false) :
    r.NeverCatchesAll := by
  intro front behind settings hplace
  obtain ⟨r', hr', htakes⟩ := (Draft.catchAll?_eq_some_iff.mp hplace).takesAll
  have hself : (front ++ r :: behind)[front.length]? = some r := by
    rw [List.getElem?_append_right (Nat.le_refl _), Nat.sub_self]
    rfl
  obtain rfl := Option.some.inj (hself.symm.trans hr')
  rw [Rule.isCatchAll_iff.mpr htakes] at h
  cases h

end Rule

/-- A check may move from the guard of a rule to its condition and back, in every list of rules and
whatever the functions do.  A guard that keeps what a condition holds of may be interchanged with
the condition behind the guard.  A guard that compares with a literal, or that tests the whole
input, and the comparison or the test behind a guard that does not may stand for each other up to
the name of the rule.  None of these rules ever counts as a catch-all. -/
theorem checks_may_move :
    (∀ {View : Type} (label : String) (find : Callback σ ν In (Option View))
      (c : Condition σ ν View) (a : Action σ ν View E Out),
      (⟨.structural label (find.keeping c), none, a⟩ : Rule σ ν In Out E).Interchanges
        ⟨.structural label find, some c, a⟩
      ∧ (⟨.structural label (find.keeping c), none, a⟩ : Rule σ ν In Out E).NeverCatchesAll
      ∧ (⟨.structural label find, some c, a⟩ : Rule σ ν In Out E).NeverCatchesAll)
    ∧ (∀ {View : Type} (shown label : String) (narrow : Callback σ ν In (Option View))
      (same : Callback σ ν (View × View) Bool) (literal : View) (a : Action σ ν View E Out),
      ((⟨.exact label narrow, some (.test (.equalTo same literal)), a⟩ :
          Rule σ ν In Out E).StandsFor ⟨.equals shown narrow same literal, none, a⟩
        ∧ (⟨.equals shown narrow same literal, none, a⟩ : Rule σ ν In Out E).StandsFor
          ⟨.exact label narrow, some (.test (.equalTo same literal)), a⟩)
      ∧ (⟨.equals shown narrow same literal, none, a⟩ : Rule σ ν In Out E).NeverCatchesAll
      ∧ (⟨.exact label narrow, some (.test (.equalTo same literal)), a⟩ :
        Rule σ ν In Out E).NeverCatchesAll)
    ∧ ∀ (label : String) (test : Callback σ ν In Bool) (a : Action σ ν In E Out),
      ((⟨.any, some (.test test), a⟩ : Rule σ ν In Out E).StandsFor ⟨.whole label test, none, a⟩
        ∧ (⟨.whole label test, none, a⟩ : Rule σ ν In Out E).StandsFor
          ⟨.any, some (.test test), a⟩)
      ∧ (⟨.whole label test, none, a⟩ : Rule σ ν In Out E).NeverCatchesAll
      ∧ (⟨.any, some (.test test), a⟩ : Rule σ ν In Out E).NeverCatchesAll := by
  -- in each form the two rules select the same views, and neither counts as a catch-all
  refine ⟨fun label find c a => ?_, fun shown label narrow same literal a => ?_,
    fun label test a => ?_⟩
  · have hlooks := Rule.looksLike_of_select? (Guard.watched_select?_keeping label find c) rfl a
    exact ⟨hlooks.interchanges rfl, Rule.neverCatchesAll_of_isCatchAll_eq_false rfl,
      Rule.neverCatchesAll_of_isCatchAll_eq_false rfl⟩
  · have hlooks := Rule.looksLike_of_select?
      (Guard.watched_select?_equals shown label narrow same literal) rfl a
    exact ⟨⟨hlooks.standsFor, hlooks.symm.standsFor⟩,
      Rule.neverCatchesAll_of_isCatchAll_eq_false rfl,
      Rule.neverCatchesAll_of_isCatchAll_eq_false rfl⟩
  · have hlooks := Rule.looksLike_of_select? (Guard.watched_select?_whole label test) rfl a
    exact ⟨⟨hlooks.standsFor, hlooks.symm.standsFor⟩,
      Rule.neverCatchesAll_of_isCatchAll_eq_false rfl,
      Rule.neverCatchesAll_of_isCatchAll_eq_false rfl⟩

end FirstMatch
