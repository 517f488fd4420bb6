/-
# Tests in conjunction

A condition is a tree of tests, but only the list of its leaves matters: they are asked from left to
right about one value, up to the first that does not hold or panics (`Condition.InOrder`).  So
conditions with the same leaves do the same, however their trees are built, and what stands behind a
test that does not hold is not asked and keeps its state.
-/
import FirstMatch.Proofs.Provenance
import FirstMatch.Proofs.Replacement

namespace FirstMatch

variable {σ ν α In Out E View : Type}

/-- Runs that follow one protocol are equal. -/
theorem Run.Follows.unique {x y : Run σ (Event ν) α} {P : Protocol σ ν α} (hx : x.Follows P)
    (hy : y.Follows P) : x = y := by
  ext s
  rcases hs : y s with ⟨o, events, t⟩
  exact (hx s o events t).mpr ((hy s o events t).mp hs)

/-- What none of the functions that are called changes is kept. -/
theorem Transcript.Happens.keeps {τ : Type} {get : σ → τ} {s t : σ} {calls : Transcript σ ν}
    {events : List (Event ν)} (h : Happens s calls events t)
    (hkeep : ∀ c ∈ calls, ∀ u, get (c.function.body c.argument u).state = get u) :
    get t = get s := by
  induction h with
  | nil s => rfl
  | @cons c calls events events' s t u hc _ ih =>
    have hstate : (c.function.body c.argument s).state = t := congrArg Ending.state hc
    rw [ih fun c' hc' => hkeep c' (List.mem_cons_of_mem _ hc'), ← hstate,
      hkeep c List.mem_cons_self]

namespace Condition

/-! ## Tests in order -/

/-- A test that was asked about a value and held. -/
def held (v : View) (f : Callback σ ν View Bool) : Exchange σ ν := ⟨.condition, f, v, .done true⟩

/-- Tests asked in order about a value: all of them hold, or some do and the next one does not. -/
inductive InOrder (v : View) : List (Callback σ ν View Bool) → Protocol σ ν Bool
  | all (tests : List (Callback σ ν View Bool)) :
    InOrder v tests (tests.map (held v)) (.done true)
  | upTo (passed : List (Callback σ ν View Bool)) (f : Callback σ ν View Bool)
    (others : List (Callback σ ν View Bool)) {o : Outcome Bool} : o ≠ .done true →
    InOrder v (passed ++ f :: others) (passed.map (held v) ++ [⟨.condition, f, v, o⟩]) o

variable {v : View} {c c' : Condition σ ν View} {calls : Transcript σ ν} {o : Outcome Bool}

/-- A condition asks its tests in order. -/
theorem Judges.inOrder (h : Judges v c calls o) : InOrder v c.tests calls o := by
  induction h with
  | test f o =>
    by_cases ho : o = .done true
    · subst ho
      exact .all [f]
    · exact .upTo [] f [] ho
  | @stop first second calls o _ ho ih =>
    -- the second condition is not asked: its tests are among the others
    rw [tests]
    generalize first.tests = front at ih
    cases ih with
    | all => exact absurd rfl ho
    | upTo passed f others =>
      rw [List.append_assoc, List.cons_append]
      exact .upTo passed f _ ho
  | @next first second calls rest o hfirst _ _ ih =>
    -- all tests of the first condition have held, and stand before those of the second
    rw [hfirst.of_true, tests]
    generalize second.tests = behind at ih
    show InOrder v _ (first.tests.map (held v) ++ rest) o
    cases ih with
    | all =>
      rw [← List.map_append]
      exact .all _
    | upTo passed f others ho =>
      rw [← List.append_assoc, ← List.append_assoc, ← List.map_append]
      exact .upTo _ f others ho

/-- Tests that are asked in order are what a condition asks that is made of them. -/
theorem judges_of_inOrder (h : InOrder v c.tests calls o) : Judges v c calls o := by
  induction c generalizing calls o with
  | test f =>
    rw [tests] at h
    generalize htests : [f] = tests at h
    cases h with
    | all =>
      subst htests
      exact .test f (.done true)
    | upTo passed f' others ho =>
      obtain ⟨rfl, rfl, rfl⟩ : passed = [] ∧ f' = f ∧ others = [] := by
        cases passed with
        | nil => simpa [eq_comm] using htests
        | cons g passed => simp at htests
      exact .test f' o
  | both first second ih ih' =>
    rw [tests] at h
    generalize htests : first.tests ++ second.tests = tests at h
    cases h with
    | all =>
      rw [← htests, List.map_append]
      exact .next (ih (.all _)) (ih' (.all _))
    -- the test that does not hold is one of the first condition or one of the second
    | upTo passed f others ho =>
      obtain ⟨middle, rfl, hsecond⟩ | ⟨middle, hfirst, rfl⟩ := append_eq_append_cons htests
      · rw [List.map_append, List.append_assoc]
        exact .next (ih (.all _)) (ih' (hsecond ▸ .upTo middle f others ho))
      · exact .stop (ih (hfirst ▸ .upTo passed f middle ho)) ho

/-- A condition asks its tests in order, and does nothing else. -/
theorem follows_inOrder (c : Condition σ ν View) (v : View) :
    (c.holds v).Follows (InOrder v c.tests) :=
  (c.follows_holds v).congr fun _ _ => ⟨Judges.inOrder, judges_of_inOrder⟩

variable {s t : σ} {events : List (Event ν)}

/-- A condition holds if all of its tests were asked and held. -/
theorem holds_eq_true_iff : c.holds v s = ⟨.done true, events, t⟩ ↔
    Transcript.Happens s (c.tests.map (held v)) events t := by
  rw [c.follows_inOrder v s]
  constructor
  · rintro ⟨calls, h, hcalled⟩
    generalize c.tests = tests at h ⊢
    cases h with
    | all => exact hcalled
    | upTo _ _ _ ho => exact absurd rfl ho
  · exact fun hcalled => ⟨_, .all _, hcalled⟩

/-- A condition does not hold, or panics, if one of its tests does, and all before it have held. -/
theorem holds_eq_iff_of_ne (ho : o ≠ .done true) : c.holds v s = ⟨o, events, t⟩ ↔
    ∃ passed f others, c.tests = passed ++ f :: others
      ∧ Transcript.Happens s (passed.map (held v) ++ [⟨.condition, f, v, o⟩]) events t := by
  rw [c.follows_inOrder v s]
  constructor
  · rintro ⟨calls, h, hcalled⟩
    generalize c.tests = tests at h ⊢
    cases h with
    | all => exact absurd rfl ho
    | upTo passed f others => exact ⟨passed, f, others, rfl, hcalled⟩
  · rintro ⟨passed, f, others, htests, hcalled⟩
    exact ⟨_, htests ▸ .upTo passed f others ho, hcalled⟩

/-! ## Conditions with the same tests -/

/-- Only the tests of a condition matter, and not how they are put together. -/
theorem holds_eq_of_tests_eq (h : c.tests = c'.tests) : c.holds = c'.holds := by
  funext v
  have hc := c.follows_inOrder v
  rw [h] at hc
  exact hc.unique (c'.follows_inOrder v)

/-- Rules with the same tests, however these are put together, do the same. -/
theorem actsLike_of_tests_eq (h : c.tests = c'.tests) (g : Guard σ ν In View)
    (a : Action σ ν View E Out) :
    (⟨g, some c, a⟩ : Rule σ ν In Out E).ActsLike ⟨g, some c', a⟩ := by
  refine Rule.actsLike_of_select? (fun x => ?_) a
  rw [Guard.select?, Guard.select?]
  simp only [Guard.admits_some, holds_eq_of_tests_eq h]

/-- How the tests of a condition are asked for a view, from a state. -/
structure TestsInOrder (c : Condition σ ν View) (v : View) (s : σ) : Prop where
  /-- A condition holds exactly if all of its tests hold, asked one after the other. -/
  holds_iff (events : List (Event ν)) (t : σ) : c.holds v s = ⟨.done true, events, t⟩ ↔
    Transcript.Happens s (c.tests.map (held v)) events t
  /-- It ends in another way exactly if a test does and those before it hold. -/
  ends_iff (o : Outcome Bool) (events : List (Event ν)) (t : σ) (ho : o ≠ .done true) :
    c.holds v s = ⟨o, events, t⟩ ↔ ∃ passed f others, c.tests = passed ++ f :: others
      ∧ Transcript.Happens s (passed.map (held v) ++ [⟨.condition, f, v, o⟩]) events t
  /-- Three conditions may be grouped in either way. -/
  assoc (c' c'' : Condition σ ν View) :
    (both (both c c') c'').holds = (both c (both c' c'')).holds
  /-- A condition with the same tests may take the place of this one in any rule of any list. -/
  same_tests (c' : Condition σ ν View) (h : c.tests = c'.tests) : c.holds = c'.holds
    ∧ ∀ {In Out E : Type} (g : Guard σ ν In View) (a : Action σ ν View E Out),
      (⟨g, some c, a⟩ : Rule σ ν In Out E).Interchanges ⟨g, some c', a⟩
      ∧ ∀ (front behind : List (Rule σ ν In Out E)) (log : Bool),
        Dispatcher.Alike ⟨front ++ ⟨g, some c', a⟩ :: behind, log⟩
          ⟨front ++ ⟨g, some c, a⟩ :: behind, log⟩
  /-- What stands behind a test that does not hold makes no difference, and a part of the state that
  no test up to this one changes is kept. -/
  others_unread (passed : List (Callback σ ν View Bool)) (f : Callback σ ν View Bool)
      (others : List (Callback σ ν View Bool)) (o : Outcome Bool) (events : List (Event ν)) (t : σ)
      (htests : c.tests = passed ++ f :: others) (ho : o ≠ .done true)
      (hcalled : Transcript.Happens s (passed.map (held v) ++ [⟨.condition, f, v, o⟩]) events t) :
    (∀ (c' : Condition σ ν View) (others' : List (Callback σ ν View Bool)),
      c'.tests = passed ++ f :: others' → c'.holds v s = c.holds v s)
    ∧ ∀ {τ : Type} (get : σ → τ), (∀ g ∈ passed ++ [f], ∀ u, get (g.body v u).state = get u) →
      get (c.holds v s).state = get s

/-- A condition asks its tests from left to right about one value, each place of the list at most
once: it holds exactly if all of them were asked and held, and it ends otherwise exactly if some
were asked and held and the next one ended so.  So a conjunction is associative, and conditions with
the same tests may be put in place of each other in any rule of any list.  What stands behind a test
that did not hold or panicked does not matter, and what the tests up to that one leave alone is
kept. -/
theorem tests_in_order (c : Condition σ ν View) (v : View) (s : σ) : c.TestsInOrder v s where
  holds_iff events t := holds_eq_true_iff
  ends_iff o events t ho := holds_eq_iff_of_ne ho
  assoc c' c'' := holds_eq_of_tests_eq (List.append_assoc ..)
  same_tests c' h := by
    refine ⟨holds_eq_of_tests_eq h, fun {In Out E} g a => ?_⟩
    have hacts : (⟨g, some c, a⟩ : Rule σ ν In Out E).ActsLike ⟨g, some c', a⟩ :=
      actsLike_of_tests_eq h g a
    exact ⟨(hacts.looksLike rfl).interchanges rfl, Dispatcher.alike_replace hacts rfl⟩
  others_unread passed f others o events t htests ho hcalled := by
    have hends : c.holds v s = ⟨o, events, t⟩ :=
      (holds_eq_iff_of_ne ho).mpr ⟨passed, f, others, htests, hcalled⟩
    rw [hends]
    refine ⟨fun c' others' htests' => ?_, fun get hkeep => hcalled.keeps fun e he u => ?_⟩
    · exact (holds_eq_iff_of_ne ho).mpr ⟨passed, f, others', htests', hcalled⟩
    · rcases List.mem_append.mp he with he | he
      · obtain ⟨g, hg, rfl⟩ := List.mem_map.mp he
        exact hkeep g (List.mem_append_left _ hg) u
      · obtain rfl := List.mem_singleton.mp he
        exact hkeep f (List.mem_append_right _ List.mem_cons_self) u

namespace Sample

/-- A test that holds at every second call, from the second on; it counts its calls in the first
cell of the state and notes the count. -/
def first : Callback (Nat × Nat) Nat Nat Bool where
  shows _ := none
  body _ n := ⟨.done (n.1 % 2 == 1), [n.1], (n.1 + 1, n.2)⟩

/-- A test that panics at its first call and holds later; it counts its calls in the second cell. -/
def second : Callback (Nat × Nat) Nat Nat Bool where
  shows _ := none
  body _ n := ⟨if n.2 = 0 then .panic "early" else .done true, [n.2], (n.1, n.2 + 1)⟩

/-- The one test, the other, and the first again. -/
def thrice : Condition (Nat × Nat) Nat Nat :=
  .both (.both (.test first) (.test second)) (.test first)

end Sample

open Sample (first second thrice) in
/-- In the sample the first test does not hold when it is asked for the first time; then the second
is not asked and keeps its count, and might as well be missing.  Asked for the second time it holds,
and the second test panics. -/
theorem tests_in_order_thrice :
    thrice.holds 7 (0, 0) = ⟨.done false, [.call .condition none, .note 0], (1, 0)⟩
    ∧ (thrice.holds 7 (0, 0)).state.2 = 0
    ∧ (test first).holds 7 (0, 0) = thrice.holds 7 (0, 0)
    ∧ (∃ passed f others, thrice.tests = passed ++ f :: others
      ∧ Transcript.Happens (1, 0) (passed.map (held 7) ++ [⟨.condition, f, 7, .panic "early"⟩])
        [.call .condition none, .note 1, .call .condition none, .note 0] (2, 1))
    ∧ thrice.holds = (both (test first) (both (test second) (test first))).holds := by
  have hcalled : Transcript.Happens (0, 0) [⟨.condition, first, 7, .done false⟩]
      [.call .condition none, .note 0] (1, 0) := Transcript.happens_singleton_iff.mpr rfl
  have horder := tests_in_order thrice 7 (0, 0)
  obtain ⟨hmissing, hkept⟩ :=
    horder.others_unread [] first [second, first] (.done false) _ _ rfl (by simp) hcalled
  have hkeeps : ∀ g ∈ [first], ∀ u, (g.body 7 u).state.2 = u.2 := by
    intro g hg u
    rw [List.mem_singleton.mp hg]
    rfl
  exact ⟨rfl, hkept Prod.snd hkeeps, hmissing (test first) [] rfl,
    ((tests_in_order thrice 7 (1, 0)).ends_iff (.panic "early") _ _ (by simp)).mp rfl,
    (horder.same_tests (both (test first) (both (test second) (test first))) rfl).1⟩

end Condition

end FirstMatch
