/-
# Shadowed rules

A rule is shadowed if every input that it takes is taken by some rule before it; which one that is
may differ from input to input (`Dispatcher.Shadowed`).  Among stateless rules such a rule never
leads: either one before it does, or none of these takes the input, and then it does not either.  So
it may be removed, and the rules that lead are the same as before (`Dispatcher.agree_without`).

A second copy of a dispatcher behind the first consists of shadowed rules.  It makes no difference,
whatever its actions are, but that an input which no rule takes is tried twice
(`Dispatcher.agree_orElse`).
-/
import Mathlib.Data.List.Forall2
import FirstMatch.Proofs.Queries
import FirstMatch.Proofs.Stateless

namespace FirstMatch

variable {σ ν In Out E : Type}

/-- The second rule is the first one, perhaps with another action. -/
def Rule.AsksAs (r r' : Rule σ ν In Out E) : Prop :=
  ∃ a : Action σ ν r.View E Out, r' = { r with action := a }

/-- A rule asks as it does itself. -/
theorem Rule.AsksAs.refl (r : Rule σ ν In Out E) : r.AsksAs r := ⟨r.action, rfl⟩

/-- Rules that differ in their actions only miss the same inputs. -/
theorem Rule.AsksAs.settles_none {r r' : Rule σ ν In Out E} (h : r.AsksAs r') {x : In}
    (hr : (r.select? x).Settles none) : (r'.select? x).Settles none := by
  obtain ⟨a, rfl⟩ := h
  exact hr

namespace Dispatcher

/-- Every input that the rule at the place `k` takes is taken by a rule before that place. -/
def Shadowed (d : Dispatcher σ ν In Out E) (k : Nat) : Prop :=
  ∀ r, d.rules[k]? = some r → ∀ x, r.Takes x → ∃ j < k, ∃ r', d.rules[j]? = some r' ∧ r'.Takes x

/-- The dispatcher with the rule at the place `k` removed. -/
def without (d : Dispatcher σ ν In Out E) (k : Nat) : Dispatcher σ ν In Out E :=
  ⟨d.rules.eraseIdx k, d.logUnhandled⟩

/-- Where a place is once the place `k` is removed. -/
def closeGap (k i : Nat) : Nat := if k < i then i - 1 else i

/-- The dispatchers have the same guards and conditions at the same places. -/
def AsksAs (d e : Dispatcher σ ν In Out E) : Prop :=
  List.Forall₂ Rule.AsksAs d.rules e.rules ∧ e.logUnhandled = d.logUnhandled

/-- A dispatcher asks as it does itself. -/
theorem AsksAs.refl (d : Dispatcher σ ν In Out E) : d.AsksAs d :=
  ⟨List.forall₂_same.mpr fun r _ => Rule.AsksAs.refl r, rfl⟩

variable {d e : Dispatcher σ ν In Out E} {k : Nat} {r : Rule σ ν In Out E} {x : In}

/-! ## Removing a rule -/

/-- If the rules before a shadowed one miss an input, then so does the shadowed one. -/
theorem Shadowed.settles_none (hk : d.Shadowed k) (hd : d.Stateless) (hr : d.rules[k]? = some r)
    (hmisses : Misses x (d.rules.take k)) : (r.select? x).Settles none := by
  refine (hd r (List.mem_of_getElem? hr)).settles_none fun htakes => ?_
  obtain ⟨j, hj, r', hr', htakes'⟩ := hk r hr x htakes
  have hmem : r' ∈ d.rules.take k := by
    refine List.mem_of_getElem? (i := j) ?_
    rw [List.getElem?_take_of_lt hj, hr']
  exact Rule.not_takes_of_settles (hmisses r' hmem) htakes'

/-- The same rule leads with and without a shadowed one. -/
theorem agree_without (hd : d.Stateless) (hr : d.rules[k]? = some r) (hk : d.Shadowed k) (x : In) :
    Agree (closeGap k) x d.rules (d.without k).rules := by
  obtain ⟨hlt, hget⟩ := List.getElem?_eq_some_iff.mp hr
  have hlength : (d.rules.take k).length = k := List.length_take_of_le (Nat.le_of_lt hlt)
  have hrules : d.rules = d.rules.take k ++ r :: d.rules.drop (k + 1) := by
    rw [← hget, List.getElem_cons_drop, List.take_append_drop]
  have hwithout : (d.without k).rules = d.rules.take k ++ d.rules.drop (k + 1) :=
    List.eraseIdx_eq_take_drop_succ d.rules k
  have htake : ∀ r' ∈ d.rules.take k, r'.Stateless := fun r' hr' => hd r' (List.mem_of_mem_take hr')
  have hdrop : ∀ r' ∈ d.rules.drop (k + 1), r'.Stateless :=
    fun r' hr' => hd r' (List.mem_of_mem_drop hr')
  obtain hmisses | ⟨front, lead, behind, v, hfront, hleads⟩ := exists_leads htake x
  -- none before the shadowed rule takes the input, so that one does not, and it is up to the rest
  · have hnone : (r.select? x).Settles none := hk.settles_none hd hr hmisses
    have hfirst : Misses x (d.rules.take k ++ [r]) :=
      List.forall_mem_append.mpr ⟨hmisses, List.forall_mem_singleton.mpr hnone⟩
    obtain hmisses' | ⟨front, lead, behind, v, hbehind, hleads⟩ := exists_leads hdrop x
    · refine .missed ?_ ?_
      · rw [hrules, List.append_cons]
        exact List.forall_mem_append.mpr ⟨hfirst, hmisses'⟩
      · rw [hwithout]
        exact List.forall_mem_append.mpr ⟨hmisses, hmisses'⟩
    · have hbefore : Misses x (d.rules.take k ++ [r] ++ front) :=
        List.forall_mem_append.mpr ⟨hfirst, hleads.misses⟩
      have hbefore' : Misses x (d.rules.take k ++ front) :=
        List.forall_mem_append.mpr ⟨hmisses, hleads.misses⟩
      have hsplit : d.rules = (d.rules.take k ++ [r] ++ front) ++ lead :: behind := by
        rw [List.append_assoc, ← hbehind, ← List.append_cons]
        exact hrules
      have hsplit' : (d.without k).rules = (d.rules.take k ++ front) ++ lead :: behind := by
        rw [List.append_assoc, ← hbehind]
        exact hwithout
      refine .led hsplit hsplit' ⟨hbefore, hleads.takes⟩ ⟨hbefore', hleads.takes⟩ ?_
      rw [List.length_append, List.length_append, List.length_append, hlength,
        List.length_singleton, closeGap, if_pos (by omega)]
      omega
  -- a rule before the shadowed one leads, in both
  · have hshort : front.length < k := by
      rw [← hlength, hfront, List.length_append, List.length_cons]
      omega
    have hsplit : d.rules = front ++ lead :: (behind ++ r :: d.rules.drop (k + 1)) := by
      rw [← List.cons_append, ← List.append_assoc, ← hfront]
      exact hrules
    have hsplit' : (d.without k).rules = front ++ lead :: (behind ++ d.rules.drop (k + 1)) := by
      rw [← List.cons_append, ← List.append_assoc, ← hfront]
      exact hwithout
    exact .led hsplit hsplit' hleads hleads (if_neg (by omega))

/-- Without one of its rules a dispatcher has one less. -/
theorem size_without (hlt : k < d.size) : (d.without k).size = d.size - 1 :=
  List.length_eraseIdx_of_lt hlt

/-! ## A second copy -/

/-- Rules that ask alike miss the same inputs. -/
theorem Misses.of_asksAs {rules rules' : List (Rule σ ν In Out E)}
    (h : List.Forall₂ Rule.AsksAs rules rules') (hmisses : Misses x rules) : Misses x rules' := by
  induction h with
  | nil => exact hmisses
  | cons hasks _ ih =>
    obtain ⟨hr, hrules⟩ := List.forall_mem_cons.mp hmisses
    exact List.forall_mem_cons.mpr ⟨hasks.settles_none hr, ih hrules⟩

/-- The same rule leads with and without a copy behind a dispatcher, whatever the actions of the
copy are. -/
theorem agree_orElse (hd : d.Stateless) (he : d.AsksAs e) (x : In) :
    Agree id x d.rules (d.orElse e).rules := by
  obtain hmisses | ⟨front, lead, behind, v, hrules, hleads⟩ := exists_leads hd x
  · exact .missed hmisses (List.forall_mem_append.mpr ⟨hmisses, hmisses.of_asksAs he.1⟩)
  · have hboth : (d.orElse e).rules = front ++ lead :: (behind ++ e.rules) := by
      rw [orElse, hrules, List.append_assoc, List.cons_append]
    exact .led hrules hboth hleads hleads rfl

/-- With a second copy behind it a dispatcher has twice the number of rules. -/
theorem AsksAs.size_orElse (he : d.AsksAs e) : (d.orElse e).size = 2 * d.size := by
  have hsize : d.size = e.size := he.1.length_eq
  rw [Dispatcher.size_orElse, ← hsize, Nat.two_mul]

/-- With a second copy behind it a dispatcher logs unhandled input as before. -/
theorem AsksAs.logUnhandled_orElse (he : d.AsksAs e) :
    (d.orElse e).logUnhandled = d.logUnhandled := by
  rw [orElse, he.2, Bool.or_self]

/-- A shadowed rule of a stateless dispatcher may be removed: each use has the same outcome, makes
the same calls of actions, maps and fallbacks, and leaves the same state; the places of the rules
behind it and the number of rules drop by one.  A second copy behind a stateless dispatcher makes no
difference, whatever its actions are, but that the number of rules doubles: where the dispatcher
itself answers or panics nothing changes at all, and an input that no rule takes fails with twice
the number of rules. -/
theorem shadowed_rules_removable (d : Dispatcher σ ν In Out E) (hd : d.Stateless) :
    (∀ k < d.size, d.Shadowed k → AnswersAs (closeGap k) (· - 1) d (d.without k))
    ∧ (∀ e, d.AsksAs e → AnswersAs id (2 * ·) d (d.orElse e))
    ∧ (∀ e, d.AsksAs e → ∀ x s, (d.dispatch? x s).outcome ≠ .done none →
      (d.orElse e).dispatch? x s = d.dispatch? x s)
    ∧ ∀ x s, (d.dispatch? x s).outcome = .done none →
      ((d.orElse d).dispatch x s).outcome = .done (.error (.noMatch ⟨2 * d.size⟩)) := by
  refine ⟨fun k hlt hk => ?_, fun e he => ?_, fun e _ x s hne => ?_, fun x s hnone => ?_⟩
  · have hr : d.rules[k]? = some d.rules[k] := List.getElem?_eq_getElem hlt
    exact .of_agree (agree_without hd hr hk) (size_without hlt) rfl
  · exact .of_agree (agree_orElse hd he) he.size_orElse he.logUnhandled_orElse
  · exact dispatch?_orElse_of_ne_none hne e
  · have hcopy : d.AsksAs d := .refl d
    have hsize : NoMatch.mk (2 * d.size) = ⟨(d.orElse d).size⟩ := by rw [hcopy.size_orElse]
    obtain ⟨o, _, _, _, hdispatch, hdispatch', -⟩ :=
      (agree_orElse hd hcopy x).dispatch? hcopy.size_orElse hcopy.logUnhandled_orElse s
    obtain rfl : o = .done none := by rw [← hnone, hdispatch]
    exact dispatch_eq_noMatch_iff.mpr ⟨hsize, by rw [hdispatch']; rfl⟩

namespace Sample

/-- Numbers that a test without effects holds of, as the next output. -/
def passing (test : Nat → Bool) : Rule Nat Nat Nat Nat String :=
  .answering (.whole "passing" (.silent test)) climb

/-- Takes multiples of two and multiples of three, each by a rule of its own.  The rule behind them
takes multiples of four and of nine. -/
def sieve : Dispatcher Nat Nat Nat Nat String :=
  ⟨[passing (· % 2 == 0), passing (· % 3 == 0), passing fun x => x % 4 == 0 || x % 9 == 0], true⟩

/-- A rule of the sample goes by its test. -/
theorem settles_passing (test : Nat → Bool) (x : Nat) :
    ((passing test).guard.view? x).Settles (if test x then some x else none) :=
  fun _ => ⟨[.call .guard none], rfl⟩

/-- A rule of the sample takes the numbers that its test holds of. -/
theorem takes_passing_iff (test : Nat → Bool) (x : Nat) :
    (passing test).Takes x ↔ test x = true := by
  have hselect : ((passing test).select? x).Settles (if test x then some x else none) := by
    have h := settles_passing test x
    cases htest : test x with
    | false =>
      rw [htest] at h
      exact h.bind (.pure none)
    | true =>
      rw [htest] at h
      exact h.bind ((Run.Settles.pure true).bind (.pure (some x)))
  cases htest : test x with
  | false =>
    rw [htest] at hselect
    simpa using Rule.not_takes_of_settles hselect
  | true =>
    rw [htest] at hselect
    simpa using Rule.takes_of_settles hselect 0

/-- The sample goes by its input alone. -/
theorem stateless_sieve : sieve.Stateless := by
  have hpassing : ∀ test, (passing test).Stateless := by
    intro test
    have hnone : ∀ c, (passing test).condition ≠ some c := fun c => by
      simp [passing, Rule.answering]
    exact ⟨fun x => ⟨_, settles_passing test x⟩, fun c hc => absurd hc (hnone c)⟩
  intro r hr
  simp only [sieve, List.mem_cons, List.not_mem_nil, or_false] at hr
  rcases hr with rfl | rfl | rfl <;> exact hpassing _

/-- The last rule of the sample is shadowed by the other two together. -/
theorem shadowed_sieve : sieve.Shadowed 2 := by
  intro r hr x htakes
  obtain rfl := Option.some.inj hr
  rw [takes_passing_iff, Bool.or_eq_true, beq_iff_eq, beq_iff_eq] at htakes
  rcases htakes with hfour | hnine
  · exact ⟨0, by omega, _, rfl, (takes_passing_iff _ x).mpr (beq_iff_eq.mpr (by omega))⟩
  · exact ⟨1, by omega, _, rfl, (takes_passing_iff _ x).mpr (beq_iff_eq.mpr (by omega))⟩

end Sample

/-- In the sample the last rule may be removed, which the others shadow together; and with a second
copy behind the first six rules are asked about one in vain. -/
theorem shadowed_rules_removable_sieve :
    Sample.sieve.Stateless ∧ Sample.sieve.Shadowed 2
    ∧ AnswersAs (closeGap 2) (· - 1) Sample.sieve (Sample.sieve.without 2)
    ∧ AnswersAs id (2 * ·) Sample.sieve (Sample.sieve.orElse Sample.sieve)
    ∧ (Sample.sieve.orElse Sample.sieve).dispatch? 9 0 = Sample.sieve.dispatch? 9 0
    ∧ ((Sample.sieve.orElse Sample.sieve).dispatch 1 0).outcome
      = .done (.error (.noMatch ⟨6⟩)) := by
  obtain ⟨hwithout, hcopy, hsome, hnone⟩ :=
    shadowed_rules_removable Sample.sieve Sample.stateless_sieve
  have htaken : (Sample.sieve.dispatch? 9 0).outcome ≠ .done none := by
    have hrun : (Sample.sieve.dispatch? 9 0).outcome = .done (some (.ok 9)) := rfl
    simp [hrun]
  exact ⟨Sample.stateless_sieve, Sample.shadowed_sieve,
    hwithout 2 (by decide) Sample.shadowed_sieve, hcopy _ (.refl _),
    hsome _ (.refl _) 9 0 htaken, hnone 1 0 rfl⟩

end Dispatcher

end FirstMatch
