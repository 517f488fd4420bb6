/-
# Rules in another order

The first rule that takes an input answers, so the order of rules matters; but not if no input is
taken by two of them (`Rule.Disjoint`).  Of stateless rules that are pairwise disjoint the one that
takes an input leads wherever it stands, since all others miss the input
(`Dispatcher.agree_of_perm`).  So in another order the same actions are called on the same views,
and only the rules that are asked before, and the places that are logged, may be others
(`Dispatcher.Reorders`).

A rule that sees its input as a value of some kind takes inputs of this kind only (`Rule.OfKind`),
and an input holds a value of one kind at most.  So rules for different kinds are disjoint.
-/
import Mathlib.Data.List.Forall2
import Mathlib.Logic.Equiv.Basic
import FirstMatch.Domain
import FirstMatch.Proofs.Queries
import FirstMatch.Proofs.Stateless

namespace FirstMatch

variable {σ ν In Out E View : Type}

/-! ## Places in another order -/

/-- The places of a list whose first element stays where it is. -/
def behindFirst (place : Nat → Nat) : Nat → Nat
  | 0 => 0
  | i + 1 => place i + 1

/-- In another order every element of a list has a place of its own. -/
theorem exists_place_of_perm.{u} {α : Type u} {l l' : List α} (h : l.Perm l') :
    ∃ place : Nat → Nat, place.Injective ∧ ∀ i, l'[place i]? = l[i]? := by
  -- along the permutation: a new first element stays first, and neighbours trade their places
  induction h with
  | nil => exact ⟨id, Function.injective_id, fun _ => rfl⟩
  | cons a _ ih =>
    obtain ⟨place, hinjective, hplace⟩ := ih
    refine ⟨behindFirst place, ?_, ?_⟩
    · rintro (_ | i) (_ | j) hij
      · rfl
      · exact absurd hij (Nat.succ_ne_zero _).symm
      · exact absurd hij (Nat.succ_ne_zero _)
      · exact congrArg Nat.succ (hinjective (Nat.succ.inj hij))
    · rintro (_ | i)
      · rfl
      · exact hplace i
  | swap a b l =>
    refine ⟨Equiv.swap 0 1, Equiv.injective _, ?_⟩
    rintro (_ | _ | i)
    · rw [Equiv.swap_apply_left]
      rfl
    · rw [Equiv.swap_apply_right]
      rfl
    · rw [Equiv.swap_apply_of_ne_of_ne (by omega) (by omega)]
      rfl
  | trans _ _ ih ih' =>
    obtain ⟨place, hinjective, hplace⟩ := ih
    obtain ⟨place', hinjective', hplace'⟩ := ih'
    refine ⟨place' ∘ place, hinjective'.comp hinjective, fun i => ?_⟩
    exact (hplace' (place i)).trans (hplace i)

/-! ## Disjoint rules -/

/-- No input is taken by both rules. -/
def Rule.Disjoint (r r' : Rule σ ν In Out E) : Prop := ∀ x, ¬ (r.Takes x ∧ r'.Takes x)

/-- Of two disjoint rules each is disjoint from the other. -/
theorem Rule.Disjoint.symm {r r' : Rule σ ν In Out E} (h : r.Disjoint r') : r'.Disjoint r :=
  fun x hx => h x hx.symm

namespace Dispatcher

/-- What two dispatchers ask about an input to say whether they accept it: each of them asks its
rules in its own order, either all of them, or those up to a rule that both of them have. -/
inductive AskInTurn (d d' : Dispatcher σ ν In Out E) (x : In) (s : σ) : Prop
  | all : (d.accepts x s).events = asking d.rules x s →
    (d'.accepts x s).events = asking d'.rules x s → AskInTurn d d' x s
  | upTo {front front' behind behind' : List (Rule σ ν In Out E)} {r : Rule σ ν In Out E} :
    d.rules = front ++ r :: behind → d'.rules = front' ++ r :: behind' →
    (d.accepts x s).events = asking (front ++ [r]) x s →
    (d'.accepts x s).events = asking (front' ++ [r]) x s → AskInTurn d d' x s

/-- The rules of `d'` are those of `d`, each at another place, and the order makes no difference but
for these places and for the questions. -/
structure Reorders (place : Nat → Nat) (d d' : Dispatcher σ ν In Out E) : Prop where
  injective : place.Injective
  rule (i : Nat) : d'.rules[place i]? = d.rules[i]?
  answersAs : AnswersAs place id d d'
  askInTurn (x : In) (s : σ) : AskInTurn d d' x s

variable {d d' : Dispatcher σ ν In Out E} {place : Nat → Nat} {x : In}

/-- Where the same rule leads both lists are asked up to it, or both to the end. -/
theorem Agree.askInTurn (h : Agree place x d.rules d'.rules) (s : σ) : AskInTurn d d' x s := by
  cases h with
  | missed hd hd' =>
    refine .all ?_ ?_
    · rw [Dispatcher.accepts, hd.anyAccepts s]
    · rw [Dispatcher.accepts, hd'.anyAccepts s]
  | led hd hd' hleads hleads' _ =>
    refine .upTo hd hd' ?_ ?_
    · rw [Dispatcher.accepts, hd, hleads.anyAccepts _ s]
    · rw [Dispatcher.accepts, hd', hleads'.anyAccepts _ s]

/-- A rule leads over others that are disjoint from it, whatever they are. -/
theorem Leads.of_disjoint {front : List (Rule σ ν In Out E)} {r : Rule σ ν In Out E} {v : r.View}
    (hr : (r.select? x).Settles (some v)) (hfront : ∀ r' ∈ front, r'.Stateless)
    (hdisjoint : ∀ r' ∈ front, r'.Disjoint r) : Leads x front r v := by
  refine ⟨fun r' hr' s => ?_, hr⟩
  have htakes : r.Takes x := Rule.takes_of_settles hr s
  exact (hfront r' hr').settles_none (fun htakes' => hdisjoint r' hr' x ⟨htakes', htakes⟩) s

/-- Of disjoint rules the same one leads in every order. -/
theorem agree_of_perm (hd : d.Stateless) (hdisjoint : d.rules.Pairwise Rule.Disjoint)
    (hperm : d.rules.Perm d'.rules) (hplace : ∀ i, d'.rules[place i]? = d.rules[i]?) (x : In) :
    Agree place x d.rules d'.rules := by
  have hdisjoint' : d'.rules.Pairwise Rule.Disjoint :=
    (hperm.pairwise_iff Rule.Disjoint.symm).mp hdisjoint
  obtain hmisses | ⟨front, r, behind, v, hrules, hleads⟩ := exists_leads hd x
  · exact .missed hmisses fun r hr => hmisses r (hperm.mem_iff.mpr hr)
  -- the rule that leads is cut out of the other list at the place that it has there
  · have hget : d'.rules[place front.length]? = some r := by
      rw [hplace, hrules, List.getElem?_append_right (Nat.le_refl _), Nat.sub_self]
      rfl
    obtain ⟨hlt, hr⟩ := List.getElem?_eq_some_iff.mp hget
    have hrules' : d'.rules
        = d'.rules.take (place front.length) ++ r :: d'.rules.drop (place front.length + 1) := by
      rw [← hr, List.getElem_cons_drop, List.take_append_drop]
    have hstateless : ∀ r' ∈ d'.rules.take (place front.length), r'.Stateless :=
      fun r' hr' => hd r' (hperm.mem_iff.mpr (List.mem_of_mem_take hr'))
    have hfront : ∀ r' ∈ d'.rules.take (place front.length), r'.Disjoint r := by
      rw [hrules', List.pairwise_append] at hdisjoint'
      obtain ⟨-, -, hacross⟩ := hdisjoint'
      exact fun r' hr' => hacross r' hr' r List.mem_cons_self
    have hlength : place front.length = (d'.rules.take (place front.length)).length :=
      (List.length_take_of_le (Nat.le_of_lt hlt)).symm
    exact .led hrules hrules' hleads (.of_disjoint hleads.takes hstateless hfront) hlength

/-- Each permutation of pairwise disjoint stateless rules moves every rule to a place from which it
answers the same. -/
theorem exists_reorders (hd : d.Stateless) (hdisjoint : d.rules.Pairwise Rule.Disjoint)
    (hperm : d.rules.Perm d'.rules) (hlog : d'.logUnhandled = d.logUnhandled) :
    ∃ place, Reorders place d d' := by
  obtain ⟨place, hinjective, hplace⟩ := exists_place_of_perm hperm
  have hagree : ∀ x, Agree place x d.rules d'.rules := agree_of_perm hd hdisjoint hperm hplace
  have hsize : d'.size = id d.size := hperm.length_eq.symm
  exact ⟨place, hinjective, hplace, .of_agree hagree hsize hlog, fun x => (hagree x).askInTurn⟩

end Dispatcher

/-! ## Rules for kinds of values -/

variable {D : Domain}

/-- A function that sees inputs as values of the kind `k`, and no inputs that do not hold such a
value; it goes by the input alone. -/
def Callback.Narrows (k : D.Kind) (narrow : Callback σ ν D.Input (Option View)) : Prop :=
  ∀ x, ∃ v?, (narrow.body x).Settles v? ∧ (v?.isSome → ∃ a, D.content x = some ⟨k, a⟩)

/-- Looking up the value of a kind that an input holds sees no other inputs. -/
theorem Callback.narrows_narrow (D : Domain) (k : D.Kind) (shows : D.Input → Option ν) :
    (⟨shows, fun x => pure (D.narrow k x)⟩ : Callback σ ν D.Input _).Narrows k := by
  refine fun x => ⟨D.narrow k x, .pure _, fun hsome => ?_⟩
  obtain ⟨a, ha⟩ := Option.isSome_iff_exists.mp hsome
  exact ⟨a, Domain.narrow_eq_some_iff.mp ha⟩

/-- A rule that sees its input as a value of the kind `k`, and perhaps compares it with a literal,
with or without a condition and whatever its action is.  Narrowing, comparison and tests go by what
they are given alone. -/
inductive Rule.OfKind (k : D.Kind) : Rule σ ν D.Input Out E → Prop
  | exact {View : Type} {label : String} {narrow : Callback σ ν D.Input (Option View)}
    {c? : Option (Condition σ ν View)} {a : Action σ ν View E Out} :
    narrow.Narrows k → (∀ c, c? = some c → ∀ f ∈ c.tests, f.Stateless) →
    OfKind k ⟨.exact label narrow, c?, a⟩
  | equals {View : Type} {shown : String} {narrow : Callback σ ν D.Input (Option View)}
    {same : Callback σ ν (View × View) Bool} {literal : View} {c? : Option (Condition σ ν View)}
    {a : Action σ ν View E Out} :
    narrow.Narrows k → same.Stateless → (∀ c, c? = some c → ∀ f ∈ c.tests, f.Stateless) →
    OfKind k ⟨.equals shown narrow same literal, c?, a⟩

namespace Rule.OfKind

variable {k l : D.Kind} {r r' : Rule σ ν D.Input Out E} {x : D.Input}

/-- A rule for a kind has settled on a view only of inputs that hold a value of this kind. -/
theorem settles_view? (h : r.OfKind k) (x : D.Input) :
    ∃ v?, (r.guard.view? x).Settles v? ∧ (v?.isSome → ∃ a, D.content x = some ⟨k, a⟩) := by
  cases h with
  | exact hnarrow _ =>
    obtain ⟨v?, hsettles, hkind⟩ := hnarrow x
    exact ⟨v?, Callback.settles_call hsettles .narrow, hkind⟩
  | @equals View shown narrow same literal c? a hnarrow hsame _ =>
    obtain ⟨v? | v, hsettles, hkind⟩ := hnarrow x
    · exact ⟨none, (Callback.settles_call hsettles .narrow).bind (.pure none), hkind⟩
    · obtain ⟨b, hb⟩ := hsame (v, literal)
      have hcompare : (do return if ← same.call .compare (v, literal) then some v else none :
          Run σ (Event ν) (Option View)).Settles (if b then some v else none) :=
        (Callback.settles_call hb .compare).bind (.pure _)
      exact ⟨_, (Callback.settles_call hsettles .narrow).bind hcompare, fun _ => hkind rfl⟩

/-- A rule for a kind goes by its input alone. -/
theorem stateless (h : r.OfKind k) : r.Stateless := by
  refine ⟨fun x => ?_, fun c hc v => ?_⟩
  · obtain ⟨v?, hsettles, -⟩ := h.settles_view? x
    exact ⟨v?, hsettles⟩
  · cases h with
    | exact _ htests => exact Condition.settles_holds (htests c hc) v
    | equals _ _ htests => exact Condition.settles_holds (htests c hc) v

/-- A rule for a kind takes only inputs that hold a value of this kind. -/
theorem content_of_takes (h : r.OfKind k) (hx : r.Takes x) : ∃ a, D.content x = some ⟨k, a⟩ := by
  obtain ⟨v? | v, hsettles, hkind⟩ := h.settles_view? x
  · have hnone : (r.select? x).Settles none := hsettles.bind (.pure none)
    exact absurd hx (Rule.not_takes_of_settles hnone)
  · exact hkind rfl

/-- Rules for different kinds are disjoint. -/
theorem disjoint (h : r.OfKind k) (h' : r'.OfKind l) (hne : k ≠ l) : r.Disjoint r' := by
  rintro x ⟨hx, hx'⟩
  obtain ⟨a, ha⟩ := h.content_of_takes hx
  obtain ⟨b, hb⟩ := h'.content_of_takes hx'
  exact hne (Domain.kind_unique (Domain.narrow_eq_some_iff.mpr ha)
    (Domain.narrow_eq_some_iff.mpr hb))

variable {kinds : List D.Kind} {rules : List (Rule σ ν D.Input Out E)}

/-- Each rule of a list is for one of the kinds. -/
theorem exists_of_mem (h : List.Forall₂ OfKind kinds rules) (hr : r ∈ rules) :
    ∃ k ∈ kinds, r.OfKind k := by
  induction h with
  | nil => exact absurd hr List.not_mem_nil
  | @cons k _ _ _ hk _ ih =>
    rcases List.mem_cons.mp hr with rfl | hr
    · exact ⟨k, List.mem_cons_self, hk⟩
    · obtain ⟨l, hl, hr⟩ := ih hr
      exact ⟨l, List.mem_cons_of_mem _ hl, hr⟩

/-- Rules of which each is for a kind of its own are pairwise disjoint. -/
theorem pairwise_disjoint (h : List.Forall₂ OfKind kinds rules) (hkinds : kinds.Nodup) :
    rules.Pairwise Rule.Disjoint := by
  induction h with
  | nil => exact .nil
  | @cons k r kinds rules hk hrest ih =>
    obtain ⟨hnotMem, hkinds⟩ := List.nodup_cons.mp hkinds
    refine .cons (fun r' hr' => ?_) (ih hkinds)
    obtain ⟨l, hl, hr'⟩ := exists_of_mem hrest hr'
    exact hk.disjoint hr' fun heq => hnotMem (heq ▸ hl)

end Rule.OfKind

namespace Dispatcher

/-- Stateless rules that are pairwise disjoint may stand in any order: each use has the same
outcome, makes the same calls of actions, maps and fallbacks, and leaves the same state; only the
places of rules and the order in which they are asked may be others.  In particular this holds of
rules each of which is for a kind of values of its own, where narrowing may look up the value that
an input holds. -/
theorem disjoint_rules_reorder :
    (∀ d d' : Dispatcher σ ν In Out E, d.Stateless → d.rules.Pairwise Rule.Disjoint →
      d.rules.Perm d'.rules → d'.logUnhandled = d.logUnhandled → ∃ place, Reorders place d d')
    ∧ (∀ (D : Domain) (kinds : List D.Kind) (d d' : Dispatcher σ ν D.Input Out E), kinds.Nodup →
      List.Forall₂ Rule.OfKind kinds d.rules → d.rules.Perm d'.rules →
      d'.logUnhandled = d.logUnhandled → ∃ place, Reorders place d d')
    ∧ ∀ (D : Domain) (k : D.Kind) (shows : D.Input → Option ν),
      (⟨shows, fun x => pure (D.narrow k x)⟩ : Callback σ ν D.Input _).Narrows k := by
  refine ⟨fun d d' hd hdisjoint hperm hlog => exists_reorders hd hdisjoint hperm hlog,
    fun D kinds d d' hkinds hrules hperm hlog => ?_,
    fun D k shows => Callback.narrows_narrow D k shows⟩
  have hstateless : d.Stateless := by
    intro r hr
    obtain ⟨k, -, hk⟩ := Rule.OfKind.exists_of_mem hrules hr
    exact hk.stateless
  exact exists_reorders hstateless (Rule.OfKind.pairwise_disjoint hrules hkinds) hperm hlog

namespace Sample

/-- Every number holds itself, as an even or as an odd one. -/
def parities : Domain where
  Input := Nat
  Kind := Bool
  decidableKind := inferInstance
  Carrier _ := Nat
  content n := some ⟨n % 2 == 0, n⟩

/-- Looks up the number that an input holds, if its parity is the given one. -/
def lookUp (even : Bool) : Callback Nat Nat parities.Input (Option (parities.Carrier even)) :=
  ⟨fun _ => none, fun x => pure (parities.narrow even x)⟩

/-- Answers for even numbers. -/
def evens : Rule Nat Nat parities.Input Nat String := .answering (.exact "even" (lookUp true)) climb

/-- Answers for odd numbers, with their double. -/
def odds : Rule Nat Nat parities.Input Nat String :=
  (Rule.answering (.exact "odd" (lookUp false)) climb).map (.silent (2 * ·))

/-- The rules of the sample are for the two parities. -/
theorem ofKind_parities : List.Forall₂ (Rule.OfKind (D := parities)) [true, false] [evens, odds] :=
  .cons (.exact (Callback.narrows_narrow parities true _) nofun)
    (.cons (.exact (Callback.narrows_narrow parities false _) nofun) .nil)

end Sample

open Sample (parities evens odds ofKind_parities) in
/-- Even and odd numbers may be answered for in any order.  An odd one is doubled by the second of
two rules or by the first. -/
theorem disjoint_rules_reorder_parities :
    [true, false].Nodup ∧ List.Forall₂ (Rule.OfKind (D := parities)) [true, false] [evens, odds]
    ∧ (∃ place, Reorders place ⟨[evens, odds], true⟩ ⟨[odds, evens], true⟩)
    ∧ dispatch? ⟨[evens, odds], true⟩ (3 : Nat) 0 = ⟨.done (some (.ok 6)), [.call .narrow none,
      .call .narrow none, .call .action (some 3), .call .map none, .log (.handled 1 "odd")], 3⟩
    ∧ dispatch? ⟨[odds, evens], true⟩ (3 : Nat) 0 = ⟨.done (some (.ok 6)), [.call .narrow none,
      .call .action (some 3), .call .map none, .log (.handled 0 "odd")], 3⟩ := by
  have hperm : [evens, odds].Perm [odds, evens] := .swap odds evens []
  have hkinds : [true, false].Nodup := by decide
  obtain ⟨-, hreorder, -⟩ := @disjoint_rules_reorder Nat Nat Nat Nat String
  exact ⟨hkinds, ofKind_parities,
    hreorder parities [true, false] ⟨[evens, odds], true⟩ ⟨[odds, evens], true⟩ hkinds
      ofKind_parities hperm rfl, rfl, rfl⟩

end Dispatcher

end FirstMatch
