/-
# Rules behind a catch-all

A rule counts as a catch-all by its form alone: its guard is `Guard.any` and it has no condition.
Such a rule never rejects an input (`Rule.not_rejects_of_isCatchAll`), so nothing behind it is ever
asked: what stands there may be cut off or replaced, and the dispatcher stays alike in all of its
uses (`Dispatcher.Alike`).

Maps keep the form of rules and chaining keeps the rules in front of a rule in front of it, so a
rule that cannot be reached in a dispatcher cannot be reached in any larger one either
(`Dispatcher.StandsIn`).
-/
import FirstMatch.Proofs.Chaining
import FirstMatch.Proofs.Compilation

namespace FirstMatch

variable {σ ν In Out Next E : Type}

/-! ## A catch-all rejects nothing -/

/-- A rule that counts as a catch-all rejects no input, whatever the form of its action. -/
theorem Rule.not_rejects_of_isCatchAll {r : Rule σ ν In Out E} (hr : r.isCatchAll = true) (x : In)
    (calls : Transcript σ ν) : ¬ r.Rejects x calls := by
  obtain ⟨a, rfl⟩ := Rule.isCatchAll_iff.mp hr
  -- its guard sees every input, and there is no condition that could stop it
  rintro (hsees | ⟨hsees, hadmits⟩)
  · cases hsees
  · obtain _ | ⟨hsome, -⟩ := hadmits
    cases hsome

namespace Dispatcher

/-- If all rules reject an input, then each of them does. -/
theorem AllReject.rejects {rules : List (Rule σ ν In Out E)} {x : In} {calls : Transcript σ ν}
    (h : AllReject x rules calls) {r : Rule σ ν In Out E} (hr : r ∈ rules) :
    ∃ calls, r.Rejects x calls := by
  induction h with
  | nil => simp at hr
  | cons hfirst _ ih =>
    rcases List.mem_cons.mp hr with rfl | hr
    · exact ⟨_, hfirst⟩
    · exact ih hr

/-- A dispatcher that contains a catch-all. -/
def HasCatchAll (d : Dispatcher σ ν In Out E) : Prop := ∃ r ∈ d.rules, r.isCatchAll = true

namespace HasCatchAll

variable {d : Dispatcher σ ν In Out E}

/-- With a catch-all every dispatch answers or panics. -/
theorem dispatch?_ne_none (h : d.HasCatchAll) (x : In) (s : σ) :
    (d.dispatch? x s).outcome ≠ .done none := by
  obtain ⟨r, hmem, hr⟩ := h
  rcases hd : d.dispatch? x s with ⟨o, events, t⟩
  rintro ⟨⟩
  obtain ⟨calls, called, hrejects, -⟩ := dispatch?_eq_none_iff.mp hd
  obtain ⟨calls', hrejects'⟩ := hrejects.rejects hmem
  exact Rule.not_rejects_of_isCatchAll hr x calls' hrejects'

/-- With a catch-all every input is accepted, unless there is a panic. -/
theorem accepts_ne_false (h : d.HasCatchAll) (x : In) (s : σ) :
    (d.accepts x s).outcome ≠ .done false := by
  rcases hd : d.accepts x s with ⟨o, events, t⟩
  rintro ⟨⟩
  have hnone := accepts_eq_false_iff_dispatch?.mp hd
  exact h.dispatch?_ne_none x s (congrArg Ending.outcome hnone)

/-- No dispatch fails for want of a rule where there is a catch-all. -/
theorem dispatch_ne_noMatch (h : d.HasCatchAll) (x : In) (s : σ) (reason : NoMatch) :
    (d.dispatch x s).outcome ≠ .done (.error (.noMatch reason)) := by
  intro hd
  exact h.dispatch?_ne_none x s (dispatch_eq_noMatch_iff.mp hd).2

end HasCatchAll

/-! ## Dispatchers in all of their uses -/

/-- Two dispatchers that cannot be told apart: each use of them ends with the same outcome, the same
events and the same state, whatever the input and the state it starts in. -/
structure Alike (d e : Dispatcher σ ν In Out E) : Prop where
  accepts (x : In) : d.accepts x = e.accepts x
  dispatch? (x : In) : d.dispatch? x = e.dispatch? x
  dispatch (x : In) : d.dispatch x = e.dispatch x
  dispatchOr (f : Callback σ ν In (Except E Out)) (x : In) : d.dispatchOr f x = e.dispatchOr f x

namespace Alike

variable {a b c : Dispatcher σ ν In Out E}

/-- Dispatchers that are alike may be exchanged. -/
theorem symm (h : a.Alike b) : b.Alike a :=
  ⟨fun x => (h.accepts x).symm, fun x => (h.dispatch? x).symm, fun x => (h.dispatch x).symm,
    fun f x => (h.dispatchOr f x).symm⟩

/-- What is alike to one of two dispatchers that are alike is alike to the other. -/
theorem trans (h : a.Alike b) (h' : b.Alike c) : a.Alike c :=
  ⟨fun x => (h.accepts x).trans (h'.accepts x), fun x => (h.dispatch? x).trans (h'.dispatch? x),
    fun x => (h.dispatch x).trans (h'.dispatch x),
    fun f x => (h.dispatchOr f x).trans (h'.dispatchOr f x)⟩

end Alike

/-- A dispatcher with a catch-all is alike with every other one behind it.  The sizes of both may
differ, but without an input that no rule takes no size is ever told. -/
theorem HasCatchAll.orElse_alike {a : Dispatcher σ ν In Out E} (h : a.HasCatchAll)
    (b : Dispatcher σ ν In Out E) : (a.orElse b).Alike a := by
  have hdispatch? : ∀ x, (a.orElse b).dispatch? x = a.dispatch? x := by
    intro x
    ext s
    exact dispatch?_orElse_of_ne_none (h.dispatch?_ne_none x s) b
  -- the other dispatcher would be asked where the first one finds no rule, and it finds one
  refine ⟨fun x => ?_, hdispatch?, fun x => ?_, fun f x => ?_⟩
  · ext s
    have haccepts := h.accepts_ne_false x s
    rw [accepts_orElse, Run.bind_apply]
    rcases ha : a.accepts x s with ⟨(_ | _) | message, events, t⟩
    · rw [ha] at haccepts
      exact absurd rfl haccepts
    · simp
    · rfl
  · ext s
    have hne := h.dispatch?_ne_none x s
    rw [dispatch, dispatch, hdispatch?, Run.bind_apply, Run.bind_apply]
    rcases ha : a.dispatch? x s with ⟨(_ | _ | _) | message, events, t⟩
    · rw [ha] at hne
      exact absurd rfl hne
    · rfl
    · rfl
    · rfl
  · rw [dispatchOr, dispatchOr, hdispatch?]

/-! ## Nothing behind a catch-all matters -/

/-- What stands behind a catch-all may be replaced by anything. -/
theorem alike_of_catchAll {front : List (Rule σ ν In Out E)}
    (h : ∃ r ∈ front, r.isCatchAll = true) (behind behind' : List (Rule σ ν In Out E))
    (log : Bool) : Alike ⟨front ++ behind, log⟩ ⟨front ++ behind', log⟩ := by
  have hfront : HasCatchAll ⟨front, log⟩ := h
  have hsplit : ∀ rest : List (Rule σ ν In Out E),
      (⟨front ++ rest, log⟩ : Dispatcher σ ν In Out E) = orElse ⟨front, log⟩ ⟨rest, log⟩ := by
    intro rest
    rw [orElse, Bool.or_self]
  rw [hsplit, hsplit]
  exact (hfront.orElse_alike _).trans (hfront.orElse_alike _).symm

/-- The dispatcher with its rules up to the place `k` only. -/
def upTo (d : Dispatcher σ ν In Out E) (k : Nat) : Dispatcher σ ν In Out E :=
  ⟨d.rules.take (k + 1), d.logUnhandled⟩

/-- The rule at the place `i` may be replaced by any other one. -/
def Dead (d : Dispatcher σ ν In Out E) (i : Nat) : Prop :=
  ∀ r : Rule σ ν In Out E, Alike ⟨d.rules.set i r, d.logUnhandled⟩ d

variable {d : Dispatcher σ ν In Out E} {i k : Nat} {r : Rule σ ν In Out E}

/-- A catch-all is among the rules before each later place. -/
theorem exists_catchAll_mem_take (hr : d.rules[k]? = some r) (hcatch : r.isCatchAll = true)
    (hk : k < i) : ∃ r ∈ d.rules.take i, r.isCatchAll = true := by
  obtain ⟨hlt, rfl⟩ := List.getElem?_eq_some_iff.mp hr
  exact ⟨_, List.mem_take_iff_getElem.mpr ⟨k, by omega, rfl⟩, hcatch⟩

/-- A rule behind a catch-all is dead. -/
theorem dead_of_catchAll (hr : d.rules[k]? = some r) (hcatch : r.isCatchAll = true) (hk : k < i) :
    d.Dead i := by
  intro r'
  -- both lists are the rules before `i` with something behind them
  have hfront : d.rules.take i = (d.rules.set i r').take i := by
    rw [List.take_set_of_le (Nat.le_refl i)]
  have hset : d.rules.set i r' = d.rules.take i ++ (d.rules.set i r').drop i := by
    rw [hfront, List.take_append_drop]
  have hrules : d = ⟨d.rules.take i ++ d.rules.drop i, d.logUnhandled⟩ := by
    rw [List.take_append_drop]
  have halike := alike_of_catchAll (exists_catchAll_mem_take hr hcatch hk)
    ((d.rules.set i r').drop i) (d.rules.drop i) d.logUnhandled
  rw [← hset, ← hrules] at halike
  exact halike

/-- The first catch-all of a list, as a rule at a place. -/
theorem exists_of_findIdx? (h : d.rules.findIdx? Rule.isCatchAll = some k) :
    ∃ r, d.rules[k]? = some r ∧ r.isCatchAll = true := by
  obtain ⟨hlt, hcatch, -⟩ := List.findIdx?_eq_some_iff_getElem.mp h
  exact ⟨_, List.getElem?_eq_getElem hlt, hcatch⟩

/-- Where a first catch-all is found there is one. -/
theorem hasCatchAll_of_findIdx? (h : d.rules.findIdx? Rule.isCatchAll = some k) :
    d.HasCatchAll := by
  obtain ⟨r, hr, hcatch⟩ := exists_of_findIdx? h
  exact ⟨r, List.mem_of_getElem? hr, hcatch⟩

/-! ## The fallback -/

/-- What follows a protocol within roles of one kind has no events of calls in other roles. -/
theorem not_isCall_of_follows {α : Type} {y : Run σ (Event ν) α} {P : Protocol σ ν α}
    {kind : Role → Bool} {role : Role} (hy : y.Follows P)
    (hP : ∀ calls o, P calls o → Transcript.Within kind calls) (hrole : kind role = false)
    {s t : σ} {o : Outcome α} {events : List (Event ν)} (h : y s = ⟨o, events, t⟩) {e : Event ν}
    (he : e ∈ events) : e.isCall role = false := by
  rcases hy.mem_events hP h he with ⟨n, rfl⟩ | ⟨role', shown, hkind, rfl⟩
  · rfl
  · have hne : role' ≠ role := by
      rintro rfl
      rw [hrole] at hkind
      exact absurd hkind (by simp)
    simp [Event.isCall, hne]

/-- A dispatch that is given no fallback calls none. -/
theorem not_isCall_fallback_of_dispatch? {x : In} {s : σ} {e : Event ν}
    (he : e ∈ (d.dispatch? x s).events) : e.isCall .fallback = false := by
  have hsearch : ∀ {o : Outcome (Option (Hit d.rules))} {events : List (Event ν)} {t : σ},
      find? d.rules x s = ⟨o, events, t⟩ → e ∈ events → e.isCall .fallback = false :=
    fun h => not_isCall_of_follows (follows_find? d.rules x) (fun _ _ hfinds => hfinds.within) rfl h
  have hcourse : Course d x s (d.dispatch? x s) := course_iff.mpr rfl
  -- each course leaves the events of the search, those of an action, and at most one log record
  generalize d.dispatch? x s = ending at he hcourse
  cases hcourse with
  | searchPanics hfind => exact hsearch hfind he
  | missed hfind =>
    rcases List.mem_append.mp he with he | he
    · exact hsearch hfind he
    · rw [unhandledLog] at he
      split at he
      · rw [List.mem_singleton.mp he]
        rfl
      · simp at he
  | actionPanics hfind hrun =>
    rcases List.mem_append.mp he with he | he
    · exact hsearch hfind he
    · exact not_isCall_of_follows (Action.follows_run _ _) (fun _ _ h => h.within) rfl hrun he
  | answered hfind hrun =>
    rcases List.mem_append.mp he with he | he
    · rcases List.mem_append.mp he with he | he
      · exact hsearch hfind he
      · exact not_isCall_of_follows (Action.follows_run _ _) (fun _ _ h => h.within) rfl hrun he
    · rw [List.mem_singleton.mp he]
      rfl

/-- With a catch-all it does not matter what the fallback is, and it is not called. -/
theorem HasCatchAll.dispatchOr_eq (h : d.HasCatchAll) (f f' : Callback σ ν In (Except E Out))
    (x : In) (s : σ) : d.dispatchOr f x s = d.dispatchOr f' x s
      ∧ (d.dispatchOr f x s).events = (d.dispatch? x s).events := by
  have hne := h.dispatch?_ne_none x s
  rw [dispatchOr, dispatchOr, Run.bind_apply, Run.bind_apply]
  rcases hd : d.dispatch? x s with ⟨(_ | result) | message, events, t⟩
  · rw [hd] at hne
    exact absurd rfl hne
  · simp
  · simp

/-! ## Larger dispatchers -/

/-- The rules of `d` stand from the place `n` on in a dispatcher that was made of `d` by maps and by
chaining with others, on either side and in any order. -/
inductive StandsIn (d : Dispatcher σ ν In Out E) :
    {Next : Type} → Nat → Dispatcher σ ν In Next E → Prop
  | itself : StandsIn d 0 d
  | mapped {Mid Next : Type} {n : Nat} {e : Dispatcher σ ν In Mid E} (f : Callback σ ν Mid Next) :
    StandsIn d n e → StandsIn d n (e.map f)
  | front {Next : Type} {n : Nat} {e : Dispatcher σ ν In Next E} (b : Dispatcher σ ν In Next E) :
    StandsIn d n e → StandsIn d n (e.orElse b)
  | behind {Next : Type} {n : Nat} {e : Dispatcher σ ν In Next E} (a : Dispatcher σ ν In Next E) :
    StandsIn d n e → StandsIn d (a.size + n) (a.orElse e)

/-- A rule keeps its name in a larger dispatcher, and its form as a catch-all. -/
theorem StandsIn.getElem? {n : Nat} {e : Dispatcher σ ν In Next E} (h : d.StandsIn n e)
    (hr : d.rules[i]? = some r) : ∃ r', e.rules[n + i]? = some r' ∧ r'.label = r.label
      ∧ r'.isCatchAll = r.isCatchAll := by
  induction h with
  | itself =>
    rw [Nat.zero_add]
    exact ⟨r, hr, rfl, rfl⟩
  | mapped f _ ih =>
    obtain ⟨r', hr', hlabel, hcatch⟩ := ih
    refine ⟨r'.map f, ?_, hlabel, hcatch⟩
    rw [map, List.getElem?_map, hr']
    rfl
  | front b _ ih =>
    obtain ⟨r', hr', hsame⟩ := ih
    obtain ⟨hlt, -⟩ := List.getElem?_eq_some_iff.mp hr'
    refine ⟨r', ?_, hsame⟩
    rw [orElse, List.getElem?_append_left hlt, hr']
  -- the rules in front are counted first
  | @behind _ n e a _ ih =>
    obtain ⟨r', hr', hsame⟩ := ih
    have hle : a.rules.length ≤ a.size + n + i := by
      rw [size]
      omega
    have hplace : a.size + n + i - a.rules.length = n + i := by
      rw [size]
      omega
    refine ⟨r', ?_, hsame⟩
    rw [orElse, List.getElem?_append_right hle, hplace, hr']

end Dispatcher

/-! ## The rules that a draft reports -/

/-- A draft reports the rules behind its first catch-all, with their names. -/
theorem Draft.mem_unreachable_iff {draft : Draft σ ν In Out E} {u : Unreachable} :
    u ∈ draft.unreachable ↔ draft.catchAll? = some u.catchAll ∧ u.catchAll < u.index
      ∧ draft.labels[u.index]? = some u.label := by
  constructor
  · intro hmem
    cases hcatch : draft.catchAll? with
    | none => simp [unreachable, hcatch] at hmem
    | some k =>
      obtain ⟨j, hj⟩ := List.mem_iff_getElem?.mp hmem
      rw [getElem?_unreachable hcatch, Option.map_eq_some_iff] at hj
      obtain ⟨label, hlabel, rfl⟩ := hj
      have hlt : k < k + 1 + j := by omega
      exact ⟨rfl, hlt, hlabel⟩
  · rintro ⟨hcatch, hlt, hlabel⟩
    have hplace : u.catchAll + 1 + (u.index - (u.catchAll + 1)) = u.index :=
      Nat.add_sub_cancel' hlt
    have hreport : draft.unreachable[u.index - (u.catchAll + 1)]? = some u := by
      rw [getElem?_unreachable hcatch, hplace, hlabel]
      rfl
    exact List.mem_of_getElem? hreport

/-- The rules that a draft reports are dead in the dispatcher that it is compiled to, and in every
larger one. -/
theorem Draft.dead_of_mem_unreachable {draft : Draft σ ν In Out E} {u : Unreachable}
    (hu : u ∈ draft.unreachable) {n : Nat} {e : Dispatcher σ ν In Next E}
    (he : draft.compile.dispatcher.StandsIn n e) :
    e.labels[n + u.index]? = some u.label ∧ e.Dead (n + u.index) := by
  obtain ⟨hfirst, hlt, hlabel⟩ := Draft.mem_unreachable_iff.mp hu
  constructor
  · rw [labels, List.getElem?_map, Option.map_eq_some_iff] at hlabel
    obtain ⟨r, hr, hname⟩ := hlabel
    obtain ⟨r', hr', hlabel', -⟩ := he.getElem? hr
    rw [Dispatcher.labels, List.getElem?_map, hr', Option.map_some, hlabel', hname]
  · obtain ⟨r, hr, hcatch⟩ :=
      Dispatcher.exists_of_findIdx? (d := draft.compile.dispatcher) hfirst
    obtain ⟨r', hr', -, hcatch'⟩ := he.getElem? hr
    exact Dispatcher.dead_of_catchAll hr' (hcatch'.trans hcatch) (Nat.add_lt_add_left hlt n)

/-! ## What a catch-all cuts off -/

/-- What becomes of a dispatcher whose first catch-all is the rule at place `k`. -/
structure Dispatcher.CutOff (d : Dispatcher σ ν In Out E) (k : Nat) : Prop where
  /-- The rules behind the catch-all may be left out. -/
  upTo : d.Alike (d.upTo k)
  /-- Any rules may stand there instead. -/
  replaced (behind : List (Rule σ ν In Out E)) :
    d.Alike ⟨d.rules.take (k + 1) ++ behind, d.logUnhandled⟩
  /-- No dispatch fails for want of a rule. -/
  ne_noMatch (x : In) (s : σ) (reason : NoMatch) :
    (d.dispatch x s).outcome ≠ .done (.error (.noMatch reason))
  /-- A fallback is not called. -/
  not_fallback (f : Callback σ ν In (Except E Out)) (x : In) (s : σ) :
    ∀ e ∈ (d.dispatchOr f x s).events, e.isCall .fallback = false
  fallback_eq (f f' : Callback σ ν In (Except E Out)) (x : In) (s : σ) :
    d.dispatchOr f x s = d.dispatchOr f' x s
  /-- Another dispatcher behind it changes nothing. -/
  orElse (b : Dispatcher σ ν In Out E) : (d.orElse b).Alike d

/-- What stands behind the first catch-all makes no difference. -/
theorem Dispatcher.alike_take_append {d : Dispatcher σ ν In Out E} {k : Nat}
    (hk : d.rules.findIdx? Rule.isCatchAll = some k) (behind : List (Rule σ ν In Out E)) :
    d.Alike ⟨d.rules.take (k + 1) ++ behind, d.logUnhandled⟩ := by
  obtain ⟨r, hr, hall⟩ := Dispatcher.exists_of_findIdx? hk
  have hfront := Dispatcher.exists_catchAll_mem_take hr hall (Nat.lt_succ_self k)
  have halike := Dispatcher.alike_of_catchAll hfront (d.rules.drop (k + 1)) behind d.logUnhandled
  rw [List.take_append_drop] at halike
  exact halike

/-- A first catch-all cuts off what stands behind it. -/
theorem Dispatcher.cutOff_of_findIdx? {d : Dispatcher σ ν In Out E} {k : Nat}
    (hk : d.rules.findIdx? Rule.isCatchAll = some k) : d.CutOff k where
  upTo := by
    have hcut := Dispatcher.alike_take_append hk []
    rw [List.append_nil] at hcut
    exact hcut
  replaced := Dispatcher.alike_take_append hk
  ne_noMatch := (Dispatcher.hasCatchAll_of_findIdx? hk).dispatch_ne_noMatch
  not_fallback f x s e he := by
    rw [((Dispatcher.hasCatchAll_of_findIdx? hk).dispatchOr_eq f f x s).2] at he
    exact Dispatcher.not_isCall_fallback_of_dispatch? he
  fallback_eq f f' x s := ((Dispatcher.hasCatchAll_of_findIdx? hk).dispatchOr_eq f f' x s).1
  orElse := (Dispatcher.hasCatchAll_of_findIdx? hk).orElse_alike

/-- A dispatcher is alike with what is left of it behind its first catch-all, and with anything put
there instead.  So no dispatch fails for want of a rule, a fallback is not called and does not
matter, and another dispatcher behind it changes nothing.  In particular the rules that a draft
reports as unreachable may be replaced by any others in each dispatcher that it is compiled to, and
in each one that is made of such a dispatcher by maps and by chaining. -/
theorem catchAll_cuts_off :
    (∀ (d : Dispatcher σ ν In Out E) (k : Nat), d.rules.findIdx? Rule.isCatchAll = some k →
      d.CutOff k)
    ∧ ∀ (draft : Draft σ ν In Out E) (u : Unreachable), u ∈ draft.unreachable →
      ∀ c, c = draft.compile ∨ draft.compileStrict = .ok c →
        ∀ (Next : Type) (n : Nat) (e : Dispatcher σ ν In Next E), c.dispatcher.StandsIn n e →
          e.labels[n + u.index]? = some u.label ∧ e.Dead (n + u.index) := by
  refine ⟨fun d k hk => Dispatcher.cutOff_of_findIdx? hk, fun draft u hu c hc Next n e he => ?_⟩
  have hcompile : c = draft.compile := hc.elim id Draft.compileStrict_eq_ok
  rw [hcompile] at he
  exact draft.dead_of_mem_unreachable hu he

namespace Dispatcher.Sample

/-- Every second input is taken by the first rule, all others by the second. -/
def covered : Draft Nat Nat Nat Nat String :=
  { rules := [everyOther, .answering .any nonzero, everyOther] }

/-- The sample behind another one, with its outputs doubled. -/
def doubled : Dispatcher Nat Nat Nat Nat String :=
  (once.orElse covered.compile.dispatcher).map (.silent (2 * ·))

end Dispatcher.Sample

open Dispatcher (Sample.covered Sample.doubled Sample.once) in
/-- The third rule of the sample is dead, also as the fourth rule of a larger dispatcher. -/
theorem catchAll_cuts_off_covered :
    Sample.covered.compile.dispatcher.rules.findIdx? Rule.isCatchAll = some 1
    ∧ Sample.covered.compile.dispatcher.Alike (Sample.covered.compile.dispatcher.upTo 1)
    ∧ Sample.covered.unreachable = [⟨2, "any", 1⟩]
    ∧ Sample.doubled.labels[3]? = some "any" ∧ Sample.doubled.Dead 3 :=
  ⟨rfl, (catchAll_cuts_off.1 _ 1 rfl).upTo, rfl,
    catchAll_cuts_off.2 Sample.covered ⟨2, "any", 1⟩ (List.mem_singleton.mpr rfl) _ (.inl rfl) _ 1 _
      (.mapped _ (.behind Sample.once .itself))⟩

end FirstMatch
