/-
# One rule in place of another

A rule may be replaced by another one that does the same when it is asked, in every list and in all
uses of it (`Dispatcher.alike_replace`).

Often a rule does the same only in the eyes of a watcher, who cannot tell a call from a note, and
goes by another name (`Rule.LooksLike`).  Then what is seen of each use of the list changes in one
thing at most, the name of the rule at its place (`Dispatcher.watched_ask_replace`); and so do the
names of the list, the records of compiling it and the error of compiling it strictly
(`Rule.LooksLike.standsFor`).
-/
import Mathlib.Data.List.Basic
import FirstMatch.Proofs.Mapping

namespace FirstMatch

variable {σ ν α β In Out E View : Type}

/-! ## Another name for the rule at a place -/

/-- The same report, under another name if it is about the rule at the place `k`. -/
def Unreachable.rename (k : Nat) (label : String) (u : Unreachable) : Unreachable :=
  { u with label := if u.index = k then label else u.label }

/-- The same record, with another name for the rule at the place `k`. -/
def Record.rename (k : Nat) (label : String) : Record → Record
  | unreachable u => .unreachable (u.rename k label)
  | compiled rules => .compiled rules
  | handled index old => .handled index (if index = k then label else old)
  | unhandled rules => .unhandled rules

/-- The same entry, with another name for the rule at the place `k`. -/
def Entry.rename (k : Nat) (label : String) : Entry ν → Entry ν
  | note n => .note n
  | log record => .log (record.rename k label)

/-- What is seen of events without log records are notes and what calls show. -/
theorem Event.entries_eq_map_note {events : List (Event ν)} (h : events.filterMap record? = []) :
    entries events = (events.filterMap shown?).map .note := by
  have hentry : ∀ e ∈ events, e.entry? = e.shown?.map .note := by
    intro e he
    have hnone := List.filterMap_eq_nil_iff.mp h e he
    cases e with
    | call role shown => rfl
    | note n => rfl
    | log record => cases hnone
  rw [entries, List.map_filterMap]
  exact List.filterMap_congr hentry

namespace Run

section MapEvents

variable {ω ω' : Type}

/-- The events of two runs in a row are written in another form one by one. -/
theorem mapEvents_bind (f : ω → ω') (x : Run σ ω α) (g : α → Run σ ω β) :
    (x >>= g).mapEvents f = x.mapEvents f >>= fun a => (g a).mapEvents f := by
  ext s
  rw [mapEvents, bind_apply, bind_apply]
  rcases hx : x s with ⟨a | message, events, t⟩
  · simp [mapEvents, Ending.mapEvents, Ending.after, hx]
  · simp [mapEvents, Ending.mapEvents, hx]

end MapEvents

/-- A run as a watcher sees it, with another name for the rule at the place `k`. -/
def watchedAs (k : Nat) (label : String) (x : Run σ (Event ν) α) : Run σ (Entry ν) α :=
  x.watched.mapEvents (Entry.rename k label)

variable {k : Nat} {label : String}

/-- What is seen of runs one after the other, under another name for the rule, is what is seen of
each of them. -/
theorem watchedAs_bind (x : Run σ (Event ν) α) (f : α → Run σ (Event ν) β) :
    (x >>= f).watchedAs k label = x.watchedAs k label >>= fun a => (f a).watchedAs k label := by
  rw [watchedAs, watched_bind, mapEvents_bind]
  rfl

/-- A function of the value of a run is seen as one, under another name for the rule too. -/
theorem watchedAs_map (f : α → β) (x : Run σ (Event ν) α) :
    (f <$> x).watchedAs k label = f <$> x.watchedAs k label := by
  rw [map_eq_pure_bind, watchedAs_bind, map_eq_pure_bind]
  rfl

/-- A run that goes on where there is no value is seen to do so. -/
theorem watched_otherwise (y z : Run σ (Event ν) (Option α)) :
    (y.otherwise z).watched = y.watched.otherwise z.watched := by
  rw [otherwise, watched_bind, otherwise]
  congr 1
  funext a?
  cases a? <;> rfl

/-- A run that goes on where there is no value is seen to do so under another name for the rule too. -/
theorem watchedAs_otherwise (y z : Run σ (Event ν) (Option α)) :
    (y.otherwise z).watchedAs k label
      = (y.watchedAs k label).otherwise (z.watchedAs k label) := by
  rw [otherwise, watchedAs_bind, otherwise]
  congr 1
  funext a?
  cases a? <;> rfl

/-- What follows a protocol writes no records, so it names no rule. -/
theorem Follows.watchedAs_eq {x : Run σ (Event ν) α} {P : Protocol σ ν α} (hx : x.Follows P) :
    x.watchedAs k label = x.watched := by
  ext s
  rcases hrun : x s with ⟨o, events, t⟩
  have hentries := Event.entries_eq_map_note (hx.no_records hrun)
  rw [watchedAs, mapEvents, watched, hrun, Ending.mapEvents]
  simp only
  rw [hentries, List.map_map]
  rfl

/-- The record of a rule at another place is seen as it is. -/
theorem watchedAs_handled_of_ne {n : Nat} {old : String} (h : n ≠ k) :
    (emit (.log (.handled n old)) : Run σ (Event ν) PUnit).watchedAs k label
      = (emit (.log (.handled n old))).watched := by
  ext s
  show Ending.mk _ [Entry.log (.handled n (if n = k then label else old))] _ = _
  rw [if_neg h]
  rfl

/-- The record of the rule at the place is seen with the other name. -/
theorem watchedAs_handled_self {old : String} :
    (emit (.log (.handled k old)) : Run σ (Event ν) PUnit).watchedAs k label
      = (emit (.log (.handled k label))).watched := by
  ext s
  show Ending.mk _ [Entry.log (.handled k (if k = k then label else old))] _ = _
  rw [if_pos rfl]
  rfl

end Run

/-! ## Rules that do the same -/

/-- Two rules that do the same when they are asked. -/
structure Rule.ActsLike (r r' : Rule σ ν In Out E) : Prop where
  accepts (x : In) : r.accepts x = r'.accepts x
  react? (x : In) : r.react? x = r'.react? x

/-- Two rules that do the same in the eyes of a watcher, and both count as a catch-all or neither
does.  Their names may differ. -/
structure Rule.LooksLike (r r' : Rule σ ν In Out E) : Prop where
  accepts (x : In) : (r.accepts x).watched = (r'.accepts x).watched
  react? (x : In) : (r.react? x).watched = (r'.react? x).watched
  isCatchAll : r.isCatchAll = r'.isCatchAll

namespace Rule

/-- A rule looks like itself. -/
protected theorem LooksLike.refl (r : Rule σ ν In Out E) : r.LooksLike r :=
  ⟨fun _ => rfl, fun _ => rfl, rfl⟩

/-- Of two rules that look alike each looks like the other. -/
theorem LooksLike.symm {r r' : Rule σ ν In Out E} (h : r.LooksLike r') : r'.LooksLike r :=
  ⟨fun x => (h.accepts x).symm, fun x => (h.react? x).symm, h.isCatchAll.symm⟩

/-- Rules that act alike look alike if they count as catch-alls alike. -/
theorem ActsLike.looksLike {r r' : Rule σ ν In Out E} (h : r.ActsLike r')
    (hcatch : r.isCatchAll = r'.isCatchAll) : r.LooksLike r' :=
  ⟨fun x => congrArg Run.watched (h.accepts x), fun x => congrArg Run.watched (h.react? x), hcatch⟩

variable {g g' : Guard σ ν In View} {c? c?' : Option (Condition σ ν View)}

/-- Rules with one action do the same if they select the same view. -/
theorem actsLike_of_select? (h : ∀ x, g.select? c? x = g'.select? c?' x)
    (a : Action σ ν View E Out) : (⟨g, c?, a⟩ : Rule σ ν In Out E).ActsLike ⟨g', c?', a⟩ where
  accepts x := congrArg (Option.isSome <$> ·) (h x)
  react? x := by
    show g.select? c? x >>= _ = g'.select? c?' x >>= _
    rw [h x]
    congr 1
    funext v?
    cases v? <;> rfl

/-- Rules with one action look alike if it looks as if they select the same view. -/
theorem looksLike_of_select? (h : ∀ x, (g.select? c? x).watched = (g'.select? c?' x).watched)
    (hcatch : (g.acceptsAll && c?.isNone) = (g'.acceptsAll && c?'.isNone))
    (a : Action σ ν View E Out) : (⟨g, c?, a⟩ : Rule σ ν In Out E).LooksLike ⟨g', c?', a⟩ where
  accepts x := by
    show (g.select? c? x >>= _).watched = (g'.select? c?' x >>= _).watched
    rw [Run.watched_bind, h x, Run.watched_bind]
  react? x := by
    show (g.select? c? x >>= _).watched = (g'.select? c?' x >>= _).watched
    rw [Run.watched_bind, h x, Run.watched_bind]
    congr 1
    funext v?
    cases v? <;> rfl
  isCatchAll := hcatch

/-- When a rule is asked no rule is named. -/
theorem watchedAs_react? (r : Rule σ ν In Out E) (x : In) (k : Nat) (label : String) :
    (r.react? x).watchedAs k label = (r.react? x).watched := by
  rw [Rule.react?, Run.watchedAs_bind, Run.watched_bind, (r.follows_select? x).watchedAs_eq]
  congr 1
  funext v?
  cases v? with
  | none => rfl
  | some v =>
    rw [Run.watchedAs_bind, Run.watched_bind, (r.action.follows_run v).watchedAs_eq]
    rfl

end Rule

namespace Dispatcher

variable {r r' : Rule σ ν In Out E} {k : Nat} {label : String}

/-! ## Searches and scans -/

/-- A scan names only rules of its list, at their places. -/
theorem watchedAs_scan {n : Nat} {rules : List (Rule σ ν In Out E)}
    (h : k < n ∨ n + rules.length ≤ k) (x : In) :
    (scan n rules x).watchedAs k label = (scan n rules x).watched := by
  induction rules generalizing n with
  | nil => rfl
  | cons r rules ih =>
    rw [List.length_cons] at h
    rw [scan, Run.watchedAs_bind, Run.watched_bind, r.watchedAs_react? x]
    congr 1
    funext result?
    cases result? with
    | none => exact ih (by omega)
    | some result =>
      have hplace : n ≠ k := by omega
      rw [Run.watchedAs_bind, Run.watched_bind, Run.watchedAs_handled_of_ne hplace]
      rfl

/-- A scan with another rule that looks the same: the name of the rule is replaced in what is
seen. -/
theorem watched_scan_replace (h : r.LooksLike r') (n : Nat)
    (front behind : List (Rule σ ν In Out E)) (x : In) :
    (scan n (front ++ r' :: behind) x).watched
      = (scan n (front ++ r :: behind) x).watchedAs (n + front.length) r'.label := by
  have hfront : (scan n front x).watchedAs (n + front.length) r'.label
      = (scan n front x).watched := watchedAs_scan (.inr (Nat.le_refl _)) x
  rw [scan_append, scan_append, Run.watched_otherwise, Run.watchedAs_otherwise, hfront]
  -- no rule in front has the place, so only the scan from there on is seen otherwise
  congr 1
  generalize n + front.length = k
  rw [scan, scan, Run.watched_bind, Run.watchedAs_bind, r.watchedAs_react? x, h.react? x]
  congr 1
  funext result?
  cases result? with
  | none => exact (watchedAs_scan (.inl (Nat.lt_succ_self k)) x).symm
  | some result =>
    rw [Run.watched_bind, Run.watchedAs_bind, Run.watchedAs_handled_self]
    rfl

/-- Asking whether a rule takes the input names none of them. -/
theorem watchedAs_anyAccepts (rules : List (Rule σ ν In Out E)) (x : In) :
    (anyAccepts rules x).watchedAs k label = (anyAccepts rules x).watched := by
  rw [anyAccepts_eq, Run.watchedAs_map, Run.watched_map, (follows_find? rules x).watchedAs_eq]

/-- Asking a list about an input is seen to be the same with the other rule in it. -/
theorem watched_anyAccepts_replace (h : r.LooksLike r') (front behind : List (Rule σ ν In Out E))
    (x : In) : (anyAccepts (front ++ r' :: behind) x).watched
      = (anyAccepts (front ++ r :: behind) x).watched := by
  rw [anyAccepts_append, anyAccepts_append, Run.watched_bind, Run.watched_bind]
  congr 1
  funext b
  cases b with
  | false =>
    show (anyAccepts (r' :: behind) x).watched = (anyAccepts (r :: behind) x).watched
    rw [anyAccepts, anyAccepts, Run.watched_bind, Run.watched_bind, h.accepts x]
  | true => rfl

/-! ## Uses -/

/-- That no rule takes the input is on record without a name. -/
theorem watchedAs_giveUp (d : Dispatcher σ ν In Out E) :
    d.giveUp.watchedAs k label = d.giveUp.watched := by
  rw [giveUp]
  cases d.logUnhandled <;> rfl

/-- A list keeps its size when one of its rules is replaced. -/
theorem size_replace (r r' : Rule σ ν In Out E) (front behind : List (Rule σ ν In Out E))
    (log : Bool) : size ⟨front ++ r' :: behind, log⟩ = size ⟨front ++ r :: behind, log⟩ := by
  simp [size]

/-- Giving up counts the same number of rules. -/
theorem giveUp_replace (r r' : Rule σ ν In Out E) (front behind : List (Rule σ ν In Out E))
    (log : Bool) : giveUp ⟨front ++ r' :: behind, log⟩ = giveUp ⟨front ++ r :: behind, log⟩ := by
  rw [giveUp, giveUp, size_replace r r']

/-- What is reported counts the same number of rules. -/
theorem settle_replace (r r' : Rule σ ν In Out E) (front behind : List (Rule σ ν In Out E))
    (log : Bool) : settle ⟨front ++ r' :: behind, log⟩ = settle ⟨front ++ r :: behind, log⟩ := by
  funext result?
  rcases result? with _ | _ | _
  · rw [settle, settle, size_replace r r']
  · rfl
  · rfl

/-- A dispatch is seen to be the same with the other rule in its place, up to the name of the
rule. -/
theorem watched_dispatch?_replace (h : r.LooksLike r') (front behind : List (Rule σ ν In Out E))
    (log : Bool) (x : In) :
    (dispatch? ⟨front ++ r' :: behind, log⟩ x).watched
      = (dispatch? ⟨front ++ r :: behind, log⟩ x).watchedAs front.length r'.label := by
  have hscan := watched_scan_replace h 0 front behind x
  rw [Nat.zero_add] at hscan
  rw [dispatch?_eq_otherwise, dispatch?_eq_otherwise, Run.watched_otherwise,
    Run.watchedAs_otherwise, watchedAs_giveUp, giveUp_replace r r', hscan]

/-- In a list of rules one may be replaced by another that looks the same: what is seen of each use
differs in the name of that rule alone. -/
theorem watched_ask_replace (h : r.LooksLike r') (front behind : List (Rule σ ν In Out E))
    (log : Bool) (u : InputStep σ ν In Out E) :
    (u.ask ⟨front ++ r' :: behind, log⟩).watched
      = (u.ask ⟨front ++ r :: behind, log⟩).watchedAs front.length r'.label := by
  have hdispatch? := watched_dispatch?_replace h front behind log
  cases u with
  | accepts x =>
    rw [InputStep.ask, InputStep.ask, Run.watched_map, Run.watchedAs_map, accepts, accepts,
      watched_anyAccepts_replace h, watchedAs_anyAccepts]
  | dispatch? x =>
    rw [InputStep.ask, InputStep.ask, Run.watched_map, Run.watchedAs_map, hdispatch?]
  | dispatch x =>
    rw [InputStep.ask, InputStep.ask, Run.watched_map, Run.watchedAs_map, dispatch_eq_map,
      dispatch_eq_map, Run.watched_map, Run.watchedAs_map, hdispatch?, settle_replace r r']
  | dispatchOr f x =>
    rw [InputStep.ask, InputStep.ask, Run.watched_map, Run.watchedAs_map, dispatchOr, dispatchOr,
      Run.watched_bind, Run.watchedAs_bind, hdispatch?]
    -- the fallback is no rule, and its call names none
    congr 2
    funext result?
    cases result? with
    | none => exact (Run.Follows.call .fallback f x).watchedAs_eq.symm
    | some result => rfl

/-- In a list of rules one may be replaced by another of its name that does the same. -/
theorem alike_replace (h : r.ActsLike r') (hlabel : r.label = r'.label)
    (front behind : List (Rule σ ν In Out E)) (log : Bool) :
    Alike ⟨front ++ r' :: behind, log⟩ ⟨front ++ r :: behind, log⟩ := by
  have hscan : ∀ n x, scan n (front ++ r' :: behind) x = scan n (front ++ r :: behind) x := by
    intro n x
    rw [scan_append, scan_append, scan, scan, h.react? x, hlabel]
  have hdispatch? : ∀ x, dispatch? ⟨front ++ r' :: behind, log⟩ x
      = dispatch? ⟨front ++ r :: behind, log⟩ x := by
    intro x
    rw [dispatch?_eq_otherwise, dispatch?_eq_otherwise, hscan, giveUp_replace r r']
  refine ⟨fun x => ?_, hdispatch?, fun x => ?_, fun f x => ?_⟩
  · rw [accepts, accepts, anyAccepts_append, anyAccepts_append, anyAccepts, anyAccepts,
      h.accepts x]
  · rw [dispatch_eq_map, dispatch_eq_map, hdispatch?, settle_replace r r']
  · rw [dispatchOr, dispatchOr, hdispatch?]

end Dispatcher

/-! ## Compiling -/

namespace Draft

variable {r r' : Rule σ ν In Out E} {front behind : List (Rule σ ν In Out E)} {settings : Settings}

/-- The other rule has its own name in the list of names. -/
theorem labels_replace (r r' : Rule σ ν In Out E) (front behind : List (Rule σ ν In Out E))
    (settings : Settings) : labels ⟨front ++ r' :: behind, settings⟩
      = (labels ⟨front ++ r :: behind, settings⟩).set front.length r'.label := by
  rw [labels, labels, List.map_append, List.map_append, List.map_cons, List.map_cons,
    ← List.length_map Rule.label, List.set_append_right _ _ (Nat.le_refl _), Nat.sub_self]
  rfl

/-- The first catch-all has the same place. -/
theorem catchAll?_replace (h : r.isCatchAll = r'.isCatchAll)
    (front behind : List (Rule σ ν In Out E)) (settings : Settings) :
    catchAll? ⟨front ++ r' :: behind, settings⟩ = catchAll? ⟨front ++ r :: behind, settings⟩ := by
  rw [catchAll?, catchAll?, List.findIdx?_append, List.findIdx?_append, List.findIdx?_cons,
    List.findIdx?_cons, h]

/-- The same rules are reported, one of them under another name. -/
theorem unreachable_replace (h : r.isCatchAll = r'.isCatchAll)
    (front behind : List (Rule σ ν In Out E)) (settings : Settings) :
    unreachable ⟨front ++ r' :: behind, settings⟩
      = (unreachable ⟨front ++ r :: behind, settings⟩).map
        (Unreachable.rename front.length r'.label) := by
  have hcatch := catchAll?_replace h front behind settings
  cases hk : catchAll? (⟨front ++ r :: behind, settings⟩ : Draft σ ν In Out E) with
  | none =>
    rw [hk] at hcatch
    rw [unreachable, unreachable, hk, hcatch, List.map_nil]
  | some k =>
    rw [hk] at hcatch
    apply List.ext_getElem?
    intro j
    rw [List.getElem?_map, getElem?_unreachable hcatch, getElem?_unreachable hk,
      labels_replace r r', List.getElem?_set', Option.map_map]
    generalize (labels ⟨front ++ r :: behind, settings⟩)[k + 1 + j]? = label?
    -- one report at most is about the rule that is replaced
    by_cases hplace : k + 1 + j = front.length
    · rw [if_pos hplace.symm]
      cases label? <;> simp [Unreachable.rename, hplace]
    · rw [if_neg (Ne.symm hplace)]
      cases label? <;> simp [Unreachable.rename, hplace]

/-- The records of a compilation are the same, up to the name of the rule. -/
theorem records_replace (h : r.isCatchAll = r'.isCatchAll)
    (front behind : List (Rule σ ν In Out E)) (settings : Settings) :
    records ⟨front ++ r' :: behind, settings⟩
      = (records ⟨front ++ r :: behind, settings⟩).map
        (Record.rename front.length r'.label) := by
  have hsize : size ⟨front ++ r' :: behind, settings⟩ = size ⟨front ++ r :: behind, settings⟩ := by
    simp [size]
  rw [records, records, unreachable_replace h, hsize, List.map_append]
  by_cases htolerate : settings.unreachable = .tolerate
  · rw [if_pos htolerate, if_pos htolerate]
    rfl
  · rw [if_neg htolerate, if_neg htolerate, List.map_map, List.map_map]
    rfl

/-- Compiling strictly fails for the same rule, up to the name, or compiles the list with the other
rule. -/
theorem compileStrict_replace (h : r.isCatchAll = r'.isCatchAll)
    (front behind : List (Rule σ ν In Out E)) (settings : Settings) :
    compileStrict ⟨front ++ r' :: behind, settings⟩
      = match compileStrict ⟨front ++ r :: behind, settings⟩ with
        | .error u => .error (u.rename front.length r'.label)
        | .ok _ => .ok (compile ⟨front ++ r' :: behind, settings⟩) := by
  rw [compileStrict, compileStrict, unreachable_replace h]
  generalize unreachable ⟨front ++ r :: behind, settings⟩ = reports
  cases settings.unreachable <;> cases reports <;> rfl

end Draft

namespace Rule

/-- A rule may stand in the place of another one in every list.  Of each use of the list a watcher
sees the same, and compiling the list, strictly or not, has the same outcome and writes the same
records; only the name of the rule at its place is another one. -/
structure StandsFor (r' r : Rule σ ν In Out E) : Prop where
  uses (front behind : List (Rule σ ν In Out E)) (log : Bool) (u : InputStep σ ν In Out E) :
    (u.ask ⟨front ++ r' :: behind, log⟩).watched
      = (u.ask ⟨front ++ r :: behind, log⟩).watchedAs front.length r'.label
  labels (front behind : List (Rule σ ν In Out E)) (settings : Settings) :
    Draft.labels ⟨front ++ r' :: behind, settings⟩
      = (Draft.labels ⟨front ++ r :: behind, settings⟩).set front.length r'.label
  records (front behind : List (Rule σ ν In Out E)) (settings : Settings) :
    (Draft.compile ⟨front ++ r' :: behind, settings⟩).records
      = (Draft.compile ⟨front ++ r :: behind, settings⟩).records.map
        (Record.rename front.length r'.label)
  strict (front behind : List (Rule σ ν In Out E)) (settings : Settings) :
    Draft.compileStrict ⟨front ++ r' :: behind, settings⟩
      = match Draft.compileStrict ⟨front ++ r :: behind, settings⟩ with
        | .error u => .error (u.rename front.length r'.label)
        | .ok _ => .ok (Draft.compile ⟨front ++ r' :: behind, settings⟩)

/-- A rule may stand in the place of another one in every list, and nobody can tell. -/
structure Interchanges (r r' : Rule σ ν In Out E) : Prop where
  uses (front behind : List (Rule σ ν In Out E)) (log : Bool) (u : InputStep σ ν In Out E) :
    (u.ask ⟨front ++ r' :: behind, log⟩).watched = (u.ask ⟨front ++ r :: behind, log⟩).watched
  labels (front behind : List (Rule σ ν In Out E)) (settings : Settings) :
    Draft.labels ⟨front ++ r' :: behind, settings⟩ = Draft.labels ⟨front ++ r :: behind, settings⟩
  records (front behind : List (Rule σ ν In Out E)) (settings : Settings) :
    (Draft.compile ⟨front ++ r' :: behind, settings⟩).records
      = (Draft.compile ⟨front ++ r :: behind, settings⟩).records
  strict (front behind : List (Rule σ ν In Out E)) (settings : Settings) :
    Draft.compileStrict ⟨front ++ r' :: behind, settings⟩
      = match Draft.compileStrict ⟨front ++ r :: behind, settings⟩ with
        | .error u => .error u
        | .ok _ => .ok (Draft.compile ⟨front ++ r' :: behind, settings⟩)

namespace LooksLike

variable {r r' : Rule σ ν In Out E}

/-- Rules that look alike may stand for each other. -/
theorem standsFor (h : r.LooksLike r') : r'.StandsFor r where
  uses := Dispatcher.watched_ask_replace h
  labels := Draft.labels_replace r r'
  records := Draft.records_replace h.isCatchAll
  strict := Draft.compileStrict_replace h.isCatchAll

/-- Under its own name a rule is not renamed, so rules of one name that look alike may be
interchanged. -/
theorem interchanges (h : r.LooksLike r') (hlabel : r.label = r'.label) : r.Interchanges r' := by
  have hown := (LooksLike.refl r).standsFor
  have hother := h.standsFor
  refine ⟨fun front behind log u => ?_, fun front behind settings => ?_,
    fun front behind settings => ?_, fun front behind settings => ?_⟩
  · rw [hother.uses, ← hlabel, ← hown.uses]
  · rw [hother.labels, ← hlabel, ← hown.labels]
  · rw [hother.records, ← hlabel, ← hown.records]
  · rw [hother.strict, ← hlabel]
    have hstrict := hown.strict front behind settings
    cases hc : Draft.compileStrict ⟨front ++ r :: behind, settings⟩ with
    | error u =>
      rw [hc] at hstrict
      exact hstrict.symm
    | ok c => rfl

end LooksLike

end Rule

end FirstMatch
