/-
# Maps behind one another

A map around a dispatcher sees the outputs of its actions and nothing else.  The search for a rule
goes on without it, and what an action answered goes through the map before the record of the rule
is written (`Dispatcher.dispatch?_through`).  So of a dispatcher with maps around it only what the
maps make of an output matters (`Dispatcher.watched_through_congr`).

Two maps are called one after the other, while a function that does both is called once and does the
second part of its work inside that call.  A watcher, who cannot tell a call from a note, sees the
same of both (`Callback.watched_andThen`); and he sees nothing of a map that does nothing
(`Callback.watched_silent`).
-/
import FirstMatch.Proofs.NormalForm
import FirstMatch.Proofs.Outcomes

namespace FirstMatch

variable {σ ν α β γ In Out Mid Next E View : Type}

/-! ## What a watcher sees of a run -/

namespace Run

/-- A run as a watcher sees it, who cannot tell a call from a note. -/
def watched (x : Run σ (Event ν) α) : Run σ (Entry ν) α := fun s =>
  ⟨(x s).outcome, Event.entries (x s).events, (x s).state⟩

/-- A value is seen as it is. -/
@[simp] theorem watched_pure (a : α) : (pure a : Run σ (Event ν) α).watched = pure a := rfl

/-- What is seen of runs one after the other is what is seen of each of them. -/
theorem watched_bind (x : Run σ (Event ν) α) (f : α → Run σ (Event ν) β) :
    (x >>= f).watched = x.watched >>= fun a => (f a).watched := by
  ext s
  rw [watched, bind_apply, bind_apply]
  rcases hx : x s with ⟨a | message, events, t⟩
  · simp only [watched, hx, Ending.after, Event.entries_append]
  · simp only [watched, hx]

/-- A function of the value of a run is seen as one. -/
theorem watched_map (f : α → β) (x : Run σ (Event ν) α) :
    (f <$> x).watched = f <$> x.watched := by
  rw [map_eq_pure_bind, watched_bind, map_eq_pure_bind]
  simp only [watched_pure]

end Run

namespace Callback

/-- The notes of a function are seen as they are. -/
theorem entries_map_note (notes : List ν) :
    Event.entries (notes.map Event.note) = notes.map Entry.note := by
  rw [Event.entries, List.filterMap_map]
  exact congrFun List.filterMap_eq_map' notes

/-- Of a call are seen what it shows and the notes of the function. -/
theorem watched_call_apply (role : Role) (f : Callback σ ν α β) (a : α) (s : σ) :
    (f.call role a).watched s = ⟨(f.body a s).outcome,
      ((f.shows a).toList ++ (f.body a s).events).map .note, (f.body a s).state⟩ := by
  have hentries : Event.entries (f.call role a s).events
      = ((f.shows a).toList ++ (f.body a s).events).map .note := by
    have hcall : Event.entries [Event.call role (f.shows a)] = (f.shows a).toList.map .note := by
      cases f.shows a <;> rfl
    rw [call_events, ← List.singleton_append, Event.entries_append, entries_map_note, hcall,
      List.map_append]
  rw [Run.watched, hentries]
  rfl

/-- Two functions called as one look like two calls, one behind the other. -/
theorem watched_andThen (role : Role) (f : Callback σ ν α β) (g : Callback σ ν β γ) (a : α) :
    ((f.andThen g).call role a).watched
      = (f.call role a >>= fun b => g.call role b).watched := by
  ext s
  rw [Run.watched_bind, watched_call_apply, Run.bind_apply, watched_call_apply]
  have hbody : (f.andThen g).body a = f.body a >>= g.within := rfl
  have hshows : (f.andThen g).shows a = f.shows a := rfl
  rw [hbody, hshows, Run.bind_apply]
  rcases hf : f.body a s with ⟨b | message, notes, t⟩
  · simp only [watched_call_apply, within, Ending.after, List.map_append, List.append_assoc]
  · rfl

/-- Of a function without effects that shows nothing there is nothing to be seen. -/
theorem watched_silent (role : Role) (f : α → β) (a : α) :
    ((silent f : Callback σ ν α β).call role a).watched = pure (f a) := by
  ext s
  rw [watched_call_apply]
  rfl

end Callback

/-! ## Results behind maps -/

/-- What maps make of a result: they see outputs only. -/
def MapChain.treat (maps : MapChain σ ν Mid Out) : Except E Mid → Run σ (Event ν) (Except E Out)
  | .ok out => .ok <$> maps.pass out
  | .error e => pure (.error e)

/-- An action behind maps runs first, and the maps treat its result. -/
theorem Action.run_through_eq_treat (maps : MapChain σ ν Mid Out) (a : Action σ ν View E Mid)
    (v : View) : (a.through maps).run v = a.run v >>= maps.treat := run_through maps a v

/-- A rule behind maps selects as before, and what its action answers goes through the maps. -/
theorem Rule.react?_through (maps : MapChain σ ν Out Next) (r : Rule σ ν In Out E) (x : In) :
    (r.through maps).react? x = r.select? x >>= fun v? =>
      match v? with
      | none => pure none
      | some v => some <$> (r.action.run v >>= maps.treat) := by
  have hrun : ∀ v, (r.through maps).action.run v = r.action.run v >>= maps.treat :=
    Action.run_through_eq_treat maps r.action
  rw [react?]
  show r.select? x >>= _ = _
  congr 1
  funext v?
  cases v? with
  | none => rfl
  | some v => exact (map_eq_pure_bind some _).symm.trans (congrArg (some <$> ·) (hrun v))

namespace Dispatcher

/-- The same dispatcher with maps around every action, of which the first is the innermost. -/
def through (maps : MapChain σ ν Out Next) (d : Dispatcher σ ν In Out E) :
    Dispatcher σ ν In Next E :=
  ⟨d.rules.map (Rule.through maps), d.logUnhandled⟩

/-- Behind no maps a dispatcher stays as it is. -/
theorem through_nil (d : Dispatcher σ ν In Out E) : d.through .nil = d := by
  have hrules : d.rules.map (Rule.through .nil) = d.rules := List.map_id d.rules
  exact congrArg (fun rules => (⟨rules, d.logUnhandled⟩ : Dispatcher σ ν In Out E)) hrules

/-- A map in front of others is the one that is put around a dispatcher first. -/
theorem through_cons (f : Callback σ ν Out Mid) (maps : MapChain σ ν Mid Next)
    (d : Dispatcher σ ν In Out E) : d.through (.cons f maps) = (d.map f).through maps := by
  have hrules : d.rules.map (Rule.through (.cons f maps))
      = (d.rules.map (Rule.map f)).map (Rule.through maps) := by
    rw [List.map_map]
    rfl
  exact congrArg (fun rules => (⟨rules, d.logUnhandled⟩ : Dispatcher σ ν In Next E)) hrules

/-- One map is a chain of one. -/
theorem map_eq_through (f : Callback σ ν Out Next) (d : Dispatcher σ ν In Out E) :
    d.map f = d.through (.cons f .nil) := by
  rw [through_cons, through_nil]

/-- A map around a map is a chain of two. -/
theorem map_map_eq_through (f : Callback σ ν Out Mid) (g : Callback σ ν Mid Next)
    (d : Dispatcher σ ν In Out E) : (d.map f).map g = d.through (.cons f (.cons g .nil)) := by
  rw [through_cons, through_cons, through_nil]

variable {rules : List (Rule σ ν In Out E)}

/-- The rule of a hit answers through maps; the first rule of the list has the place `n`. -/
def answerThrough? (maps : MapChain σ ν Out Next) (n : Nat) :
    Option (Hit rules) → Run σ (Event ν) (Option (Except E Next))
  | none => pure none
  | some h => do
    let result ← (rules.get h.index).action.run h.view
    let result ← maps.treat result
    Run.emit (.log (.handled (n + h.index) (rules.get h.index).label))
    return some result

/-- If there is a hit behind the first rule it answers through maps one place later. -/
theorem answerThrough?_map_later (maps : MapChain σ ν Out Next) (n : Nat) {r : Rule σ ν In Out E}
    (h? : Option (Hit rules)) : answerThrough? maps n (h?.map (Hit.later (r := r)))
      = answerThrough? maps (n + 1) h? := by
  cases h? with
  | none => rfl
  | some h =>
    -- the same rule, whose place is now counted with `r` in front of it
    have hplace : n + (h.index.succ : Nat) = n + 1 + h.index := by
      rw [Fin.val_succ]
      omega
    rw [Option.map_some, answerThrough?, answerThrough?]
    show _ >>= (fun result => maps.treat result >>= fun result =>
      Run.emit (.log (.handled (n + (h.index.succ : Nat)) _)) >>= _) = _
    rw [hplace]
    rfl

/-- A scan behind maps searches for a rule of the list without maps, and lets that one answer
through the maps. -/
theorem scan_through (maps : MapChain σ ν Out Next) (n : Nat) (rules : List (Rule σ ν In Out E))
    (x : In) :
    scan n (rules.map (Rule.through maps)) x = find? rules x >>= answerThrough? maps n := by
  induction rules generalizing n with
  | nil => rfl
  | cons r rules ih =>
    rw [List.map_cons, scan, find?, Rule.react?_through, bind_assoc, bind_assoc]
    congr 1
    funext v?
    cases v? with
    -- `ih` counts the rules behind the first from `n + 1`, as their hits do
    | none => simp only [pure_bind, ih, bind_assoc, answerThrough?_map_later]
    | some v =>
      simp only [pure_bind, bind_assoc, map_eq_pure_bind]
      rfl

/-- A dispatch behind maps is a search of the dispatcher without maps; what it finds answers through
the maps, and only then the record is written. -/
theorem dispatch?_through (maps : MapChain σ ν Out Next) (d : Dispatcher σ ν In Out E) (x : In) :
    (d.through maps).dispatch? x
      = (find? d.rules x >>= answerThrough? maps 0).otherwise (d.through maps).giveUp := by
  rw [dispatch?_eq_otherwise, through, scan_through]

/-- Maps are not asked whether an input is accepted. -/
theorem accepts_through (maps : MapChain σ ν Out Next) (d : Dispatcher σ ν In Out E) (x : In) :
    (d.through maps).accepts x = d.accepts x := by
  have hany : ∀ rules : List (Rule σ ν In Out E),
      anyAccepts (rules.map (Rule.through maps)) x = anyAccepts rules x := by
    intro rules
    induction rules with
    | nil => rfl
    | cons r rules ih =>
      rw [List.map_cons, anyAccepts, anyAccepts, ih]
      rfl
  exact hany d.rules

/-- Maps leave the number of rules. -/
@[simp] theorem size_through (maps : MapChain σ ν Out Next) (d : Dispatcher σ ν In Out E) :
    (d.through maps).size = d.size := List.length_map _

/-! ## What maps make of the ends of a dispatch -/

section Ends

variable {d : Dispatcher σ ν In Out E} {x : In} {s t : σ} {events : List (Event ν)}

/-- Where a search finds a rule a dispatch behind maps goes on with the answer of the rule through
the maps. -/
theorem dispatch?_through_of_found {h : Hit d.rules}
    (hfind : find? d.rules x s = ⟨.done (some h), events, t⟩) (maps : MapChain σ ν Out Next) :
    (d.through maps).dispatch? x s = (answerThrough? maps 0 (some h) t).after events := by
  have hsettled : (answerThrough? maps 0 (some h)).otherwise (d.through maps).giveUp
      = answerThrough? maps 0 (some h) := by
    simp only [Run.otherwise, answerThrough?, bind_assoc, pure_bind]
  rw [dispatch?_through, Run.otherwise, bind_assoc, Run.bind_of_done hfind]
  exact congrArg (fun y : Run σ (Event ν) _ => (y t).after events) hsettled

/-- Where no rule takes the input, maps are not called. -/
theorem dispatch?_through_of_none (h : d.dispatch? x s = ⟨.done none, events, t⟩)
    (maps : MapChain σ ν Out Next) : (d.through maps).dispatch? x s = ⟨.done none, events, t⟩ := by
  obtain ⟨asked, hscan, rfl⟩ := dispatch?_eq_none_iff_scan.mp h
  have hfind := scan_eq_none_iff.mp hscan
  have hnone : (find? d.rules x >>= answerThrough? maps 0) s = ⟨.done none, asked, t⟩ := by
    rw [Run.bind_of_done hfind, answerThrough?, Run.pure_apply, Ending.after_mk, List.append_nil]
  have hlog : (d.through maps).unhandledLog = d.unhandledLog := by
    rw [unhandledLog, unhandledLog, size_through]
    rfl
  rw [dispatch?_through, Run.otherwise_of_none hnone, giveUp_apply, hlog, Ending.after_mk]

/-- Where a dispatch panics without maps, it does so with them, and they are not called. -/
theorem dispatch?_through_of_panic {message : String}
    (h : d.dispatch? x s = ⟨.panic message, events, t⟩) (maps : MapChain σ ν Out Next) :
    (d.through maps).dispatch? x s = ⟨.panic message, events, t⟩ := by
  obtain hfind | _ | ⟨hfind, hrun⟩ := course_iff.mpr h
  · have hpanic : (find? d.rules x >>= answerThrough? maps 0) s = ⟨.panic message, events, t⟩ :=
      Run.bind_of_panic hfind _
    rw [dispatch?_through, Run.otherwise, Run.bind_of_panic hpanic]
  · rw [dispatch?_through_of_found hfind, answerThrough?, Run.bind_of_panic hrun, Ending.after_mk]

/-- What an action answered goes through the maps, and then the record of its rule is written. -/
theorem dispatch?_through_of_some {result : Except E Out}
    (h : d.dispatch? x s = ⟨.done (some result), events, t⟩) :
    ∃ called i label, events = called ++ [.log (.handled i label)]
      ∧ called.filterMap Event.record? = []
      ∧ ∀ {Next : Type} (maps : MapChain σ ν Out Next),
        (d.through maps).dispatch? x s = ((do
          let result ← maps.treat result
          Run.emit (.log (.handled i label))
          return some result : Run σ (Event ν) (Option (Except E Next))) t).after called := by
  obtain _ | _ | _ | @⟨hit, _, selecting, answering, _, _, hfind, hrun⟩ := course_iff.mpr h
  refine ⟨selecting ++ answering, hit.index, (d.rules.get hit.index).label, rfl, ?_, fun maps => ?_⟩
  · rw [List.filterMap_append, (follows_find? d.rules x).no_records hfind,
      (Action.follows_run _ _).no_records hrun]
    rfl
  · rw [dispatch?_through_of_found hfind, answerThrough?, Run.bind_of_done hrun,
      Ending.after_after, Nat.zero_add]

/-- A failure passes maps by, and they are not called. -/
theorem dispatch?_through_of_error {e : E}
    (h : d.dispatch? x s = ⟨.done (some (.error e)), events, t⟩) (maps : MapChain σ ν Out Next) :
    (d.through maps).dispatch? x s = ⟨.done (some (.error e)), events, t⟩ := by
  obtain ⟨called, i, label, rfl, -, hthrough⟩ := dispatch?_through_of_some h
  rw [hthrough maps, MapChain.treat, pure_bind, Run.bind_of_done (Run.emit_apply _ t)]
  rfl

end Ends

/-! ## Maps that look alike -/

section Watched

variable {maps maps' : MapChain σ ν Out Next}

/-- Maps that are seen to make the same of outputs are seen to make the same of results. -/
theorem watched_treat_congr (h : ∀ out, (maps.pass out).watched = (maps'.pass out).watched)
    (result : Except E Out) : (maps.treat result).watched = (maps'.treat result).watched := by
  cases result with
  | error e => rfl
  | ok out => rw [MapChain.treat, MapChain.treat, Run.watched_map, Run.watched_map, h out]

/-- Behind maps that are seen to make the same of outputs a hit is seen to answer the same. -/
theorem watched_answerThrough?_congr
    (h : ∀ out, (maps.pass out).watched = (maps'.pass out).watched) (n : Nat)
    (h? : Option (Hit rules)) :
    (answerThrough? maps n h?).watched = (answerThrough? maps' n h?).watched := by
  cases h? with
  | none => rfl
  | some h' => simp only [answerThrough?, Run.watched_bind, watched_treat_congr h]

/-- Behind maps that are seen to make the same of outputs a dispatch is seen to answer the same. -/
theorem watched_dispatch?_through_congr
    (h : ∀ out, (maps.pass out).watched = (maps'.pass out).watched) (d : Dispatcher σ ν In Out E)
    (x : In) :
    ((d.through maps).dispatch? x).watched = ((d.through maps').dispatch? x).watched := by
  have hgiveUp : (d.through maps).giveUp = (d.through maps').giveUp := by
    rw [giveUp, giveUp, size_through, size_through]
    rfl
  rw [dispatch?_through, dispatch?_through, Run.otherwise, Run.otherwise, Run.watched_bind,
    Run.watched_bind, Run.watched_bind, Run.watched_bind, hgiveUp]
  congr 2
  funext h?
  exact watched_answerThrough?_congr h 0 h?

/-- If the same is seen of an output that goes through some maps or through others, then the same is
seen of each use of a dispatcher with the ones around it or with the others. -/
theorem watched_through_congr (h : ∀ out, (maps.pass out).watched = (maps'.pass out).watched)
    (d : Dispatcher σ ν In Out E) (u : InputStep σ ν In Next E) :
    (u.ask (d.through maps)).watched = (u.ask (d.through maps')).watched := by
  have hdispatch? := watched_dispatch?_through_congr h d
  cases u with
  | accepts x => simp only [InputStep.ask, accepts_through]
  | dispatch? x => simp only [InputStep.ask, Run.watched_map, hdispatch?]
  | dispatch x =>
    -- without an answer the number of rules is reported, which maps leave
    have hsettle : (d.through maps).settle = (d.through maps').settle (E := E) := by
      funext result?
      rcases result? with _ | _ | _
      · rw [settle, settle, size_through, size_through]
      · rfl
      · rfl
    simp only [InputStep.ask, Run.watched_map, dispatch_eq_map, hdispatch?, hsettle]
  | dispatchOr f x =>
    simp only [InputStep.ask, Run.watched_map, dispatchOr, Run.watched_bind, hdispatch?]

end Watched

end Dispatcher

/-! ## Calls of maps -/

/-- An output passes one map by one call. -/
theorem MapChain.pass_singleton (f : Callback σ ν Mid Out) (out : Mid) :
    (cons f nil).pass out = f.call .map out := bind_pure (f.call .map out)

namespace Dispatcher

/-- An output goes through a map by one call of the map. -/
theorem callsIn_map_of_ok {d : Dispatcher σ ν In Out E} {x : In} {s t : σ}
    {events : List (Event ν)} {out : Out}
    (h : d.dispatch? x s = ⟨.done (some (.ok out)), events, t⟩) (f : Callback σ ν Out Next) :
    Event.callsIn .map ((d.map f).dispatch? x s).events = Event.callsIn .map events + 1 := by
  obtain ⟨called, i, label, rfl, -, hthrough⟩ := dispatch?_through_of_some h
  have hcall : Event.callsIn .map (f.call .map out t).events = 1 :=
    (Transcript.happens_call .map f out t).callsIn .map
  have hlog : Event.callsIn .map [(.log (.handled i label) : Event ν)] = 0 := rfl
  rw [map_eq_through, hthrough, MapChain.treat, MapChain.pass_singleton, Ending.after,
    Event.callsIn_append, Event.callsIn_append, hlog]
  -- the map is called once, whether it has an output or panics
  rcases hf : f.call .map out t with ⟨next | message, events', u⟩
  · have hmap : ((Except.ok <$> f.call .map out : Run σ (Event ν) (Except E Next)) t)
        = ⟨.done (.ok next), events', u⟩ := by
      rw [Run.map_apply, hf]
      rfl
    have hafter : Event.callsIn .map (events' ++ [(.log (.handled i label) : Event ν)]) = 1 := by
      rw [Event.callsIn_append, hlog, ← hcall, hf, Nat.add_zero]
    rw [Run.bind_of_done hmap]
    exact congrArg (Event.callsIn .map called + ·) hafter
  · have hmap : ((Except.ok <$> f.call .map out : Run σ (Event ν) (Except E Next)) t)
        = ⟨.panic message, events', u⟩ := Run.map_eq_panic_iff.mpr hf
    rw [Run.bind_of_panic hmap, ← hcall, hf]
    rfl

/-- While a dispatcher is asked whether it accepts an input no map is called. -/
theorem callsIn_map_accepts (d : Dispatcher σ ν In Out E) (x : In) (s : σ) :
    Event.callsIn .map (d.accepts x s).events = 0 := by
  rw [accepts_apply]
  refine Event.callsIn_eq_zero fun e he => ?_
  exact not_isCall_of_follows (follows_find? d.rules x) (fun _ _ hfinds => hfinds.within) rfl rfl he

/-- Two maps one after the other look like one that does what both do. -/
theorem watched_map_map (d : Dispatcher σ ν In Out E) (f : Callback σ ν Out Mid)
    (g : Callback σ ν Mid Next) (u : InputStep σ ν In Next E) :
    (u.ask ((d.map f).map g)).watched = (u.ask (d.map (f.andThen g))).watched := by
  rw [map_map_eq_through, map_eq_through]
  refine watched_through_congr (fun out => ?_) d u
  simp only [MapChain.pass, bind_pure]
  exact (Callback.watched_andThen .map f g out).symm

/-- A map that does nothing looks like none. -/
theorem watched_map_silent (d : Dispatcher σ ν In Out E) (u : InputStep σ ν In Out E) :
    (u.ask (d.map (.silent id))).watched = (u.ask d).watched := by
  have hsilent : ∀ out, (MapChain.pass (.cons (.silent id) .nil) out).watched
      = (MapChain.pass (.nil : MapChain σ ν Out Out) out).watched := by
    intro out
    rw [MapChain.pass_singleton, Callback.watched_silent]
    rfl
  have hwatched := watched_through_congr hsilent d u
  rwa [← map_eq_through, through_nil] at hwatched

/-- What the dispatch of an input comes to under one map and under two, when without maps it ends
with an output in the state `t`, behind the calls that leave `called` and with the record of the
rule at the place `i`. -/
structure MapsOutput (d : Dispatcher σ ν In Out E) (f : Callback σ ν Out Mid)
    (g : Callback σ ν Mid Next) (x : In) (s : σ) (out : Out) (t : σ) (called : List (Event ν))
    (i : Nat) (label : String) : Prop where
  no_records : called.filterMap Event.record? = []
  one : (d.map f).dispatch? x s = ((do
    let next ← f.call .map out
    Run.emit (.log (.handled i label))
    return some (.ok next) : Run σ (Event ν) (Option (Except E Mid))) t).after called
  two : ((d.map f).map g).dispatch? x s = ((do
    let next ← f.call .map out
    let last ← g.call .map next
    Run.emit (.log (.handled i label))
    return some (.ok last) : Run σ (Event ν) (Option (Except E Next))) t).after called
  /-- If the first map panics then the second is not called and the record not written. -/
  panic (message : String) (events : List (Event ν)) (u : σ) :
    f.call .map out t = ⟨.panic message, events, u⟩ →
      (d.map f).dispatch? x s = ⟨.panic message, called ++ events, u⟩
      ∧ ((d.map f).map g).dispatch? x s = ⟨.panic message, called ++ events, u⟩

/-- An output goes through the maps between the calls of the action and the record of the rule. -/
theorem exists_mapsOutput {d : Dispatcher σ ν In Out E} {x : In} {s t : σ}
    {events : List (Event ν)} {out : Out}
    (h : d.dispatch? x s = ⟨.done (some (.ok out)), events, t⟩) (f : Callback σ ν Out Mid)
    (g : Callback σ ν Mid Next) :
    ∃ called i label, events = called ++ [.log (.handled i label)]
      ∧ MapsOutput d f g x s out t called i label := by
  obtain ⟨called, i, label, hevents, hcalled, hthrough⟩ := dispatch?_through_of_some h
  have hone := hthrough (.cons f .nil)
  have htwo := hthrough (.cons f (.cons g .nil))
  simp only [MapChain.treat, MapChain.pass, map_eq_pure_bind, bind_assoc, pure_bind] at hone htwo
  rw [← map_eq_through] at hone
  rw [← map_map_eq_through] at htwo
  refine ⟨called, i, label, hevents, hcalled, hone, htwo, fun message events' u hf => ⟨?_, ?_⟩⟩
  · rw [hone, Run.bind_of_panic hf, Ending.after_mk]
  · rw [htwo, Run.bind_of_panic hf, Ending.after_mk]

/-- What maps around a dispatcher change, and what they leave as it is. -/
structure MapsCompose (d : Dispatcher σ ν In Out E) (f : Callback σ ν Out Mid)
    (g : Callback σ ν Mid Next) : Prop where
  /-- Two maps look like one that does what both do. -/
  watched_andThen (u : InputStep σ ν In Next E) :
    (u.ask ((d.map f).map g)).watched = (u.ask (d.map (f.andThen g))).watched
  /-- A map that does nothing looks like none. -/
  watched_silent (u : InputStep σ ν In Out E) :
    (u.ask (d.map (.silent id))).watched = (u.ask d).watched
  accepts_eq (x : In) : (d.map f).accepts x = d.accepts x
  /-- Asking whether an input is accepted calls no map. -/
  callsIn_accepts (x : In) (s : σ) : Event.callsIn .map (d.accepts x s).events = 0
  /-- The map is called on an output, behind the calls of the action and in front of the record. -/
  output (x : In) (s : σ) (out : Out) (events : List (Event ν)) (t : σ) :
    d.dispatch? x s = ⟨.done (some (.ok out)), events, t⟩ →
      ∃ called i label, events = called ++ [.log (.handled i label)]
        ∧ MapsOutput d f g x s out t called i label
  /-- The map is called once on an output. -/
  callsIn_output (x : In) (s : σ) (out : Out) (events : List (Event ν)) (t : σ) :
    d.dispatch? x s = ⟨.done (some (.ok out)), events, t⟩ →
      Event.callsIn .map ((d.map f).dispatch? x s).events = Event.callsIn .map events + 1
  /-- Where no rule takes the input a map changes nothing. -/
  nothing (x : In) (s : σ) (events : List (Event ν)) (t : σ) :
    d.dispatch? x s = ⟨.done none, events, t⟩ → (d.map f).dispatch? x s = ⟨.done none, events, t⟩
  /-- A failure of the action passes by a map. -/
  failure (x : In) (s : σ) (e : E) (events : List (Event ν)) (t : σ) :
    d.dispatch? x s = ⟨.done (some (.error e)), events, t⟩ →
      (d.map f).dispatch? x s = ⟨.done (some (.error e)), events, t⟩
  /-- A panic comes before a map. -/
  panic (x : In) (s : σ) (message : String) (events : List (Event ν)) (t : σ) :
    d.dispatch? x s = ⟨.panic message, events, t⟩ →
      (d.map f).dispatch? x s = ⟨.panic message, events, t⟩
  labels : (d.map f).labels = d.labels
  size : (d.map f).size = d.size
  isCatchAll : (d.map f).rules.map Rule.isCatchAll = d.rules.map Rule.isCatchAll
  logUnhandled : (d.map f).logUnhandled = d.logUnhandled

/-- Two maps around a dispatcher, one after the other, and one map that does what both do look the
same in every use, and a map that does nothing looks like none.  Asking whether an input is accepted
is not affected by a map and does not call it.  A dispatch calls the map exactly if an action
answered with an output, once, on that output, behind the calls of the action and in front of the
record of the rule; if the map panics then neither the next map is called nor the record written.
All else is as it was. -/
theorem maps_compose (d : Dispatcher σ ν In Out E) (f : Callback σ ν Out Mid)
    (g : Callback σ ν Mid Next) : MapsCompose d f g where
  watched_andThen := watched_map_map d f g
  watched_silent := watched_map_silent d
  accepts_eq x := by rw [map_eq_through, accepts_through]
  callsIn_accepts := callsIn_map_accepts d
  output _ _ _ _ _ h := exists_mapsOutput h f g
  callsIn_output _ _ _ _ _ h := callsIn_map_of_ok h f
  nothing _ _ _ _ h := by
    rw [map_eq_through]
    exact dispatch?_through_of_none h _
  failure _ _ _ _ _ h := by
    rw [map_eq_through]
    exact dispatch?_through_of_error h _
  panic _ _ _ _ _ h := by
    rw [map_eq_through]
    exact dispatch?_through_of_panic h _
  labels := labels_map f d
  size := size_map f d
  isCatchAll := by
    rw [map, List.map_map]
    rfl
  logUnhandled := rfl

namespace Sample

/-- Adds the number of calls that were made before, which it notes. -/
def tallying : Callback Nat Nat Nat Nat where
  shows out := some out
  body out n := ⟨.done (out + n), [n], n + 1⟩

/-- Takes no output. -/
def breaking : Callback Nat Nat Nat Nat where
  shows out := some out
  body _ := Run.panic "broken"

end Sample

/-- The sample takes the second input, and of two maps around it the first one panics; so neither
the second is called nor the record written. -/
theorem maps_compose_breaking :
    Sample.once.dispatch? 3 1 = ⟨.done (some (.ok 3)),
      [.call .condition none, .note 1, .call .action (some 3), .log (.handled 0 "any")], 2⟩
    ∧ (InputStep.ask ((Sample.once.map Sample.breaking).map Sample.tallying)
        (.dispatch? 3)).watched
      = (InputStep.ask (Sample.once.map (Sample.breaking.andThen Sample.tallying))
        (.dispatch? 3)).watched
    ∧ (∃ called, ((Sample.once.map Sample.breaking).map Sample.tallying).dispatch? 3 1
      = ⟨.panic "broken", called ++ [.call .map (some 3)], 2⟩)
    ∧ Event.callsIn .map ((Sample.once.map Sample.breaking).dispatch? 3 1).events = 1 := by
  have hmaps := maps_compose Sample.once Sample.breaking Sample.tallying
  obtain ⟨called, _, _, -, houtput⟩ := hmaps.output 3 1 3 _ _ rfl
  obtain ⟨-, htwo⟩ := houtput.panic "broken" _ _ rfl
  exact ⟨rfl, hmaps.watched_andThen (.dispatch? 3), ⟨called, htwo⟩,
    hmaps.callsIn_output 3 1 3 _ _ rfl⟩

end Dispatcher

end FirstMatch
