/-
# Transcripts

A transcript lists calls of functions of the user with how they ended.  Whether it comes about is a
matter of the state in which the first call is made: each call must end as the transcript says, from
the state that the calls before it left (`Transcript.Happens`).

A protocol says which transcripts lead to which outcome, without any state.  A run follows a
protocol if it ends in an outcome exactly when a transcript that leads to the outcome happens, with
the events and the final state of that transcript (`Run.Follows`).  Protocols are put together as
runs are (`Run.Follows.bind`), so what a run asks of whom can be read off its protocol.
-/
import FirstMatch.Callback

namespace FirstMatch

variable {σ ν α β : Type}

/-- What stands in a list of two parts stands in the second one or in the first one. -/
theorem append_eq_append_cons.{u} {α : Type u} {first second front rest : List α} {a : α}
    (h : first ++ second = front ++ a :: rest) :
    (∃ middle, front = first ++ middle ∧ second = middle ++ a :: rest)
      ∨ ∃ middle, first = front ++ a :: middle ∧ rest = middle ++ second := by
  obtain hsecond | ⟨middle, rfl, hmiddle⟩ := List.append_eq_append_iff.mp h
  · exact .inl hsecond
  · cases middle with
    | nil => exact .inl ⟨[], by simp, hmiddle.symm⟩
    | cons b middle =>
      obtain ⟨rfl, rfl⟩ := List.cons.inj hmiddle
      exact .inr ⟨middle, rfl, rfl⟩

/-! ## Calls and how they ended -/

/-- The same outcome with a function applied to the value. -/
def Outcome.map (f : α → β) : Outcome α → Outcome β
  | done a => done (f a)
  | panic message => panic message

/-- A function of the value of a run changes neither its events nor its state. -/
theorem Run.map_apply {ω : Type} (f : α → β) (x : Run σ ω α) (s : σ) :
    (f <$> x) s = ⟨(x s).outcome.map f, (x s).events, (x s).state⟩ := by
  rw [map_eq_pure_bind, Run.bind_apply]
  rcases x s with ⟨a | message, events, t⟩
  · simp [Outcome.map]
  · rfl

/-- A run panics under a function of its value exactly as without it. -/
theorem Run.map_eq_panic_iff {ω : Type} {f : α → β} {x : Run σ ω α} {s t : σ} {message : String}
    {events : List ω} :
    (f <$> x) s = ⟨.panic message, events, t⟩ ↔ x s = ⟨.panic message, events, t⟩ := by
  rw [Run.map_apply]
  rcases x s with ⟨a | message', events', t'⟩ <;> simp [Outcome.map]

/-- A call of a function: what it was called for and on, and how the call ended. -/
structure Exchange (σ ν : Type) : Type 1 where
  role : Role
  {Argument : Type}
  {Answer : Type}
  function : Callback σ ν Argument Answer
  argument : Argument
  outcome : Outcome Answer

/-- Calls in the order in which they were made, with how they ended. -/
abbrev Transcript (σ ν : Type) : Type 1 := List (Exchange σ ν)

namespace Transcript

/-- From the state `s` on the calls of a transcript, made one after the other, end as it says; they
leave the events and the state `t`. -/
inductive Happens : σ → Transcript σ ν → List (Event ν) → σ → Prop
  | nil (s : σ) : Happens s [] [] s
  | cons {c : Exchange σ ν} {calls : Transcript σ ν} {events events' : List (Event ν)} {s t u : σ} :
    c.function.call c.role c.argument s = ⟨c.outcome, events, t⟩ →
    Happens t calls events' u →
    Happens s (c :: calls) (events ++ events') u

variable {s t u : σ} {calls rest : Transcript σ ν} {events events' : List (Event ν)}

/-- Where no call is made there are no events and the state stays. -/
@[simp] theorem happens_nil_iff : Happens s [] events t ↔ events = [] ∧ t = s := by
  constructor
  · rintro ⟨⟩
    exact ⟨rfl, rfl⟩
  · rintro ⟨rfl, rfl⟩
    exact .nil t

/-- A single call happens as the run of its function does. -/
theorem happens_singleton_iff {c : Exchange σ ν} :
    Happens s [c] events t ↔ c.function.call c.role c.argument s = ⟨c.outcome, events, t⟩ := by
  constructor
  · rintro (_ | ⟨hc, hrest⟩)
    obtain ⟨rfl, rfl⟩ := happens_nil_iff.mp hrest
    rw [hc, List.append_nil]
  · intro hc
    have h := Happens.cons hc (.nil t)
    rwa [List.append_nil] at h

/-- A call of a function, with how it ends. -/
theorem happens_call (role : Role) (f : Callback σ ν α β) (a : α) (s : σ) :
    Happens s [⟨role, f, a, (f.call role a s).outcome⟩] (f.call role a s).events
      (f.call role a s).state :=
  happens_singleton_iff.mpr rfl

/-- Two transcripts may happen one after the other. -/
theorem Happens.append (h : Happens s calls events t) (h' : Happens t rest events' u) :
    Happens s (calls ++ rest) (events ++ events') u := by
  -- on the calls of the first part, each of which hands its state on
  induction h with
  | nil s => exact h'
  | cons hc _ ih =>
    rw [List.append_assoc]
    exact .cons hc (ih h')

/-- A transcript in two parts goes through a state between them. -/
theorem Happens.of_append {all : List (Event ν)} (h : Happens s (calls ++ rest) all u) :
    ∃ events t events', Happens s calls events t ∧ Happens t rest events' u
      ∧ all = events ++ events' := by
  induction calls generalizing s all with
  | nil => exact ⟨[], s, all, .nil s, h, rfl⟩
  | cons c calls ih =>
    obtain _ | ⟨hc, htail⟩ := h
    obtain ⟨events, t, events', hcalls, hrest, rfl⟩ := ih htail
    exact ⟨_, t, events', .cons hc hcalls, hrest, by rw [List.append_assoc]⟩

/-- Functions of the user write no log records. -/
theorem Happens.no_records (h : Happens s calls events t) :
    events.filterMap Event.record? = [] := by
  induction h with
  | nil s => rfl
  | @cons c calls events events' s t u hc _ ih =>
    have hevents := congrArg Ending.events hc
    rw [Callback.call_events] at hevents
    rw [List.filterMap_append, ih, List.append_nil, ← show _ = events from hevents]
    simp [Event.record?]

/-- Calls leave no log record. -/
theorem Happens.log_notMem (h : Happens s calls events t) (record : Record) :
    .log record ∉ events := by
  intro hmem
  have hnone := List.filterMap_eq_nil_iff.mp h.no_records _ hmem
  cases hnone

end Transcript

/-! ## Protocols -/

/-- Which transcripts lead to which outcome. -/
abbrev Protocol (σ ν α : Type) : Type 1 := Transcript σ ν → Outcome α → Prop

namespace Protocol

/-- Nothing is asked. -/
inductive Pure (a : α) : Protocol σ ν α
  | intro : Pure a [] (.done a)

/-- One call of a function, which decides the outcome. -/
inductive Call (role : Role) (f : Callback σ ν α β) (a : α) : Protocol σ ν β
  | intro (o : Outcome β) : Call role f a [⟨role, f, a, o⟩] o

/-- One protocol after the other; behind a panic nothing is asked. -/
inductive Bind (P : Protocol σ ν α) (Q : α → Protocol σ ν β) : Protocol σ ν β
  | panic {calls : Transcript σ ν} {message : String} :
    P calls (.panic message) → Bind P Q calls (.panic message)
  | done {calls rest : Transcript σ ν} {a : α} {o : Outcome β} :
    P calls (.done a) → Q a rest o → Bind P Q (calls ++ rest) o

/-- Both protocols after the other with a value computed at the end. -/
theorem bind_pure_iff {P : Protocol σ ν α} {f : α → β} {calls : Transcript σ ν} {o : Outcome β} :
    Bind P (fun a => Pure (f a)) calls o ↔ ∃ o', P calls o' ∧ o = o'.map f := by
  constructor
  · rintro (hP | ⟨hP, ⟨⟩⟩)
    · exact ⟨_, hP, rfl⟩
    · rw [List.append_nil]
      exact ⟨_, hP, rfl⟩
  · rintro ⟨a | message, hP, rfl⟩
    · have h : Bind P (fun a => Pure (f a)) (calls ++ []) (.done (f a)) := .done hP .intro
      rwa [List.append_nil] at h
    · exact .panic hP

end Protocol

/-- A run that ends in an outcome exactly when a transcript of the protocol happens. -/
def Run.Follows (x : Run σ (Event ν) α) (P : Protocol σ ν α) : Prop :=
  ∀ s o events t, x s = ⟨o, events, t⟩ ↔ ∃ calls, P calls o ∧ Transcript.Happens s calls events t

namespace Run.Follows

variable {x : Run σ (Event ν) α} {P P' : Protocol σ ν α}

/-- To answer with a value takes no call. -/
protected theorem pure (a : α) : (pure a : Run σ (Event ν) α).Follows (Protocol.Pure a) := by
  intro s o events t
  rw [Run.pure_apply, Ending.mk.injEq]
  constructor
  · rintro ⟨rfl, rfl, rfl⟩
    exact ⟨[], .intro, .nil s⟩
  · rintro ⟨_, ⟨⟩, h⟩
    obtain ⟨rfl, rfl⟩ := Transcript.happens_nil_iff.mp h
    exact ⟨rfl, rfl, rfl⟩

/-- Calling a function follows the protocol of that one call. -/
theorem call (role : Role) (f : Callback σ ν α β) (a : α) :
    (f.call role a).Follows (Protocol.Call role f a) := by
  intro s o events t
  constructor
  · intro h
    exact ⟨_, .intro o, Transcript.happens_singleton_iff.mpr h⟩
  · rintro ⟨_, ⟨⟩, h⟩
    exact Transcript.happens_singleton_iff.mp h

/-- Runs one after the other follow their protocols one after the other. -/
theorem bind {f : α → Run σ (Event ν) β} {Q : α → Protocol σ ν β} (hx : x.Follows P)
    (hf : ∀ a, (f a).Follows (Q a)) : (x >>= f).Follows (Protocol.Bind P Q) := by
  intro s o events u
  constructor
  · intro h
    rcases hxs : x s with ⟨a | message, before, t⟩
    · rw [Run.bind_of_done hxs] at h
      rcases hfa : f a t with ⟨o', behind, u'⟩
      rw [hfa, Ending.after_mk, Ending.mk.injEq] at h
      obtain ⟨rfl, rfl, rfl⟩ := h
      obtain ⟨calls, hP, hcalls⟩ := (hx s _ before t).mp hxs
      obtain ⟨rest, hQ, hrest⟩ := (hf a t o' behind u').mp hfa
      exact ⟨calls ++ rest, .done hP hQ, hcalls.append hrest⟩
    · rw [Run.bind_of_panic hxs, Ending.mk.injEq] at h
      obtain ⟨rfl, rfl, rfl⟩ := h
      obtain ⟨calls, hP, hcalls⟩ := (hx s _ before t).mp hxs
      exact ⟨calls, .panic hP, hcalls⟩
  -- a transcript does not say in which state its second part begins, but its first part does
  · rintro ⟨_, hP | ⟨hP, hQ⟩, h⟩
    · exact Run.bind_of_panic ((hx s _ events u).mpr ⟨_, hP, h⟩) f
    · obtain ⟨before, t, behind, hcalls, hrest, rfl⟩ := h.of_append
      rw [Run.bind_of_done ((hx s _ before t).mpr ⟨_, hP, hcalls⟩),
        (hf _ t o behind u).mpr ⟨_, hQ, hrest⟩, Ending.after_mk]

/-- What follows a protocol writes no log records. -/
theorem no_records {s t : σ} {o : Outcome α} {events : List (Event ν)} (hx : x.Follows P)
    (h : x s = ⟨o, events, t⟩) : events.filterMap Event.record? = [] := by
  obtain ⟨calls, -, hcalled⟩ := (hx s o events t).mp h
  exact hcalled.no_records

/-- Protocols with the same transcripts may stand for each other. -/
theorem congr (hx : x.Follows P) (h : ∀ calls o, P calls o ↔ P' calls o) : x.Follows P' := by
  intro s o events t
  rw [hx s o events t]
  exact exists_congr fun calls => and_congr_left' (h calls o)

end Run.Follows

end FirstMatch
