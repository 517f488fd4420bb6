/-
# What compiling reports

A rule counts as a catch-all if it was made with the guard `any` and without a condition
(`Rule.isCatchAll_iff`); what the functions of other guards answer does not matter.  Compiling a
draft reports every rule behind its first catch-all, in order and with the place of that catch-all,
and keeps all rules.  Compiling strictly either does the same, or it rejects the draft with the
first of these reports and does nothing else.
-/
import FirstMatch.Session
import FirstMatch.Proofs.Phases

namespace FirstMatch

variable {σ ν In Out E : Type}

/-! ## The form of a catch-all -/

/-- A rule that was made with the guard `any` and without a condition. -/
def Rule.TakesAll (r : Rule σ ν In Out E) : Prop :=
  ∃ a : Action σ ν In E Out, r = { guard := .any, action := a }

/-- A rule counts as a catch-all exactly if it has the guard for every input and no condition. -/
theorem Rule.isCatchAll_iff {r : Rule σ ν In Out E} : r.isCatchAll = true ↔ r.TakesAll := by
  constructor
  · obtain ⟨guard, condition, action⟩ := r
    intro hr
    cases guard with
    | any =>
      cases condition with
      | none => exact ⟨action, rfl⟩
      | some c => simp [isCatchAll] at hr
    | exact label narrow => simp [isCatchAll, Guard.acceptsAll] at hr
    | equals shown narrow same literal => simp [isCatchAll, Guard.acceptsAll] at hr
    | structural label find => simp [isCatchAll, Guard.acceptsAll] at hr
    | whole label test => simp [isCatchAll, Guard.acceptsAll] at hr
  · rintro ⟨a, rfl⟩
    rfl

namespace Draft

variable {d : Draft σ ν In Out E} {k : Nat} {u : Unreachable}

/-- The first catch-all of a draft stands at the place `k`. -/
structure FirstCatchAll (d : Draft σ ν In Out E) (k : Nat) : Prop where
  takesAll : ∃ r, d.rules[k]? = some r ∧ r.TakesAll
  before : ∀ j r, j < k → d.rules[j]? = some r → ¬ r.TakesAll

/-- The place that is found is that of the first catch-all. -/
theorem catchAll?_eq_some_iff : d.catchAll? = some k ↔ d.FirstCatchAll k := by
  rw [catchAll?, List.findIdx?_eq_some_iff_getElem]
  constructor
  · rintro ⟨hk, hcatch, hbefore⟩
    refine ⟨⟨_, List.getElem?_eq_getElem hk, Rule.isCatchAll_iff.mp hcatch⟩, ?_⟩
    intro j r hj hr htakes
    obtain ⟨hlt, rfl⟩ := List.getElem?_eq_some_iff.mp hr
    exact hbefore j hj (Rule.isCatchAll_iff.mpr htakes)
  · rintro ⟨⟨r, hr, htakes⟩, hbefore⟩
    obtain ⟨hk, rfl⟩ := List.getElem?_eq_some_iff.mp hr
    refine ⟨hk, Rule.isCatchAll_iff.mpr htakes, ?_⟩
    intro j hj hcatch
    have hlt : j < d.rules.length := by omega
    exact hbefore j _ hj (List.getElem?_eq_getElem hlt) (Rule.isCatchAll_iff.mp hcatch)

/-- No place is found where there is no catch-all. -/
theorem catchAll?_eq_none (h : ∀ k, ¬ d.FirstCatchAll k) : d.catchAll? = none := by
  cases hcatch : d.catchAll? with
  | none => rfl
  | some k => exact absurd (catchAll?_eq_some_iff.mp hcatch) (h k)

/-! ## The list of reports -/

/-- The reports on a draft: none without a catch-all, else one for each rule behind the first
catch-all, in order, with the place and the name of the rule and the place of the catch-all. -/
structure Reports (d : Draft σ ν In Out E) (reports : List Unreachable) : Prop where
  behind (k : Nat) : d.FirstCatchAll k → reports.length = d.size - (k + 1) ∧
    ∀ j, reports[j]? = d.labels[k + 1 + j]?.map fun label => ⟨k + 1 + j, label, k⟩
  nothing : (∀ k, ¬ d.FirstCatchAll k) → reports = []

/-- All rules behind the first catch-all are reported. -/
theorem length_unreachable (h : d.catchAll? = some k) :
    d.unreachable.length = d.size - (k + 1) := by
  rw [unreachable, h]
  simp [size]

/-- The reports are in the order of the rules. -/
theorem getElem?_unreachable (h : d.catchAll? = some k) (j : Nat) :
    d.unreachable[j]? = d.labels[k + 1 + j]?.map fun label => ⟨k + 1 + j, label, k⟩ := by
  rw [unreachable, h]
  simp only [labels, List.getElem?_map, List.getElem?_drop, List.getElem?_zipIdx, Option.map_map,
    Nat.zero_add]
  rfl

/-- What a draft reports are the rules behind its first catch-all, and nothing if it has none. -/
theorem reports_unreachable (d : Draft σ ν In Out E) : d.Reports d.unreachable where
  behind k hk := by
    have hcatch := catchAll?_eq_some_iff.mpr hk
    exact ⟨length_unreachable hcatch, getElem?_unreachable hcatch⟩
  nothing h := by rw [unreachable, catchAll?_eq_none h]

/-- The first report is on the rule right behind the first catch-all. -/
theorem head?_unreachable_iff : d.unreachable.head? = some u ↔
    ∃ k label, d.FirstCatchAll k ∧ d.labels[k + 1]? = some label ∧ u = ⟨k + 1, label, k⟩ := by
  constructor
  · intro hu
    cases hcatch : d.catchAll? with
    | none => simp [unreachable, hcatch] at hu
    | some k =>
      rw [List.head?_eq_getElem?, getElem?_unreachable hcatch, Option.map_eq_some_iff] at hu
      obtain ⟨label, hlabel, rfl⟩ := hu
      exact ⟨k, label, catchAll?_eq_some_iff.mp hcatch, hlabel, rfl⟩
  · rintro ⟨k, label, hk, hlabel, rfl⟩
    rw [List.head?_eq_getElem?, getElem?_unreachable (catchAll?_eq_some_iff.mpr hk), Nat.add_zero,
      hlabel]
    rfl

/-! ## Compiling strictly -/

/-- Compiling strictly fails exactly if unreachable rules are to be rejected and there is one, with
the first of them. -/
theorem compileStrict_eq_error_iff : d.compileStrict = .error u ↔
    d.settings.unreachable = .reject ∧ d.unreachable.head? = some u := by
  rw [compileStrict]
  cases d.settings.unreachable <;> cases d.unreachable <;> simp

/-- Compiling strictly makes the same dispatcher, if it makes one. -/
theorem compileStrict_eq_ok {c : Compiled σ ν In Out E} (h : d.compileStrict = .ok c) :
    c = d.compile := by
  rw [compileStrict] at h
  split at h
  · cases h
  · exact (Except.ok.inj h).symm

/-- Where compiling strictly does not fail it is compiling. -/
theorem compileStrict_of_not_error (h : ∀ u, d.compileStrict ≠ .error u) :
    d.compileStrict = .ok d.compile := by
  cases hstrict : d.compileStrict with
  | error u => exact absurd hstrict (h u)
  | ok c => rw [compileStrict_eq_ok hstrict]

/-- A draft is rejected if its settings ask for that and there is a rule behind a catch-all. -/
theorem exists_compileStrict_eq_error_iff : (∃ u, d.compileStrict = .error u) ↔
    d.settings.unreachable = .reject ∧ ∃ k, d.FirstCatchAll k ∧ k + 1 < d.size := by
  have hlabel : ∀ k, (∃ label, d.labels[k + 1]? = some label) ↔ k + 1 < d.size := by
    intro k
    rw [← Option.isSome_iff_exists, isSome_getElem?, labels, List.length_map, size]
  constructor
  · rintro ⟨u, hu⟩
    obtain ⟨hreject, hhead⟩ := compileStrict_eq_error_iff.mp hu
    obtain ⟨k, label, hk, hsome, -⟩ := head?_unreachable_iff.mp hhead
    exact ⟨hreject, k, hk, (hlabel k).mp ⟨label, hsome⟩⟩
  · rintro ⟨hreject, k, hk, hlt⟩
    obtain ⟨label, hsome⟩ := (hlabel k).mpr hlt
    exact ⟨_, compileStrict_eq_error_iff.mpr
      ⟨hreject, head?_unreachable_iff.mpr ⟨k, label, hk, hsome, rfl⟩⟩⟩

/-- A draft that is rejected would have been compiled with the report as its first record. -/
theorem head?_records_of_error (h : d.compileStrict = .error u) :
    d.compile.records.head? = some (.unreachable u) := by
  obtain ⟨hreject, hhead⟩ := compileStrict_eq_error_iff.mp h
  show d.records.head? = _
  rw [records, hreject, if_neg (by decide), List.head?_append, List.head?_map, hhead]
  rfl

/-- A draft that the strictest settings do not reject is compiled without a report. -/
theorem records_of_not_error (h : ∀ u, d.compileStrict ≠ .error u)
    (hreject : d.settings.unreachable = .reject) : d.compile.records = [.compiled d.size] := by
  have hnone : d.unreachable = [] := by
    cases hreports : d.unreachable with
    | nil => rfl
    | cons u us =>
      exact absurd (compileStrict_eq_error_iff.mpr ⟨hreject, by rw [hreports]; rfl⟩) (h u)
  show d.records = _
  rw [records, hnone, List.map_nil, ite_self]
  rfl

end Draft

/-! ## Compiling in a session -/

namespace Session

variable {d : Draft σ ν In Out E} {u : Unreachable}

/-- What was put into a register of drafts is in it. -/
theorem drafts_setDraft (s : Session σ ν In Out E) (name : String) (d : Draft σ ν In Out E) :
    (s.setDraft name d).drafts name = some d := Registers.set_same s.drafts name d

/-- Compiling a draft in a session logs the records of the compilation. -/
theorem step_compile (s : Session σ ν In Out E) (d : Draft σ ν In Out E) (source target : String) :
    step (.draft (.compile source target)) (s.setDraft source d) =
      ending (.dispatcher d.compile.dispatcher) d.compile.records
        ((s.setDraft source d).setCompiled source target d.compile) := by
  simp only [step, draftStep, withDraft, drafts_setDraft]

/-- A draft that is rejected is gone from its register, and nothing is logged. -/
theorem step_compileStrict_of_error (h : d.compileStrict = .error u) (s : Session σ ν In Out E)
    (source target : String) : step (.draft (.compileStrict source target)) (s.setDraft source d) =
      ending (.unreachable u) [] { s with drafts := (s.drafts.set source d).erase source } := by
  simp only [step, draftStep, withDraft, drafts_setDraft, h]
  rfl

/-- A draft that is not rejected is compiled as by any other compilation. -/
theorem step_compileStrict_of_ok {c : Compiled σ ν In Out E} (h : d.compileStrict = .ok c)
    (s : Session σ ν In Out E) (source target : String) :
    step (.draft (.compileStrict source target)) (s.setDraft source d) =
      ending (.dispatcher c.dispatcher) c.records
        ((s.setDraft source d).setCompiled source target c) := by
  simp only [step, draftStep, withDraft, drafts_setDraft, h]

end Session

/-- What compiling a draft makes of it, and what compiling it strictly does. -/
structure Draft.CompilesTo (d : Draft σ ν In Out E) : Prop where
  isCatchAll_iff (r : Rule σ ν In Out E) : r.isCatchAll = true ↔ r.TakesAll
  /-- The reports are logged, unless that is tolerated, and then the number of rules. -/
  records : ∃ reports, d.Reports reports ∧ d.compile.records =
    (if d.settings.unreachable = .tolerate then [] else reports.map .unreachable)
      ++ [.compiled d.size]
  /-- All rules are kept. -/
  dispatcher : d.compile.dispatcher = ⟨d.rules, d.settings.logUnhandled⟩
  rejected_iff : (∃ u, d.compileStrict = .error u) ↔
    d.settings.unreachable = .reject ∧ ∃ k, d.FirstCatchAll k ∧ k + 1 < d.size
  /-- A draft is rejected for the rule right behind its first catch-all. -/
  rejection (u : Unreachable) : d.compileStrict = .error u →
    ∃ k label, d.FirstCatchAll k ∧ d.labels[k + 1]? = some label ∧ u = ⟨k + 1, label, k⟩
  /-- The message of a rejection is the text of the first warning that compiling would log. -/
  rejection_record (u : Unreachable) : d.compileStrict = .error u →
    ∃ record, d.compile.records.head? = some record ∧ record.level = .warn
      ∧ record.fields = [("error", .text u.message)]
  /-- A rejection is without events, and of the session it changes the draft alone. -/
  rejection_step (u : Unreachable) : d.compileStrict = .error u →
    ∀ (s : Session σ ν In Out E) (source target : String),
      Session.step (.draft (.compileStrict source target)) (s.setDraft source d)
        = ⟨.done (.unreachable u), [], { s with drafts := (s.drafts.set source d).erase source }⟩
  accepted : (∀ u, d.compileStrict ≠ .error u) → d.compileStrict = .ok d.compile
  accepted_records : (∀ u, d.compileStrict ≠ .error u) → d.settings.unreachable = .reject →
    d.compile.records = [.compiled d.size]
  /-- A draft that is not rejected is compiled in the same step either way. -/
  accepted_step : (∀ u, d.compileStrict ≠ .error u) →
    ∀ (s : Session σ ν In Out E) (source target : String),
      Session.step (.draft (.compileStrict source target)) (s.setDraft source d)
        = Session.step (.draft (.compile source target)) (s.setDraft source d)
  step_events (s : Session σ ν In Out E) (source target : String) :
    (Session.step (.draft (.compile source target)) (s.setDraft source d)).events
      = d.compile.records.map .log
  step_dispatchers (s : Session σ ν In Out E) (source target : String) :
    (Session.step (.draft (.compile source target)) (s.setDraft source d)).state.dispatchers
      = s.dispatchers.set target d.compile.dispatcher

/-- Compiling a draft keeps all of its rules.  It reports, unless that is tolerated, each rule
behind the first catch-all, and then logs the number of rules.  Compiling strictly rejects the draft
exactly if the settings ask for that and a rule stands behind a catch-all: with the first of the
reports, whose message is the text of the first warning that compiling would have logged, and
without any event.  Otherwise it does the same as compiling. -/
theorem compile_reports_unreachable (d : Draft σ ν In Out E) : d.CompilesTo where
  isCatchAll_iff _ := Rule.isCatchAll_iff
  records := ⟨d.unreachable, d.reports_unreachable, rfl⟩
  dispatcher := rfl
  rejected_iff := Draft.exists_compileStrict_eq_error_iff
  rejection _ hu := Draft.head?_unreachable_iff.mp (Draft.compileStrict_eq_error_iff.mp hu).2
  rejection_record _ hu := ⟨_, Draft.head?_records_of_error hu, rfl, rfl⟩
  rejection_step _ hu := Session.step_compileStrict_of_error hu
  accepted h := Draft.compileStrict_of_not_error h
  accepted_records h := Draft.records_of_not_error h
  accepted_step h s source target := by
    rw [Session.step_compileStrict_of_ok (Draft.compileStrict_of_not_error h),
      Session.step_compile]
  step_events s source target := by
    rw [Session.step_compile]
    rfl
  step_dispatchers s source target := by
    rw [Session.step_compile]
    rfl

namespace Draft.Sample

open Dispatcher.Sample (everyOther nonzero)

/-- Four rules, of which the second and the last take every input. -/
def shadowing (policy : Policy) : Draft Nat Nat Nat Nat String :=
  { rules := [everyOther, .answering .any nonzero, everyOther, .answering .any nonzero]
    settings := { unreachable := policy } }

end Draft.Sample

open Draft.Sample (shadowing) in
/-- Under strict settings the sample is rejected for its third rule; under others both rules behind
the second one are reported, each with the place of that one. -/
theorem compile_reports_unreachable_shadowing :
    (shadowing .reject).compileStrict = .error ⟨2, "any", 1⟩
    ∧ (∃ k label, (shadowing .reject).FirstCatchAll k
      ∧ (shadowing .reject).labels[k + 1]? = some label
      ∧ (⟨2, "any", 1⟩ : Unreachable) = ⟨k + 1, label, k⟩)
    ∧ (shadowing .warn).compile.records
      = [.unreachable ⟨2, "any", 1⟩, .unreachable ⟨3, "any", 1⟩, .compiled 4]
    ∧ (shadowing .warn).compileStrict = .ok (shadowing .warn).compile := by
  have hwarn : ∀ u, (shadowing .warn).compileStrict ≠ .error u := by
    intro u hu
    cases hu
  exact ⟨rfl, (compile_reports_unreachable (shadowing .reject)).rejection _ rfl, rfl,
    (compile_reports_unreachable (shadowing .warn)).accepted hwarn⟩

end FirstMatch
