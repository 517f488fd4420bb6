/-
# What warnings tell

The message of an unreachable rule has the label of the rule, which is any text, between two
numbers.  The label may look like the rest of the message, but the message begins with the one
number and ends with the other: each is a run of digits that stops where the fixed wording goes on,
and what is left between them is the label (`Unreachable.message_injective`).

So the warnings of a compilation, which carry nothing but these messages, tell which rules cannot be
reached, and why.
-/
import Mathlib.Data.List.Nodup
import Mathlib.Data.List.TakeWhile
import FirstMatch.Proofs.Compilation

namespace FirstMatch

/-! ## Runs of digits -/

section Runs

variable {α : Type} {p : α → Bool} {xs ys front front' : List α} {x y : α}

/-- A run of marked elements ends at the first one that is not marked. -/
theorem run_eq_of_append_eq (hxs : ∀ a ∈ xs, p a = true) (hys : ∀ a ∈ ys, p a = true)
    (hx : p x = false) (hy : p y = false) {rest rest' : List α}
    (h : xs ++ x :: rest = ys ++ y :: rest') : xs = ys := by
  have hrun := congrArg (List.takeWhile p) h
  rwa [List.takeWhile_append_of_pos hxs, List.takeWhile_append_of_pos hys,
    List.takeWhile_cons_of_neg (by simp [hx]), List.takeWhile_cons_of_neg (by simp [hy]),
    List.append_nil, List.append_nil] at hrun

/-- A run of marked elements begins behind the last one that is not marked. -/
theorem run_eq_of_append_eq_behind (hxs : ∀ a ∈ xs, p a = true) (hys : ∀ a ∈ ys, p a = true)
    (hx : p x = false) (hy : p y = false) (h : front ++ x :: xs = front' ++ y :: ys) :
    xs = ys := by
  have hreverse := congrArg List.reverse h
  simp only [List.reverse_append, List.reverse_cons, List.append_assoc, List.singleton_append]
    at hreverse
  have hrun : xs.reverse = ys.reverse :=
    run_eq_of_append_eq (by simpa using hxs) (by simpa using hys) hx hy hreverse
  exact List.reverse_inj.mp hrun

end Runs

/-- Numbers with the same digits are the same. -/
theorem toDigits_injective {m n : Nat} (h : Nat.toDigits 10 m = Nat.toDigits 10 n) : m = n := by
  rw [← Nat.ofDigitChars_ten_toDigits (n := m), h, Nat.ofDigitChars_ten_toDigits]

/-! ## Messages -/

namespace Unreachable

/-- A message is the place of the rule, its label and the place of the catch-all, with fixed wording
around them. -/
theorem toList_message (u : Unreachable) : u.message.toList =
    "case ".toList ++ (Nat.toDigits 10 u.index ++ ' ' :: '(' :: (u.label.toList
      ++ (") is unreachable after the catch-all case at".toList
        ++ ' ' :: Nat.toDigits 10 u.catchAll))) := by
  simp [message]

/-- Different rules, and rules behind different catch-alls, have different messages. -/
theorem message_injective : Function.Injective message := by
  rintro ⟨index, label, catchAll⟩ ⟨index', label', catchAll'⟩ h
  have hdigits : ∀ n, ∀ c ∈ Nat.toDigits 10 n, c.isDigit = true := fun n c hc =>
    Nat.isDigit_of_mem_toDigits (by decide) (by decide) hc
  have htexts := congrArg String.toList h
  rw [toList_message, toList_message, List.append_cancel_left_eq] at htexts
  -- the place of the rule ends at the first blank
  obtain rfl : index = index' :=
    toDigits_injective (run_eq_of_append_eq (hdigits _) (hdigits _) rfl rfl htexts)
  rw [List.append_cancel_left_eq, List.cons.injEq, List.cons.injEq] at htexts
  obtain ⟨-, -, hbehind⟩ := htexts
  simp only [← List.append_assoc] at hbehind
  -- the place of the catch-all begins behind the last one
  obtain rfl : catchAll = catchAll' :=
    toDigits_injective (run_eq_of_append_eq_behind (hdigits _) (hdigits _) rfl rfl hbehind)
  rw [List.append_cancel_right_eq, List.append_cancel_right_eq] at hbehind
  obtain rfl : label = label' := String.toList_injective hbehind
  rfl

end Unreachable

/-! ## Warnings -/

variable {σ ν In Out E σ' ν' In' Out' E' : Type}

/-- The warnings among the log records of a compilation, by what they say: a message and named
values. -/
def Compiled.warnings (c : Compiled σ ν In Out E) : List (String × List (String × Record.Value)) :=
  (c.records.filter (·.level = .warn)).map fun r => (r.message, r.fields)

/-- The warning about a rule that cannot be reached. -/
def Unreachable.warning (u : Unreachable) : String × List (String × Record.Value) :=
  ("dispatcher contains an unreachable case", [("error", .text u.message)])

/-- Warnings about different rules are different. -/
theorem Unreachable.warning_injective : Function.Injective Unreachable.warning := by
  intro u v h
  have hmessage : u.message = v.message := by simpa [warning] using h
  exact message_injective hmessage

namespace Draft

/-- The rules that a compilation reports: those that cannot be reached, unless that is tolerated. -/
def reported (d : Draft σ ν In Out E) : List Unreachable :=
  if d.settings.unreachable = .tolerate then [] else d.unreachable

/-- Compiling warns about each rule that is reported, and about nothing else. -/
theorem warnings_compile (d : Draft σ ν In Out E) :
    d.compile.warnings = d.reported.map Unreachable.warning := by
  have hall : ∀ reports : List Unreachable,
      (reports.map Record.unreachable ++ [Record.compiled d.size]).filter (·.level = .warn)
        = reports.map .unreachable := by
    intro reports
    have hreports : (reports.map Record.unreachable).filter (·.level = .warn)
        = reports.map .unreachable := List.filter_eq_self.mpr (by simp [Record.level])
    have hcompiled : [Record.compiled d.size].filter (·.level = .warn) = [] := rfl
    rw [List.filter_append, hreports, hcompiled, List.append_nil]
  have hrecords : d.records.filter (·.level = .warn) = d.reported.map .unreachable := by
    rw [records, reported]
    split
    · exact hall []
    · exact hall d.unreachable
  rw [Compiled.warnings, compile, hrecords, List.map_map]
  rfl

/-- No rule is reported twice: the reports have different places. -/
theorem nodup_unreachable (d : Draft σ ν In Out E) : d.unreachable.Nodup := by
  rw [unreachable]
  split
  · exact List.nodup_nil
  · next k _ =>
    have hplaces : ((d.rules.zipIdx.drop (k + 1)).map Prod.snd).Nodup := by
      rw [List.map_drop, List.zipIdx_map_snd]
      exact (List.drop_sublist _ _).nodup List.nodup_range'
    refine List.Nodup.of_map Unreachable.index ?_
    rwa [List.map_map]

/-- No rule is reported twice, whatever is tolerated. -/
theorem nodup_reported (d : Draft σ ν In Out E) : d.reported.Nodup := by
  rw [reported]
  split
  · exact List.nodup_nil
  · exact d.nodup_unreachable

/-- Where nothing is tolerated, all rules that cannot be reached are reported. -/
theorem reported_eq_of_ne_tolerate {d : Draft σ ν In Out E}
    (h : d.settings.unreachable ≠ .tolerate) : d.reported = d.unreachable := by
  rw [reported, if_neg h]

/-- Where some rule is reported, all rules that cannot be reached are. -/
theorem reported_eq_of_ne_nil {d : Draft σ ν In Out E} (h : d.reported ≠ []) :
    d.reported = d.unreachable := by
  rw [reported] at h
  split at h
  · exact absurd rfl h
  · next hpolicy => exact reported_eq_of_ne_tolerate hpolicy

/-- What is reported can be told from the warnings. -/
theorem warnings_eq_iff {d : Draft σ ν In Out E} {e : Draft σ' ν' In' Out' E'} :
    d.compile.warnings = e.compile.warnings ↔ d.reported = e.reported := by
  rw [warnings_compile, warnings_compile]
  exact List.map_inj_right Unreachable.warning_injective

/-- There is a warning exactly if a rule is reported. -/
theorem warnings_ne_nil_iff {d : Draft σ ν In Out E} :
    d.compile.warnings ≠ [] ↔ d.reported ≠ [] := by
  rw [warnings_compile, Ne, List.map_eq_nil_iff]

end Draft

/-- What the warnings of compiling two drafts tell of the rules that cannot be reached. -/
structure Draft.WarningsTell (d : Draft σ ν In Out E) (e : Draft σ' ν' In' Out' E') : Prop where
  /-- Equal messages are about the same rule, by place and label, behind the same catch-all. -/
  message_eq_iff (i j k l : Nat) (s t : String) :
    (⟨i, s, k⟩ : Unreachable).message = (⟨j, t, l⟩ : Unreachable).message ↔ i = j ∧ s = t ∧ k = l
  /-- There is one warning for each rule that is reported. -/
  warnings_eq : d.compile.warnings = d.reported.map Unreachable.warning
  nodup : d.compile.warnings.Nodup
  /-- The warnings determine the rules that are reported. -/
  reported_eq_iff : d.compile.warnings = e.compile.warnings ↔ d.reported = e.reported
  /-- These are all rules that cannot be reached if nothing is tolerated. -/
  unreachable_eq_iff (hd : d.settings.unreachable ≠ .tolerate)
      (he : e.settings.unreachable ≠ .tolerate) :
    d.compile.warnings = e.compile.warnings ↔ d.unreachable = e.unreachable
  /-- These are all rules that cannot be reached if there is a warning at all. -/
  unreachable_eq (h : d.compile.warnings = e.compile.warnings) (hsome : d.compile.warnings ≠ []) :
    d.unreachable = e.unreachable

/-- Messages of unreachable rules are equal only if the rules have the same place and the same label
and the catch-alls have the same place, whatever the labels are.  So the warnings of a compilation,
which have nothing but such a message to tell one from another, are all different, and they
determine the rules that are reported.  These are all rules that cannot be reached, if it is known
that the settings do not tolerate such rules, or if there is a warning at all. -/
theorem warnings_tell_unreachable (d : Draft σ ν In Out E) (e : Draft σ' ν' In' Out' E') :
    d.WarningsTell e where
  message_eq_iff i j k l s t := by
    rw [Unreachable.message_injective.eq_iff, Unreachable.mk.injEq]
  warnings_eq := d.warnings_compile
  nodup := by
    rw [Draft.warnings_compile]
    exact d.nodup_reported.map Unreachable.warning_injective
  reported_eq_iff := Draft.warnings_eq_iff
  unreachable_eq_iff hd he := by
    rw [Draft.warnings_eq_iff, Draft.reported_eq_of_ne_tolerate hd,
      Draft.reported_eq_of_ne_tolerate he]
  unreachable_eq h hsome := by
    have hd : d.reported = d.unreachable :=
      Draft.reported_eq_of_ne_nil (Draft.warnings_ne_nil_iff.mp hsome)
    have he : e.reported = e.unreachable :=
      Draft.reported_eq_of_ne_nil (Draft.warnings_ne_nil_iff.mp (h ▸ hsome))
    rw [← hd, ← he]
    exact Draft.warnings_eq_iff.mp h

namespace Draft.Sample

/-- A rule behind a catch-all, with a label that reads like the end of a message. -/
def imitating (policy : Policy) : Draft Nat Nat Nat Nat String :=
  { rules := [.answering .any Dispatcher.Sample.nonzero,
      .answering (.whole "1) is unreachable after the catch-all case at 0" (.silent fun _ => true))
        Dispatcher.Sample.nonzero]
    settings := { unreachable := policy } }

end Draft.Sample

open Draft.Sample (imitating) in
/-- The sample is warned about in the same way if compiling strictly would reject it. -/
theorem warnings_tell_unreachable_imitating :
    (imitating .warn).compile.warnings
      = [Unreachable.warning ⟨1, "1) is unreachable after the catch-all case at 0", 0⟩]
    ∧ (imitating .warn).settings.unreachable ≠ .tolerate
    ∧ (imitating .reject).settings.unreachable ≠ .tolerate
    ∧ (imitating .warn).compile.warnings = (imitating .reject).compile.warnings
    ∧ (imitating .warn).compile.warnings ≠ []
    ∧ (imitating .warn).unreachable = (imitating .reject).unreachable := by
  have htell := warnings_tell_unreachable (imitating .warn) (imitating .reject)
  have hwarn : (imitating .warn).settings.unreachable ≠ .tolerate := by decide
  have hreject : (imitating .reject).settings.unreachable ≠ .tolerate := by decide
  have hequal : (imitating .warn).unreachable = (imitating .reject).unreachable := rfl
  have hwarnings := (htell.unreachable_eq_iff hwarn hreject).mpr hequal
  have hne : (imitating .warn).compile.warnings ≠ [] := List.cons_ne_nil _ _
  exact ⟨rfl, hwarn, hreject, hwarnings, hne, htell.unreachable_eq hwarnings hne⟩

end FirstMatch
