/-
# Domains of input

An input may hold a value of one of several kinds, or of none of them.  Seen as a value of a kind
it gives its value exactly if it holds one of that kind; so no input is seen as a value of two
kinds.
-/

namespace FirstMatch

/-- Inputs that may hold a value of one of several kinds. -/
structure Domain where
  Input : Type
  Kind : Type
  decidableKind : DecidableEq Kind
  Carrier : Kind → Type
  content : Input → Option (Σ k, Carrier k)

namespace Domain

variable (D : Domain)

/-- The kinds of a domain can be compared. -/
instance : DecidableEq D.Kind := D.decidableKind

/-- A value of some kind, with its kind. -/
abbrev Value : Type := Σ k, D.Carrier k

/-- The value as one of the given kind. -/
def Value.as? {D : Domain} (k : D.Kind) (v : D.Value) : Option (D.Carrier k) :=
  if h : v.1 = k then some (h ▸ v.2) else none

/-- The value of the given kind that an input holds. -/
def narrow (k : D.Kind) (x : D.Input) : Option (D.Carrier k) := (D.content x).bind (Value.as? k)

variable {D}

/-- Seen as one of a kind a value gives what it holds exactly if it is of that kind. -/
theorem as?_eq_some_iff {k : D.Kind} {v : D.Value} {a : D.Carrier k} :
    Value.as? k v = some a ↔ v = ⟨k, a⟩ := by
  obtain ⟨j, b⟩ := v
  unfold Value.as?
  constructor
  · intro h
    split at h
    · next hjk =>
      subst hjk
      simpa using h
    · simp at h
  · rintro ⟨⟩
    simp

/-- An input is seen as a value of a kind exactly if that is what it holds. -/
theorem narrow_eq_some_iff {k : D.Kind} {x : D.Input} {a : D.Carrier k} :
    D.narrow k x = some a ↔ D.content x = some ⟨k, a⟩ := by
  simp [narrow, Option.bind_eq_some_iff, as?_eq_some_iff]

/-- No input is seen as a value of two kinds. -/
theorem kind_unique {k l : D.Kind} {x : D.Input} {a : D.Carrier k} {b : D.Carrier l}
    (hk : D.narrow k x = some a) (hl : D.narrow l x = some b) : k = l := by
  rw [narrow_eq_some_iff] at hk hl
  rw [hk] at hl
  cases hl
  rfl

end Domain

end FirstMatch
