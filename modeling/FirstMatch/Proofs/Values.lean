/-
# Reading values

The values of settings against their grammar: names, truth values and policies.  Every reader skips
the blanks in front of what it reads and answers exactly if a value of its kind stands there.
-/
import FirstMatch.Settings.Reader
import FirstMatch.Proofs.Tokens

namespace FirstMatch.Settings

open Json

variable {cs rest : List Char} {p : Policy} {b : Bool}

/-! ## Tokens -/

/-- The name of a policy is read exactly where it is written, behind the opening quote. -/
theorem readName_eq_ok_iff : readName cs = .ok (p, rest) ↔
    ∃ text, Quotes ('"' :: text) p.name ∧ cs = text ++ rest := by
  constructor
  · intro h
    obtain ⟨⟨name, cs₁⟩, hname, hrest⟩ := bind_eq_ok_iff.mp h
    obtain ⟨text, htext, rfl⟩ := stringTail_eq_ok_iff_quotes.mp hname
    dsimp only at hrest
    split at hrest
    · next q hq =>
      obtain ⟨rfl, rfl⟩ := Prod.mk.inj (Except.ok.inj hrest)
      rw [Policy.ofName?_eq_some_iff] at hq
      exact ⟨text, hq ▸ htext, rfl⟩
    · cases hrest
  · rintro ⟨text, htext, rfl⟩
    rw [← String.ofList_toList (s := p.name)] at htext
    refine bind_eq_ok_iff.mpr ⟨_, stringTail_eq_ok_iff_quotes.mpr ⟨text, htext, rfl⟩, ?_⟩
    simp only [String.ofList_toList, Policy.ofName?_name]
    rfl

/-- A colon is read exactly where one stands behind blanks. -/
theorem readColon_eq_ok_iff :
    readColon cs = .ok rest ↔ ∃ a, Blanks a ∧ cs = a ++ ':' :: rest := by
  constructor
  · intro h
    unfold readColon at h
    split at h
    · cases h
    · next hskip =>
      split at h
      · next hc =>
        obtain rfl := Except.ok.inj h
        rw [hc] at hskip
        exact (skipBlanks_eq_cons_iff.mp hskip).2
      · cases h
  · rintro ⟨a, ha, rfl⟩
    rw [readColon, skipBlanks_append ha rfl]
    rfl

/-- The word for nothing is read exactly where it stands behind blanks. -/
theorem readNull_eq_ok_iff :
    readNull cs = .ok rest ↔ ∃ a, Blanks a ∧ cs = a ++ ("null".toList ++ rest) := by
  constructor
  · intro h
    unfold readNull at h
    split at h
    · cases h
    · next hskip =>
      obtain rfl := letters_eq_ok_iff.mp h
      exact (skipBlanks_eq_cons_iff.mp hskip).2
    · cases h
  · rintro ⟨a, ha, rfl⟩
    have hskip : skipBlanks (a ++ ("null".toList ++ rest)) = 'n' :: ("ull".toList ++ rest) :=
      skipBlanks_append ha rfl _
    rw [readNull, hskip]
    exact letters_eq_ok_iff.mpr rfl

/-- A truth value is read exactly where its word stands behind blanks. -/
theorem readBool_eq_ok_iff : readBool cs = .ok (b, rest) ↔
    ∃ a, Blanks a ∧ cs = a ++ ((boolText b).toList ++ rest) := by
  constructor
  · intro h
    unfold readBool at h
    split at h
    · cases h
    · next hskip =>
      obtain ⟨_, hletters, hpure⟩ := bind_eq_ok_iff.mp h
      obtain ⟨rfl, rfl⟩ := Prod.mk.inj (Except.ok.inj hpure)
      obtain rfl := letters_eq_ok_iff.mp hletters
      exact (skipBlanks_eq_cons_iff.mp hskip).2
    · next hskip =>
      obtain ⟨_, hletters, hpure⟩ := bind_eq_ok_iff.mp h
      obtain ⟨rfl, rfl⟩ := Prod.mk.inj (Except.ok.inj hpure)
      obtain rfl := letters_eq_ok_iff.mp hletters
      exact (skipBlanks_eq_cons_iff.mp hskip).2
    · cases h
  · rintro ⟨a, ha, rfl⟩
    cases b with
    | true =>
      have hskip : skipBlanks (a ++ ((boolText true).toList ++ rest))
          = 't' :: ("rue".toList ++ rest) := skipBlanks_append ha rfl _
      rw [readBool, hskip]
      exact bind_eq_ok_iff.mpr ⟨rest, letters_eq_ok_iff.mpr rfl, rfl⟩
    | false =>
      have hskip : skipBlanks (a ++ ((boolText false).toList ++ rest))
          = 'f' :: ("alse".toList ++ rest) := skipBlanks_append ha rfl _
      rw [readBool, hskip]
      exact bind_eq_ok_iff.mpr ⟨rest, letters_eq_ok_iff.mpr rfl, rfl⟩

/-! ## Policies -/

/-- A policy is read from an object exactly where one is written, behind the opening brace. -/
theorem readPolicyObject_eq_ok_iff : readPolicyObject cs = .ok (p, rest) ↔
    ∃ a name b c d, Blanks a ∧ Quotes name p.name ∧ Blanks b ∧ Blanks c ∧ Blanks d
      ∧ cs = a ++ name ++ b ++ ':' :: (c ++ "null".toList ++ d ++ '\x7d' :: rest) := by
  constructor
  · intro h
    unfold readPolicyObject at h
    split at h
    · cases h
    · cases h
    · next hskip =>
      simp only [bind_eq_ok_iff, Prod.exists, readName_eq_ok_iff, readColon_eq_ok_iff,
        readNull_eq_ok_iff] at h
      obtain ⟨q, _, ⟨name, hname, rfl⟩, _, ⟨b, hb, rfl⟩, cs₁, ⟨c, hc, rfl⟩, hclose⟩ := h
      obtain ⟨-, a, ha, rfl⟩ := skipBlanks_eq_cons_iff.mp hskip
      split at hclose
      · cases hclose
      · next hskip' =>
        obtain ⟨rfl, rfl⟩ := Prod.mk.inj (Except.ok.inj hclose)
        obtain ⟨-, d, hd, rfl⟩ := skipBlanks_eq_cons_iff.mp hskip'
        exact ⟨a, '"' :: name, b, c, d, ha, hname, hb, hc, hd, by simp⟩
      · cases hclose
    · cases h
  · rintro ⟨a, name, b, c, d, ha, hname, hb, hc, hd, rfl⟩
    obtain ⟨name, rfl⟩ := hname.exists_cons
    -- the tokens in the order in which they are read
    have hassoc : a ++ '"' :: name ++ b ++ ':' :: (c ++ "null".toList ++ d ++ '\x7d' :: rest)
        = a ++ '"' :: (name ++ (b ++ ':' :: (c ++ ("null".toList ++ (d ++ '\x7d' :: rest))))) := by
      simp only [List.append_assoc, List.cons_append]
    rw [hassoc, readPolicyObject, skipBlanks_append ha rfl]
    refine bind_eq_ok_iff.mpr ⟨_, readName_eq_ok_iff.mpr ⟨name, hname, rfl⟩, ?_⟩
    refine bind_eq_ok_iff.mpr ⟨_, readColon_eq_ok_iff.mpr ⟨b, hb, rfl⟩, ?_⟩
    refine bind_eq_ok_iff.mpr ⟨_, readNull_eq_ok_iff.mpr ⟨c, hc, rfl⟩, ?_⟩
    rw [skipBlanks_append hd rfl]
    rfl

/-- A policy is a name in quotes, or an object that holds one. -/
theorem readPolicy_eq_ok_iff : readPolicy cs = .ok (p, rest) ↔
    ∃ a text, Blanks a ∧ PolicyText text p ∧ cs = a ++ (text ++ rest) := by
  constructor
  · intro h
    unfold readPolicy at h
    split at h
    · cases h
    · next hskip =>
      obtain ⟨-, a, ha, rfl⟩ := skipBlanks_eq_cons_iff.mp hskip
      obtain ⟨text, htext, rfl⟩ := readName_eq_ok_iff.mp h
      exact ⟨a, '"' :: text, ha, .name htext, rfl⟩
    · next hskip =>
      obtain ⟨-, a, ha, rfl⟩ := skipBlanks_eq_cons_iff.mp hskip
      obtain ⟨b, name, c, d, e, hb, hname, hc, hd, he, rfl⟩ := readPolicyObject_eq_ok_iff.mp h
      exact ⟨a, _, ha, .object hb hname hc hd he, by simp⟩
    · cases h
  · rintro ⟨a, text, ha, htext, rfl⟩
    cases htext with
    | name hname =>
      obtain ⟨name, rfl⟩ := hname.exists_cons
      rw [List.cons_append, readPolicy, skipBlanks_append ha rfl]
      exact readName_eq_ok_iff.mpr ⟨name, hname, rfl⟩
    | object hb hname hc hd he =>
      rw [List.cons_append, readPolicy, skipBlanks_append ha rfl]
      exact readPolicyObject_eq_ok_iff.mpr ⟨_, _, _, _, _, hb, hname, hc, hd, he, by simp⟩

/-- Blanks before a policy make no difference. -/
theorem readPolicy_skipBlanks (cs : List Char) : readPolicy (skipBlanks cs) = readPolicy cs := by
  rw [readPolicy, skipBlanks_skipBlanks, readPolicy]

/-- Blanks before a truth value make no difference. -/
theorem readBool_skipBlanks (cs : List Char) : readBool (skipBlanks cs) = readBool cs := by
  rw [readBool, skipBlanks_skipBlanks, readBool]

end FirstMatch.Settings
