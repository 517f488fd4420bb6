/-
# Reading settings

The readers of settings against their grammar, up to whole texts.  As for tokens, each reader has
one statement, which says when it answers and what.  An object is read member by member; what it has
given so far decides which fields may still come (`Settings.Fresh`).

In the end a text is read exactly if settings are written in it, and every other text is refused
(`Settings.ofJson_eq_ok_iff`).  The text that settings are written as gives the same settings again.
-/
import FirstMatch.Proofs.Values

namespace FirstMatch.Settings

open Json

variable {cs rest : List Char} {p : Policy}

/-! ## What is given -/

namespace Given

/-- The same fields and one more. -/
def add (g : Given) : Setting → Given
  | .unreachable p => { g with unreachable := some p }
  | .logUnhandled b => { g with logUnhandled := some b }

/-- The setting of a field, if one has been given. -/
def setting? (g : Given) : Field → Option Setting
  | .unreachable => g.unreachable.map .unreachable
  | .logUnhandled => g.logUnhandled.map .logUnhandled

/-- A setting that is added is the one of its field, and leaves the other field. -/
theorem setting?_add (g : Given) (x : Setting) (f : Field) :
    (g.add x).setting? f = if f = x.field then some x else g.setting? f := by
  cases x <;> cases f <;> rfl

/-- A field has been given exactly if there is a setting for it. -/
theorem has_iff {g : Given} {f : Field} : g.has f = true ↔ (g.setting? f).isSome := by
  cases f <;> simp [has, setting?]

/-- With one more setting its field has been given, and those that had been before. -/
theorem has_add (g : Given) (x : Setting) (f : Field) :
    (g.add x).has f = (decide (f = x.field) || g.has f) := by
  rw [Bool.eq_iff_iff, has_iff, setting?_add, Bool.or_eq_true, decide_eq_true_iff, has_iff]
  by_cases hf : f = x.field
  · simp [hf]
  · simp [hf]

/-- A setting for a field that had none makes one field less to give. -/
theorem missing_add_lt {g : Given} {x : Setting} (h : g.has x.field = false) :
    (g.add x).missing < g.missing := by
  cases x with
  | unreachable p => exact missing_unreachable_lt h p
  | logUnhandled b => exact missing_logUnhandled_lt h b

/-- The settings of what is given have the value that was given of each field, or else the standard
one. -/
theorem value_settings (g : Given) (f : Field) :
    g.settings.value f = (g.setting? f).getD (value ⟨.warn, false⟩ f) := by
  obtain ⟨p?, b?⟩ := g
  cases f with
  | unreachable => cases p? <;> rfl
  | logUnhandled => cases b? <;> rfl

end Given

/-- Settings of which each is for a field of its own, and for one that has not been given. -/
def Fresh (g : Given) (given : List Setting) : Prop :=
  (given.map Setting.field).Nodup ∧ ∀ x ∈ given, g.has x.field = false

/-- Settings are fresh if the first one is and the others are fresh behind it. -/
theorem fresh_cons_iff {g : Given} {x : Setting} {given : List Setting} :
    Fresh g (x :: given) ↔ g.has x.field = false ∧ Fresh (g.add x) given := by
  have hnotMem : x.field ∉ given.map Setting.field ↔ ∀ y ∈ given, y.field ≠ x.field := by
    simp [List.mem_map]
  simp only [Fresh, List.map_cons, List.nodup_cons, List.forall_mem_cons, hnotMem, Given.has_add,
    Bool.or_eq_false_iff, decide_eq_false_iff_not]
  constructor
  · rintro ⟨⟨hne, hnodup⟩, hx, hall⟩
    exact ⟨hx, hnodup, fun y hy => ⟨hne y hy, hall y hy⟩⟩
  · rintro ⟨hx, hnodup, hall⟩
    exact ⟨⟨fun y hy => (hall y hy).1, hnodup⟩, hx, fun y hy => (hall y hy).2⟩

/-- Where nothing has been given settings are fresh if no field has two of them. -/
theorem fresh_nil_iff {given : List Setting} :
    Fresh {} given ↔ (given.map Setting.field).Nodup := by
  refine and_iff_left fun x _ => ?_
  cases x <;> rfl

variable {given : List Setting}

/-- Settings for other fields leave a field as it was. -/
theorem setting?_foldl_of_notMem {f : Field} (h : f ∉ given.map Setting.field) (g : Given) :
    (given.foldl Given.add g).setting? f = g.setting? f := by
  induction given generalizing g with
  | nil => rfl
  | cons x given ih =>
    rw [List.map_cons, List.mem_cons, not_or] at h
    rw [List.foldl_cons, ih h.2, Given.setting?_add, if_neg h.1]

/-- What is given of a field stays, since nothing behind it is for the same field. -/
theorem setting?_foldl_of_mem {x : Setting} (h : (given.map Setting.field).Nodup) (hx : x ∈ given)
    (g : Given) : (given.foldl Given.add g).setting? x.field = some x := by
  induction given generalizing g with
  | nil => exact absurd hx List.not_mem_nil
  | cons y given ih =>
    obtain ⟨hnotMem, hnodup⟩ := List.nodup_cons.mp h
    rw [List.foldl_cons]
    rcases List.mem_cons.mp hx with rfl | hx
    · rw [setting?_foldl_of_notMem hnotMem, Given.setting?_add, if_pos rfl]
    · exact ih hnodup hx _

/-- Settings of which no field has two give what is left when they are added one by one. -/
theorem gives_foldl (h : (given.map Setting.field).Nodup) :
    Gives given (given.foldl Given.add {}).settings := by
  refine ⟨fun x hx => ?_, fun f hf => ?_⟩
  · rw [Given.value_settings, setting?_foldl_of_mem h hx]
    rfl
  · rw [Given.value_settings, setting?_foldl_of_notMem hf]
    cases f <;> rfl

/-- What is given determines the settings. -/
theorem Gives.unique {s s' : Settings} (h : Gives given s) (h' : Gives given s') : s = s' := by
  have hvalue : ∀ f, s.value f = s'.value f := by
    intro f
    by_cases hf : f ∈ given.map Setting.field
    · obtain ⟨x, hx, rfl⟩ := List.mem_map.mp hf
      rw [h.mem x hx, h'.mem x hx]
    · rw [h.notMem f hf, h'.notMem f hf]
  obtain ⟨p, b⟩ := s
  obtain ⟨q, c⟩ := s'
  obtain rfl := Setting.unreachable.inj (hvalue .unreachable)
  obtain rfl := Setting.logUnhandled.inj (hvalue .logUnhandled)
  rfl

/-! ## Lists -/

variable {s : Settings}

/-- A policy begins with a quote or with a brace. -/
theorem PolicyText.exists_cons {text : List Char} (h : PolicyText text p) :
    ∃ c tail, text = c :: tail ∧ isBlank c = false ∧ c ≠ ']' := by
  cases h with
  | name hname =>
    obtain ⟨tail, rfl⟩ := hname.exists_cons
    exact ⟨'"', tail, rfl, rfl, by decide⟩
  | object => exact ⟨'\x7b', _, rfl, rfl, by decide⟩

/-- The end of a list is read exactly where a bracket stands behind blanks. -/
theorem readListEnd_eq_ok_iff :
    readListEnd cs = .ok rest ↔ ∃ a, Blanks a ∧ cs = a ++ ']' :: rest := by
  constructor
  · intro h
    unfold readListEnd at h
    split at h
    · cases h
    · next hskip =>
      obtain rfl := Except.ok.inj h
      exact (skipBlanks_eq_cons_iff.mp hskip).2
    · split at h <;> cases h
    · cases h
  · rintro ⟨a, ha, rfl⟩
    rw [readListEnd, skipBlanks_append ha rfl]
    rfl

/-- Behind a comma that no bracket follows comes a truth value, and then the list ends. -/
theorem readSecond_comma {a tail : List Char} {c : Char} (ha : Blanks a)
    (hskip : skipBlanks cs = c :: tail) (hc : c ≠ ']') : readSecond p (a ++ ',' :: cs)
      = readBool cs >>= fun x => readListEnd x.2 >>= fun rest => pure (⟨p, x.1⟩, rest) := by
  have hbool : readBool (c :: tail) = readBool cs := by rw [← hskip, readBool_skipBlanks]
  unfold readSecond
  simp only [skipBlanks_append ha (show isBlank ',' = false from rfl), hskip]
  split
  · next hnil => cases hnil
  · next hclose => exact absurd (List.cons.inj hclose).1 hc
  · rw [hbool]

/-- Behind a policy a list ends, or goes on with a comma, a truth value and its end. -/
theorem readSecond_eq_ok_iff : readSecond p cs = .ok (s, rest) ↔
    (∃ a, Blanks a ∧ cs = a ++ ']' :: rest ∧ s = ⟨p, false⟩)
    ∨ ∃ a b truth c, Blanks a ∧ Blanks b ∧ Blanks c
      ∧ cs = a ++ ',' :: (b ++ ((boolText truth).toList ++ (c ++ ']' :: rest)))
      ∧ s = ⟨p, truth⟩ := by
  constructor
  · intro h
    unfold readSecond at h
    split at h
    · cases h
    · next hskip =>
      obtain ⟨rfl, rfl⟩ := Prod.mk.inj (Except.ok.inj h)
      obtain ⟨-, a, ha, rfl⟩ := skipBlanks_eq_cons_iff.mp hskip
      exact .inl ⟨a, ha, rfl, rfl⟩
    · next hskip =>
      obtain ⟨-, a, ha, rfl⟩ := skipBlanks_eq_cons_iff.mp hskip
      split at h
      · cases h
      · cases h
      · rw [readBool_skipBlanks] at h
        simp only [bind_eq_ok_iff, Prod.exists, readBool_eq_ok_iff, readListEnd_eq_ok_iff] at h
        obtain ⟨truth, _, ⟨b, hb, rfl⟩, _, ⟨c, hc, rfl⟩, hpure⟩ := h
        obtain ⟨rfl, rfl⟩ := Prod.mk.inj (Except.ok.inj hpure)
        exact .inr ⟨a, b, truth, c, ha, hb, hc, rfl, rfl⟩
    · cases h
  · rintro (⟨a, ha, rfl, rfl⟩ | ⟨a, b, truth, c, ha, hb, hc, rfl, rfl⟩)
    · rw [readSecond, skipBlanks_append ha rfl]
      rfl
    · have hbool : readBool (b ++ ((boolText truth).toList ++ (c ++ ']' :: rest)))
          = .ok (truth, c ++ ']' :: rest) := readBool_eq_ok_iff.mpr ⟨b, hb, rfl⟩
      have hend : readListEnd (c ++ ']' :: rest) = .ok rest :=
        readListEnd_eq_ok_iff.mpr ⟨c, hc, rfl⟩
      -- no word of a truth value begins with the bracket that must not follow the comma
      have hskip : ∃ d tail, skipBlanks (b ++ ((boolText truth).toList ++ (c ++ ']' :: rest)))
          = d :: tail ∧ d ≠ ']' := by
        cases truth with
        | true => exact ⟨'t', _, skipBlanks_append hb rfl _, by decide⟩
        | false => exact ⟨'f', _, skipBlanks_append hb rfl _, by decide⟩
      obtain ⟨d, tail, hskip, hd⟩ := hskip
      rw [readSecond_comma ha hskip hd]
      exact bind_eq_ok_iff.mpr ⟨_, hbool, bind_eq_ok_iff.mpr ⟨rest, hend, rfl⟩⟩

/-- The values of the first fields are for different fields. -/
theorem nodup_of_initial {given : List Setting}
    (h : given.map Setting.field <+: [.unreachable, .logUnhandled]) :
    (given.map Setting.field).Nodup := h.sublist.nodup (by decide)

/-- A list that begins with a policy goes on behind it. -/
theorem readList_policy {a text : List Char} (ha : Blanks a) (hp : PolicyText text p)
    (behind : List Char) : readList (a ++ (text ++ behind)) = readSecond p behind := by
  have hread : readPolicy (skipBlanks (a ++ (text ++ behind))) = .ok (p, behind) := by
    rw [readPolicy_skipBlanks]
    exact readPolicy_eq_ok_iff.mpr ⟨a, text, ha, hp, rfl⟩
  -- a policy does not begin with the bracket that would end the list
  obtain ⟨c, tail, rfl, hc, hne⟩ := hp.exists_cons
  rw [List.cons_append, skipBlanks_append ha hc] at hread
  rw [List.cons_append]
  unfold readList
  rw [skipBlanks_append ha hc]
  split
  · next hnil => cases hnil
  · next hclose => exact absurd (List.cons.inj hclose).1 hne
  · rw [hread]
    rfl

/-- A list of settings has a policy as its first value, and a truth value as its second one. -/
theorem exists_of_listed {text : List Char} {given : List Setting}
    (h : Listed ValueText text given)
    (hgiven : given.map Setting.field <+: [.unreachable, .logUnhandled]) :
    (∃ p, PolicyText text p ∧ given = [.unreachable p])
    ∨ ∃ first p a b truth, PolicyText first p ∧ Blanks a ∧ Blanks b
      ∧ text = first ++ a ++ ',' :: (b ++ (boolText truth).toList)
      ∧ given = [.unreachable p, .logUnhandled truth] := by
  cases h with
  | one hvalue =>
    cases hvalue with
    | policy hp => exact .inl ⟨_, hp, rfl⟩
    | truth b => exact absurd (List.cons_prefix_cons.mp hgiven).1 (by simp [Setting.field])
  | more hvalue ha hb hrest =>
    have hsecond := (List.cons_prefix_cons.mp hgiven).2
    cases hvalue with
    | truth b => exact absurd (List.cons_prefix_cons.mp hgiven).1 (by simp [Setting.field])
    | policy hp =>
      cases hrest with
      | one hvalue' =>
        cases hvalue' with
        | policy hq => exact absurd (List.cons_prefix_cons.mp hsecond).1 (by simp [Setting.field])
        | truth truth => exact .inr ⟨_, _, _, _, truth, hp, ha, hb, rfl, rfl⟩
      | more _ _ _ hrest' =>
        -- there is no third field that a value could be for
        have hthird := (List.cons_prefix_cons.mp hsecond).2
        cases hrest' <;> simp at hthird

/-- Values in a list are read one by one. -/
theorem readList_of_listed {a values b : List Char} {given : List Setting} (ha : Blanks a)
    (hlisted : Listed ValueText values given) (hb : Blanks b)
    (hgiven : given.map Setting.field <+: [.unreachable, .logUnhandled]) :
    readList (a ++ values ++ b ++ [']'] ++ rest)
      = .ok ((given.foldl Given.add {}).settings, rest) := by
  obtain ⟨p, hp, rfl⟩ | ⟨first, p, c, d, truth, hp, hc, hd, rfl, rfl⟩ :=
    exists_of_listed hlisted hgiven
  · have hassoc : a ++ values ++ b ++ [']'] ++ rest = a ++ (values ++ (b ++ ']' :: rest)) := by
      simp
    rw [hassoc, readList_policy ha hp]
    exact readSecond_eq_ok_iff.mpr (.inl ⟨b, hb, rfl, rfl⟩)
  · have hassoc : a ++ (first ++ c ++ ',' :: (d ++ (boolText truth).toList)) ++ b ++ [']'] ++ rest
        = a ++ (first ++ (c ++ ',' :: (d ++ ((boolText truth).toList ++ (b ++ ']' :: rest))))) := by
      simp
    rw [hassoc, readList_policy ha hp]
    exact readSecond_eq_ok_iff.mpr (.inr ⟨c, d, truth, b, hc, hd, hb, rfl, rfl⟩)

/-- Settings are read from a list exactly where they are written so, behind the opening bracket. -/
theorem readList_eq_ok_iff : readList cs = .ok (s, rest) ↔
    ∃ text given, SettingsText ('[' :: text) given ∧ Gives given s ∧ cs = text ++ rest := by
  constructor
  · intro h
    unfold readList at h
    split at h
    · cases h
    · next hskip =>
      obtain ⟨rfl, rfl⟩ := Prod.mk.inj (Except.ok.inj h)
      obtain ⟨-, a, ha, rfl⟩ := skipBlanks_eq_cons_iff.mp hskip
      exact ⟨_, [], .emptyList ha, gives_foldl .nil, by simp⟩
    -- the first value is a policy, and behind it the list ends or has a truth value
    · rw [readPolicy_skipBlanks] at h
      simp only [bind_eq_ok_iff, Prod.exists, readPolicy_eq_ok_iff, readSecond_eq_ok_iff] at h
      obtain ⟨p, _, ⟨a, text, ha, htext, rfl⟩, ⟨b, hb, rfl, rfl⟩
        | ⟨b, c, truth, d, hb, hc, hd, rfl, rfl⟩⟩ := h
      · have hlisted : Listed ValueText text [.unreachable p] := .one (.policy htext)
        have hfirst : [Setting.unreachable p].map Setting.field
            <+: [.unreachable, .logUnhandled] := ⟨[.logUnhandled], rfl⟩
        exact ⟨_, _, .list ha hlisted hb hfirst, gives_foldl (nodup_of_initial hfirst), by simp⟩
      · have hlisted : Listed ValueText (text ++ b ++ ',' :: (c ++ (boolText truth).toList))
            [.unreachable p, .logUnhandled truth] :=
          .more (.policy htext) hb hc (.one (.truth truth))
        have hall : [Setting.unreachable p, .logUnhandled truth].map Setting.field
            <+: [.unreachable, .logUnhandled] := ⟨[], rfl⟩
        exact ⟨_, _, .list ha hlisted hd hall, gives_foldl (nodup_of_initial hall), by simp⟩
  · rintro ⟨text, given, htext, hgives, rfl⟩
    cases htext with
    | emptyList ha =>
      obtain rfl := hgives.unique (gives_foldl .nil)
      rw [List.append_assoc, List.singleton_append, readList, skipBlanks_append ha rfl]
      rfl
    | list ha hlisted hb hfields =>
      obtain rfl := hgives.unique (gives_foldl (nodup_of_initial hfields))
      exact readList_of_listed ha hlisted hb hfields

/-! ## Objects -/

variable {g : Given}

/-- The name of a field is read exactly where it is written, behind the opening quote. -/
theorem readField_eq_ok_iff {f : Field} {h : g.has f = false} :
    readField g cs = .ok (⟨f, h⟩, rest) ↔
      ∃ text, Quotes ('"' :: text) f.name ∧ cs = text ++ rest := by
  constructor
  · intro hread
    obtain ⟨⟨name, cs₁⟩, hname, hrest⟩ := bind_eq_ok_iff.mp hread
    obtain ⟨text, htext, rfl⟩ := stringTail_eq_ok_iff_quotes.mp hname
    dsimp only at hrest
    split at hrest
    · cases hrest
    · next f' hf =>
      split at hrest
      · obtain ⟨hfield, rfl⟩ := Prod.mk.inj (Except.ok.inj hrest)
        obtain rfl := congrArg Subtype.val hfield
        rw [Field.ofName?_eq_some_iff] at hf
        exact ⟨text, hf ▸ htext, rfl⟩
      · cases hrest
  · rintro ⟨text, htext, rfl⟩
    rw [← String.ofList_toList (s := f.name)] at htext
    refine bind_eq_ok_iff.mpr ⟨_, stringTail_eq_ok_iff_quotes.mpr ⟨text, htext, rfl⟩, ?_⟩
    simp only [String.ofList_toList, Field.ofName?_name, h]
    rfl

/-- Behind a member an object ends, or goes on with a comma and another member. -/
theorem readMembers_eq_ok_iff : readMembers g cs = .ok (s, rest) ↔
    (∃ a, Blanks a ∧ cs = a ++ '\x7d' :: rest ∧ s = g.settings)
    ∨ ∃ a behind, Blanks a ∧ cs = a ++ ',' :: behind
      ∧ readMember g (skipBlanks behind) = .ok (s, rest) := by
  constructor
  · intro h
    unfold readMembers at h
    split at h
    · cases h
    · next hskip =>
      obtain ⟨rfl, rfl⟩ := Prod.mk.inj (Except.ok.inj h)
      obtain ⟨-, a, ha, rfl⟩ := skipBlanks_eq_cons_iff.mp hskip
      exact .inl ⟨a, ha, rfl, rfl⟩
    · next behind hskip =>
      obtain ⟨-, a, ha, rfl⟩ := skipBlanks_eq_cons_iff.mp hskip
      split at h
      · cases h
      · cases h
      · exact .inr ⟨a, behind, ha, rfl, h⟩
    · cases h
  · rintro (⟨a, ha, rfl, rfl⟩ | ⟨a, behind, ha, rfl, hmember⟩)
    · rw [readMembers, skipBlanks_append ha rfl]
      rfl
    · unfold readMembers
      simp only [skipBlanks_append ha (show isBlank ',' = false from rfl)]
      -- behind the comma stands neither the end of the text nor a brace, which are no members
      split
      · next hnil =>
        rw [hnil] at hmember
        unfold readMember at hmember
        cases hmember
      · next hclose =>
        rw [hclose] at hmember
        unfold readMember at hmember
        cases hmember
      · exact hmember

/-- A member is read together with what follows it in its object. -/
theorem readMember_eq_ok_iff : readMember g cs = .ok (s, rest) ↔
    ∃ member x behind, MemberText member x ∧ g.has x.field = false ∧ cs = member ++ behind
      ∧ readMembers (g.add x) behind = .ok (s, rest) := by
  constructor
  · intro h
    unfold readMember at h
    split at h
    · obtain ⟨⟨⟨f, hf⟩, cs₁⟩, hfield, hrest⟩ := bind_eq_ok_iff.mp h
      obtain ⟨name, hname, rfl⟩ := readField_eq_ok_iff.mp hfield
      cases f with
      | unreachable =>
        simp only [bind_eq_ok_iff, Prod.exists, readColon_eq_ok_iff, readPolicy_eq_ok_iff] at hrest
        obtain ⟨_, ⟨a, ha, rfl⟩, p, behind, ⟨b, text, hb, htext, rfl⟩, hmembers⟩ := hrest
        exact ⟨_, .unreachable p, behind, .intro hname ha hb (.policy htext), hf, by simp, hmembers⟩
      | logUnhandled =>
        simp only [bind_eq_ok_iff, Prod.exists, readColon_eq_ok_iff, readBool_eq_ok_iff] at hrest
        obtain ⟨_, ⟨a, ha, rfl⟩, truth, behind, ⟨b, hb, rfl⟩, hmembers⟩ := hrest
        exact ⟨_, .logUnhandled truth, behind, .intro hname ha hb (.truth truth), hf, by simp,
          hmembers⟩
    · cases h
  · rintro ⟨_, x, behind, @⟨name, a, b, value, _, hname, ha, hb, hvalue⟩, hx, rfl, hmembers⟩
    obtain ⟨name, rfl⟩ := hname.exists_cons
    have hassoc : '"' :: name ++ a ++ ':' :: (b ++ value) ++ behind
        = '"' :: (name ++ (a ++ ':' :: (b ++ (value ++ behind)))) := by simp
    have hcolon : readColon (a ++ ':' :: (b ++ (value ++ behind))) = .ok (b ++ (value ++ behind)) :=
      readColon_eq_ok_iff.mpr ⟨a, ha, rfl⟩
    have hfield : readField g (name ++ (a ++ ':' :: (b ++ (value ++ behind))))
        = .ok (⟨x.field, hx⟩, a ++ ':' :: (b ++ (value ++ behind))) :=
      readField_eq_ok_iff.mpr ⟨name, hname, rfl⟩
    rw [hassoc]
    unfold readMember
    refine bind_eq_ok_iff.mpr ⟨_, hfield, ?_⟩
    -- the field decides which value is read behind the colon
    cases hvalue with
    | @policy _ p hp =>
      have hpolicy : readPolicy (b ++ (value ++ behind)) = .ok (p, behind) :=
        readPolicy_eq_ok_iff.mpr ⟨b, value, hb, hp, rfl⟩
      exact bind_eq_ok_iff.mpr ⟨_, hcolon, bind_eq_ok_iff.mpr ⟨_, hpolicy, hmembers⟩⟩
    | truth truth =>
      have hbool : readBool (b ++ ((boolText truth).toList ++ behind)) = .ok (truth, behind) :=
        readBool_eq_ok_iff.mpr ⟨b, hb, rfl⟩
      exact bind_eq_ok_iff.mpr ⟨_, hcolon, bind_eq_ok_iff.mpr ⟨_, hbool, hmembers⟩⟩

/-- Members begin with a quote. -/
theorem exists_cons_of_listed {text : List Char} {given : List Setting}
    (h : Listed MemberText text given) : ∃ tail, text = '"' :: tail := by
  have hmember : ∀ {text x}, MemberText text x → ∃ tail, text = '"' :: tail := by
    rintro _ _ ⟨hname, -, -, -⟩
    obtain ⟨tail, rfl⟩ := hname.exists_cons
    exact ⟨_, rfl⟩
  cases h with
  | one hx => exact hmember hx
  | more hx =>
    obtain ⟨tail, rfl⟩ := hmember hx
    exact ⟨_, rfl⟩

/-- From a member on an object gives fields that it has not given before, each of them once, up to
its closing brace. -/
theorem readMember_eq_ok_iff_listed : readMember g cs = .ok (s, rest) ↔
    ∃ members given b, Listed MemberText members given ∧ Blanks b ∧ Fresh g given
      ∧ cs = members ++ (b ++ '\x7d' :: rest) ∧ s = (given.foldl Given.add g).settings := by
  -- every member is for another field, so fewer and fewer are missing
  induction hmissing : g.missing using Nat.strong_induction_on generalizing g cs with
  | _ n ih =>
    subst hmissing
    constructor
    · intro h
      obtain ⟨member, x, behind, hmember, hx, rfl, hmembers⟩ := readMember_eq_ok_iff.mp h
      obtain ⟨b, hb, rfl, rfl⟩ | ⟨a, behind', ha, rfl, hnext⟩ := readMembers_eq_ok_iff.mp hmembers
      · have hfresh : Fresh g [x] := fresh_cons_iff.mpr ⟨hx, .nil, fun y hy => by simp at hy⟩
        exact ⟨member, [x], b, .one hmember, hb, hfresh, rfl, rfl⟩
      · obtain ⟨members, given, b, hlisted, hb, hfresh, hskip, rfl⟩ :=
          (ih _ (Given.missing_add_lt hx) rfl).mp hnext
        obtain ⟨c, hc, hbehind⟩ := exists_blanks behind'
        refine ⟨_, x :: given, b, .more hmember ha hc hlisted, hb, fresh_cons_iff.mpr ⟨hx, hfresh⟩,
          ?_, rfl⟩
        rw [hbehind, hskip]
        simp
    · rintro ⟨members, given, b, hlisted, hb, hfresh, rfl, rfl⟩
      cases hlisted with
      | @one _ x hmember =>
        have hx := (fresh_cons_iff.mp hfresh).1
        exact readMember_eq_ok_iff.mpr ⟨members, x, _, hmember, hx, rfl,
          readMembers_eq_ok_iff.mpr (.inl ⟨b, hb, rfl, rfl⟩)⟩
      | @more text a c members x given hmember ha hc hlisted =>
        obtain ⟨hx, hfresh⟩ := fresh_cons_iff.mp hfresh
        obtain ⟨tail, rfl⟩ := exists_cons_of_listed hlisted
        have hnext := (ih _ (Given.missing_add_lt hx) rfl).mpr
          ⟨_, given, b, hlisted, hb, hfresh, rfl, rfl⟩
        have hassoc : text ++ a ++ ',' :: (c ++ '"' :: tail) ++ (b ++ '\x7d' :: rest)
            = text ++ (a ++ ',' :: (c ++ '"' :: (tail ++ (b ++ '\x7d' :: rest)))) := by simp
        rw [hassoc]
        refine readMember_eq_ok_iff.mpr ⟨text, x, _, hmember, hx, rfl, ?_⟩
        refine readMembers_eq_ok_iff.mpr (.inr ⟨a, _, ha, rfl, ?_⟩)
        rw [skipBlanks_append hc rfl]
        exact hnext

/-- Settings are read from an object exactly where they are written so, behind the opening brace. -/
theorem readObject_eq_ok_iff : readObject cs = .ok (s, rest) ↔
    ∃ text given, SettingsText ('\x7b' :: text) given ∧ Gives given s ∧ cs = text ++ rest := by
  constructor
  · intro h
    unfold readObject at h
    split at h
    · cases h
    · next hskip =>
      obtain ⟨rfl, rfl⟩ := Prod.mk.inj (Except.ok.inj h)
      obtain ⟨-, a, ha, rfl⟩ := skipBlanks_eq_cons_iff.mp hskip
      exact ⟨_, [], .emptyObject ha, gives_foldl .nil, by simp⟩
    · obtain ⟨members, given, b, hlisted, hb, hfresh, hskip, rfl⟩ :=
        readMember_eq_ok_iff_listed.mp h
      have hnodup := fresh_nil_iff.mp hfresh
      obtain ⟨a, ha, hcs⟩ := exists_blanks cs
      refine ⟨_, given, .object ha hlisted hb hnodup, gives_foldl hnodup, ?_⟩
      rw [hcs, hskip]
      simp
  · rintro ⟨text, given, htext, hgives, rfl⟩
    cases htext with
    | emptyObject ha =>
      obtain rfl := hgives.unique (gives_foldl .nil)
      rw [List.append_assoc, List.singleton_append, readObject, skipBlanks_append ha rfl]
      rfl
    | @object a members b _ ha hlisted hb hnodup =>
      obtain rfl := hgives.unique (gives_foldl hnodup)
      have hread : readMember {} (members ++ (b ++ '\x7d' :: rest))
          = .ok ((given.foldl Given.add {}).settings, rest) :=
        readMember_eq_ok_iff_listed.mpr
          ⟨members, given, b, hlisted, hb, fresh_nil_iff.mpr hnodup, rfl, rfl⟩
      obtain ⟨tail, rfl⟩ := exists_cons_of_listed hlisted
      -- blanks are skipped up to the quote of the first member
      have hassoc : a ++ '"' :: tail ++ b ++ ['\x7d'] ++ rest
          = a ++ '"' :: (tail ++ (b ++ '\x7d' :: rest)) := by simp
      rw [hassoc, readObject, skipBlanks_append ha rfl]
      exact hread

/-! ## Whole texts -/

/-- Settings begin with a bracket or with a brace. -/
theorem SettingsText.exists_cons {text : List Char} {given : List Setting}
    (h : SettingsText text given) : ∃ tail, text = '[' :: tail ∨ text = '\x7b' :: tail := by
  cases h with
  | emptyObject => exact ⟨_, .inr rfl⟩
  | object => exact ⟨_, .inr rfl⟩
  | emptyList => exact ⟨_, .inl rfl⟩
  | list => exact ⟨_, .inl rfl⟩

/-- Settings are read exactly where they are written behind blanks. -/
theorem readSettings_eq_ok_iff : readSettings cs = .ok (s, rest) ↔
    ∃ a text given, Blanks a ∧ SettingsText text given ∧ Gives given s
      ∧ cs = a ++ (text ++ rest) := by
  constructor
  · intro h
    unfold readSettings at h
    split at h
    · cases h
    · next hskip =>
      obtain ⟨-, a, ha, rfl⟩ := skipBlanks_eq_cons_iff.mp hskip
      obtain ⟨text, given, htext, hgives, rfl⟩ := readList_eq_ok_iff.mp h
      exact ⟨a, _, given, ha, htext, hgives, rfl⟩
    · next hskip =>
      obtain ⟨-, a, ha, rfl⟩ := skipBlanks_eq_cons_iff.mp hskip
      obtain ⟨text, given, htext, hgives, rfl⟩ := readObject_eq_ok_iff.mp h
      exact ⟨a, _, given, ha, htext, hgives, rfl⟩
    · cases h
  · rintro ⟨a, text, given, ha, htext, hgives, rfl⟩
    obtain ⟨tail, rfl | rfl⟩ := htext.exists_cons
    · rw [List.cons_append, readSettings, skipBlanks_append ha rfl]
      exact readList_eq_ok_iff.mpr ⟨tail, given, htext, hgives, rfl⟩
    · rw [List.cons_append, readSettings, skipBlanks_append ha rfl]
      exact readObject_eq_ok_iff.mpr ⟨tail, given, htext, hgives, rfl⟩

/-- Another error makes no difference to what is read. -/
theorem mapError_eq_ok_iff {ε ε' α : Type} {f : ε → ε'} {x : Except ε α} {a : α} :
    x.mapError f = .ok a ↔ x = .ok a := by
  cases x <;> simp [Except.mapError]

/-- A whole text is read if nothing but blanks stands behind what is read. -/
theorem readWhole_eq_ok_iff {α : Type} {read : List Char → Except Fault (Read α)} {text : String}
    {a : α} :
    readWhole read text = .ok a ↔ ∃ rest, read text.toList = .ok (a, rest) ∧ Blanks rest := by
  simp only [readWhole, mapError_eq_ok_iff, bind_eq_ok_iff, Prod.exists]
  constructor
  · rintro ⟨value, rest, hread, hend⟩
    split at hend
    · next hskip =>
      obtain rfl := Except.ok.inj hend
      exact ⟨rest, hread, skipBlanks_eq_nil_iff.mp hskip⟩
    · cases hend
  · rintro ⟨rest, hread, hblanks⟩
    refine ⟨a, rest, hread, ?_⟩
    rw [skipBlanks_eq_nil_iff.mpr hblanks]
    rfl

/-- A text gives settings exactly if they are written in it. -/
theorem ofJson_eq_ok_iff {text : String} :
    ofJson text = .ok s ↔ ∃ given, Written text given ∧ Gives given s := by
  simp only [ofJson, readWhole_eq_ok_iff, readSettings_eq_ok_iff]
  constructor
  · rintro ⟨behind, ⟨front, value, given, hfront, hvalue, hgives, htext⟩, hbehind⟩
    rw [← List.append_assoc] at htext
    exact ⟨given, ⟨front, value, behind, htext, hfront, hvalue, hbehind⟩, hgives⟩
  · rintro ⟨given, ⟨front, value, behind, htext, hfront, hvalue, hbehind⟩, hgives⟩
    rw [List.append_assoc] at htext
    exact ⟨behind, ⟨front, value, given, hfront, hvalue, hgives, htext⟩, hbehind⟩

/-- In settings no field is given twice, whichever way they are written. -/
theorem Written.nodup {text : String} (h : Written text given) :
    (given.map Setting.field).Nodup := by
  obtain ⟨-, value, -, -, -, hvalue, -⟩ := h
  cases hvalue with
  | emptyObject => exact .nil
  | object _ _ _ hnodup => exact hnodup
  | emptyList => exact .nil
  | list _ _ _ hfields => exact nodup_of_initial hfields

/-- What is written is read. -/
theorem Written.exists_ofJson {text : String} (h : Written text given) :
    ∃ s, ofJson text = .ok s ∧ Gives given s :=
  have hgives := gives_foldl h.nodup
  ⟨_, ofJson_eq_ok_iff.mpr ⟨given, h, hgives⟩, hgives⟩

/-- The order in which settings are given does not matter. -/
theorem Gives.of_perm {given' : List Setting} (h : Gives given s) (hperm : given.Perm given') :
    Gives given' s where
  mem x hx := h.mem x (hperm.mem_iff.mpr hx)
  notMem f hf := h.notMem f fun hmem => hf ((hperm.map Setting.field).mem_iff.mp hmem)

/-- A text gives settings exactly if they are written in it: the values that are given and standard
ones for the rest.  Every text in which settings are written is read, however it is spelled and in
whatever order it names the fields, and every other text is refused. -/
theorem ofJson_reads_exactly_written (text : String) :
    (∀ s, ofJson text = .ok s ↔ ∃ given, Written text given ∧ Gives given s)
    ∧ (∀ given, Written text given → ∃ s, ofJson text = .ok s ∧ Gives given s)
    ∧ (∀ text' given given', Written text given → Written text' given' → given.Perm given' →
      ofJson text = ofJson text')
    ∧ ((∀ given, ¬Written text given) → ∃ e, ofJson text = .error e) := by
  refine ⟨fun s => ofJson_eq_ok_iff, fun given => Written.exists_ofJson, ?_, fun hnot => ?_⟩
  · intro text' given given' hwritten hwritten' hperm
    obtain ⟨s, hs, hgives⟩ := hwritten.exists_ofJson
    have hs' : ofJson text' = .ok s :=
      ofJson_eq_ok_iff.mpr ⟨given', hwritten', hgives.of_perm hperm⟩
    rw [hs, hs']
  · cases hread : ofJson text with
    | error e => exact ⟨e, rfl⟩
    | ok s =>
      obtain ⟨given, hwritten, -⟩ := ofJson_eq_ok_iff.mp hread
      exact absurd hwritten (hnot given)

namespace Sample

/-- A list with the policy to reject, whose first letter is escaped. -/
def listed : String := "[\"\\u0072eject\" ,true]"

/-- The same settings as an object, with the policy behind the truth value. -/
def named : String := "\x7b\"log_unhandled\":true, \"unreachable_cases\":\"reject\"\x7d"

/-- The values of the sample stand in a list, between blanks. -/
theorem written_listed : Written listed [.unreachable .reject, .logUnhandled true] := by
  have hletter : Escape "u0072".toList 'r' :=
    .single (.intro (i := 0) (j := 0) (k := 7) (l := 2) (by decide) (by decide) (by decide)
      (by decide)) (by decide)
  have hname : Quotes _ Policy.reject.name := .intro (.escape hletter (Plain.spells (by decide)))
  have hvalues : Listed ValueText _ [.unreachable .reject, .logUnhandled true] :=
    .more (.policy (.name hname)) (by decide : Blanks [' ']) blanks_nil (.one (.truth true))
  exact ⟨[], listed.toList, [], rfl, blanks_nil, .list blanks_nil hvalues blanks_nil ⟨[], rfl⟩,
    blanks_nil⟩

/-- The values of the other sample stand in an object. -/
theorem written_named : Written named [.logUnhandled true, .unreachable .reject] := by
  have hname (s : String) (h : Plain s.toList) : Quotes _ s := .intro h.spells
  have htruth : MemberText _ (.logUnhandled true) :=
    .intro (hname "log_unhandled" (by decide)) blanks_nil blanks_nil (.truth true)
  have hpolicy : MemberText _ (.unreachable .reject) :=
    .intro (hname "unreachable_cases" (by decide)) blanks_nil blanks_nil
      (.policy (.name (hname "reject" (by decide))))
  have hmembers := Listed.more htruth blanks_nil (by decide : Blanks [' ']) (.one hpolicy)
  exact ⟨[], named.toList, [], rfl, blanks_nil,
    .object blanks_nil hmembers blanks_nil (by decide), blanks_nil⟩

end Sample

open Sample (listed named written_listed written_named) in
/-- Rejection with logging, in a list and in an object. -/
theorem ofJson_reads_exactly_written_listed :
    Written listed [.unreachable .reject, .logUnhandled true]
    ∧ Written named [.logUnhandled true, .unreachable .reject]
    ∧ ofJson listed = .ok ⟨.reject, true⟩ ∧ ofJson listed = ofJson named := by
  obtain ⟨hread, -, hperm, -⟩ := ofJson_reads_exactly_written listed
  have hgives : Gives [.unreachable .reject, .logUnhandled true] ⟨.reject, true⟩ :=
    gives_foldl (by decide)
  exact ⟨written_listed, written_named, (hread _).mpr ⟨_, written_listed, hgives⟩,
    hperm _ _ _ written_listed written_named (.swap _ _ [])⟩

/-! ## Texts of settings -/

/-- The name of a policy is written in quotes as it is. -/
theorem quotes_policy (p : Policy) : Quotes ('"' :: (p.name.toList ++ ['"'])) p.name := by
  have hplain : Plain p.name.toList := by cases p <;> decide
  exact .intro hplain.spells

/-- The name of a field is written in quotes as it is. -/
theorem quotes_field (f : Field) : Quotes ('"' :: (f.name.toList ++ ['"'])) f.name := by
  have hplain : Plain f.name.toList := by cases f <;> decide
  exact .intro hplain.spells

/-- Both values are written in the text that settings are turned into. -/
theorem written_toJson (s : Settings) :
    Written s.toJson [.unreachable s.unreachable, .logUnhandled s.logUnhandled] := by
  have hpolicy := MemberText.intro (x := .unreachable s.unreachable) (quotes_field .unreachable)
    blanks_nil blanks_nil (.policy (.name (quotes_policy s.unreachable)))
  have htruth := MemberText.intro (x := .logUnhandled s.logUnhandled) (quotes_field .logUnhandled)
    blanks_nil blanks_nil (.truth s.logUnhandled)
  have hmembers := Listed.more hpolicy blanks_nil blanks_nil (.one htruth)
  have hnodup : ([.unreachable, .logUnhandled] : List Field).Nodup := by decide
  refine ⟨[], _, [], ?_, blanks_nil, .object blanks_nil hmembers blanks_nil hnodup, blanks_nil⟩
  simp [toJson, policyJson]

/-- The text of settings gives these settings. -/
theorem ofJson_toJson (s : Settings) : ofJson s.toJson = .ok s := by
  have hall : ∀ f : Field, f ∈ [.unreachable, .logUnhandled] := by rintro (_ | _) <;> decide
  refine ofJson_eq_ok_iff.mpr ⟨_, written_toJson s, fun x hx => ?_, fun f hf => absurd (hall f) hf⟩
  simp only [List.mem_cons, List.not_mem_nil, or_false] at hx
  rcases hx with rfl | rfl <;> rfl

end FirstMatch.Settings
