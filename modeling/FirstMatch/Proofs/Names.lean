/-
# Names of policies

A policy is read from a plain text, where capitals count as small letters, and from a JSON text,
where the name is a string or the one member of an object and must be spelled as it is.  Both ways
know the same names.  A JSON text that gives a policy has the name of that policy written in it, in
whatever spelling (`Settings.Named`), and as a plain text this name gives the same policy.  The
other way round, a name that a plain text may have is refused in JSON for its capitals only.
-/
import FirstMatch.Proofs.Reading

namespace FirstMatch

/-! ## Plain texts -/

namespace Policy

variable {s : String} {p : Policy} {c : Char}

/-- The capitals of ASCII. -/
def capitals : List Char :=
  ['A', 'B', 'C', 'D', 'E', 'F', 'G', 'H', 'I', 'J', 'K', 'L', 'M',
    'N', 'O', 'P', 'Q', 'R', 'S', 'T', 'U', 'V', 'W', 'X', 'Y', 'Z']

/-- The small letters of ASCII, in the order of the capitals. -/
def smallLetters : List Char :=
  ['a', 'b', 'c', 'd', 'e', 'f', 'g', 'h', 'i', 'j', 'k', 'l', 'm',
    'n', 'o', 'p', 'q', 'r', 's', 't', 'u', 'v', 'w', 'x', 'y', 'z']

/-- The small letter for a capital, and any other character itself. -/
def lower (c : Char) : Char := ((capitals.zip smallLetters).lookup c).getD c

/-- The text with the small letter for every capital, and with all else as it is. -/
def lowered (s : String) : String := String.ofList (s.toList.map lower)

/-- All characters but capitals are left as they are. -/
theorem lower_of_notMem (h : c ∉ capitals) : lower c = c := by
  have hnone : (capitals.zip smallLetters).lookup c = none := by
    rw [List.lookup_eq_none_iff]
    rintro ⟨a, b⟩ hab
    have ha : a ∈ capitals := (List.of_mem_zip hab).1
    rw [bne_iff_ne]
    rintro rfl
    exact h ha
  rw [lower, hnone]
  rfl

/-- The table of letters agrees with the function of the library. -/
theorem toLower_eq_lower (c : Char) : c.toLower = lower c := by
  by_cases hc : c.toNat < 91
  · have hall : ∀ n < 91, (Char.ofNat n).toLower = lower (Char.ofNat n) := by decide
    have hlower := hall c.toNat hc
    rwa [Char.ofNat_toNat] at hlower
  -- the capitals end with `Z`, whose code point is 90
  · have hcapital : c ∉ capitals := by
      have hall : ∀ d ∈ capitals, d.toNat < 91 := by simp [capitals]
      exact fun hmem => hc (hall c hmem)
    have hlarge : ¬ c.val ≤ 'Z'.val := fun hle =>
      hc (Nat.lt_succ_of_le (UInt32.le_iff_toNat_le.mp hle))
    have hself : c.toLower = c := dif_neg fun hle => hlarge hle.2
    rw [lower_of_notMem hcapital, hself]

/-- A plain text gives a policy exactly if in small letters it is the name of the policy. -/
theorem ofText_eq_ok_iff : ofText s = .ok p ↔ lowered s = p.name := by
  have hlower : String.ofList (s.toList.map Char.toLower) = lowered s := by
    rw [lowered, funext toLower_eq_lower]
  rw [ofText, hlower, eq_comm (a := lowered s), ← ofName?_eq_some_iff]
  cases ofName? (lowered s) <;> simp

/-- Every other text is refused. -/
theorem ofText_eq_error_iff :
    ofText s = .error .unknownName ↔ ∀ p : Policy, lowered s ≠ p.name := by
  simp only [Ne, ← ofText_eq_ok_iff]
  cases hread : ofText s with
  | ok p => simp
  | error e => cases e; simp

/-- The names of policies have no capitals. -/
theorem notMem_capitals_of_mem_name : ∀ c ∈ p.name.toList, c ∉ capitals := by
  cases p <;> simp [name, capitals]

/-- In small letters a text without capitals stays the same. -/
theorem lowered_eq_self (h : ∀ c ∈ s.toList, c ∉ capitals) : lowered s = s := by
  have hall : s.toList.map lower = s.toList := by
    rw [List.map_congr_left fun c hc => lower_of_notMem (h c hc), List.map_id']
  rw [lowered, hall, String.ofList_toList]

/-- The name of a policy is in small letters already. -/
theorem lowered_name (p : Policy) : lowered p.name = p.name :=
  lowered_eq_self notMem_capitals_of_mem_name

/-- The name of a policy gives it. -/
theorem ofText_name (p : Policy) : ofText p.name = .ok p := ofText_eq_ok_iff.mpr (lowered_name p)

/-- A text that gives a policy is its name, if there are no capitals in it. -/
theorem eq_name_iff (h : ofText s = .ok p) : s = p.name ↔ ∀ c ∈ s.toList, c ∉ capitals := by
  constructor
  · rintro rfl
    exact notMem_capitals_of_mem_name
  · intro hcapitals
    rw [← ofText_eq_ok_iff.mp h, lowered_eq_self hcapitals]

end Policy

/-! ## JSON texts -/

namespace Settings

open Json

variable {s t : String} {p q : Policy} {text text' rest rest' a a' : List Char}

/-- A name: a string, or an object with the string as its one member and `null` as its value. -/
inductive NameText : List Char → String → Prop
  | string {text : List Char} {s : String} : Quotes text s → NameText text s
  | object {a name b c d : List Char} {s : String} :
    Blanks a → Quotes name s → Blanks b → Blanks c → Blanks d →
    NameText ('\x7b' :: (a ++ name ++ b ++ ':' :: (c ++ "null".toList ++ d ++ ['\x7d']))) s

/-- A whole text in which a name is written, with nothing but blanks around it. -/
def Named (text : String) (s : String) : Prop :=
  ∃ front name behind, text.toList = front ++ name ++ behind
    ∧ Blanks front ∧ NameText name s ∧ Blanks behind

/-- A policy is written by its name. -/
theorem policyText_iff : PolicyText text p ↔ NameText text p.name := by
  constructor
  · intro h
    cases h with
    | name hname => exact .string hname
    | object ha hname hb hc hd => exact .object ha hname hb hc hd
  · intro h
    cases h with
    | string hname => exact .name hname
    | object ha hname hb hc hd => exact .object ha hname hb hc hd

/-- A text gives a policy exactly if the name of the policy is written in it. -/
theorem policyOfJson_eq_ok_iff {text : String} :
    policyOfJson text = .ok p ↔ Named text p.name := by
  simp only [policyOfJson, readWhole_eq_ok_iff, readPolicy_eq_ok_iff, policyText_iff]
  constructor
  · rintro ⟨behind, ⟨front, name, hfront, hname, htext⟩, hbehind⟩
    rw [← List.append_assoc] at htext
    exact ⟨front, name, behind, htext, hfront, hname, hbehind⟩
  · rintro ⟨front, name, behind, htext, hfront, hname, hbehind⟩
    rw [List.append_assoc] at htext
    exact ⟨behind, ⟨front, name, hfront, hname, htext⟩, hbehind⟩

/-! ### What a text denotes -/

/-- Blanks end in one place. -/
theorem cons_eq_of_blanks {c c' : Char} (ha : Blanks a) (ha' : Blanks a') (hc : isBlank c = false)
    (hc' : isBlank c' = false) (h : a ++ c :: rest = a' ++ c' :: rest') :
    c :: rest = c' :: rest' := by
  rw [← skipBlanks_append ha hc, h, skipBlanks_append ha' hc']

/-- A string ends in one place and denotes one text. -/
theorem quotes_unique (ha : Blanks a) (ha' : Blanks a') (h : Quotes text s) (h' : Quotes text' t)
    (heq : a ++ (text ++ rest) = a' ++ (text' ++ rest')) : s = t ∧ rest = rest' := by
  obtain ⟨tail, rfl⟩ := h.exists_cons
  obtain ⟨tail', rfl⟩ := h'.exists_cons
  have htail : tail ++ rest = tail' ++ rest' :=
    (List.cons.inj (cons_eq_of_blanks ha ha' rfl rfl heq)).2
  rw [← String.ofList_toList (s := s)] at h
  rw [← String.ofList_toList (s := t)] at h'
  have hread : stringTail (tail ++ rest) = .ok (s.toList, rest) :=
    stringTail_eq_ok_iff_quotes.mpr ⟨tail, h, rfl⟩
  have hread' : stringTail (tail ++ rest) = .ok (t.toList, rest') :=
    stringTail_eq_ok_iff_quotes.mpr ⟨tail', h', htail⟩
  obtain ⟨hs, hrest⟩ := Prod.mk.inj (Except.ok.inj (hread.symm.trans hread'))
  exact ⟨String.toList_injective hs, hrest⟩

/-- A name is written in one way as a string, and in another as an object. -/
theorem quotes_ne_object {tail : List Char} (ha : Blanks a) (ha' : Blanks a') (h : Quotes text s)
    (heq : a ++ (text ++ rest) = a' ++ '\x7b' :: tail) : False := by
  obtain ⟨tail', rfl⟩ := h.exists_cons
  have hfirst := (List.cons.inj (cons_eq_of_blanks ha ha' rfl rfl heq)).1
  exact absurd hfirst (by decide)

/-- A text begins with one name at most. -/
theorem NameText.unique (ha : Blanks a) (ha' : Blanks a') (h : NameText text s)
    (h' : NameText text' t) (heq : a ++ (text ++ rest) = a' ++ (text' ++ rest')) : s = t := by
  cases h with
  | string hname =>
    cases h' with
    | string hname' => exact (quotes_unique ha ha' hname hname' heq).1
    | object => exact (quotes_ne_object ha ha' hname heq).elim
  | object hb hname =>
    cases h' with
    | string hname' => exact (quotes_ne_object ha' ha hname' heq.symm).elim
    | object hb' hname' =>
      have hbehind := (List.cons.inj (cons_eq_of_blanks ha ha' rfl rfl heq)).2
      simp only [List.append_eq, List.append_assoc] at hbehind
      exact (quotes_unique hb hb' hname hname' hbehind).1

/-- In a text one name is written at most. -/
theorem Named.unique {text : String} (h : Named text s) (h' : Named text t) : s = t := by
  obtain ⟨front, name, behind, htext, hfront, hname, -⟩ := h
  obtain ⟨front', name', behind', htext', hfront', hname', -⟩ := h'
  rw [htext, List.append_assoc, List.append_assoc] at htext'
  exact hname.unique hfront hfront' hname' htext'

/-- A text in which a name is written gives a policy exactly if the name is the policy's. -/
theorem Named.policyOfJson_eq_ok_iff {text : String} (h : Named text s) :
    policyOfJson text = .ok p ↔ s = p.name := by
  rw [Settings.policyOfJson_eq_ok_iff]
  constructor
  · exact h.unique
  · rintro rfl
    exact h

/-- A text in which a name is written does not begin like one. -/
theorem ofText_ne_ok_of_named {text : String} (h : Named text s) : Policy.ofText text ≠ .ok p := by
  intro hread
  have hlower : text.toList.map Policy.lower = p.name.toList := by
    rw [← Policy.ofText_eq_ok_iff.mp hread, Policy.lowered, String.toList_ofList]
  have hmem : ∀ c ∈ text.toList, Policy.lower c ∈ p.name.toList := by
    intro c hc
    rw [← hlower]
    exact List.mem_map_of_mem hc
  obtain ⟨front, name, behind, htext, -, hname, -⟩ := h
  -- the text begins with a quote or a brace, and no name has either
  have hopen : '"' ∈ text.toList ∨ '\x7b' ∈ text.toList := by
    rw [htext]
    cases hname with
    | string hquotes =>
      obtain ⟨tail, rfl⟩ := hquotes.exists_cons
      simp
    | object => simp
  have hname : Policy.lower '"' ∉ p.name.toList ∧ Policy.lower '\x7b' ∉ p.name.toList := by
    cases p <;> decide
  rcases hopen with hquote | hbrace
  · exact hname.1 (hmem _ hquote)
  · exact hname.2 (hmem _ hbrace)

/-! ### Policies in settings -/

/-- The text of settings that give a policy only, in the given words. -/
def onlyPolicy (text : String) : String :=
  "\x7b\"" ++ Field.unreachable.name ++ "\":" ++ text ++ "\x7d"

/-- The text stands in an object as the value of the field for unreachable rules. -/
theorem toList_onlyPolicy (text : String) : (onlyPolicy text).toList =
    '\x7b' :: ('"' :: (Field.unreachable.name.toList ++ ['"'])
      ++ ':' :: (text.toList ++ ['\x7d'])) := by
  simp [onlyPolicy]

/-- Settings that name nothing but a policy are read with it. -/
theorem ofJson_onlyPolicy_of_named {text : String} (h : Named text p.name) :
    ofJson (onlyPolicy text) = .ok ⟨p, false⟩ := by
  obtain ⟨front, name, behind, htext, hfront, hname, hbehind⟩ := h
  have hmember := MemberText.intro (x := .unreachable p) (quotes_field .unreachable) blanks_nil
    hfront (.policy (policyText_iff.mpr hname))
  have hnodup : ([Setting.unreachable p].map Setting.field).Nodup := by simp
  have hgives : Gives [.unreachable p] ⟨p, false⟩ := gives_foldl hnodup
  refine ofJson_eq_ok_iff.mpr ⟨_, ⟨[], _, [], ?_, blanks_nil,
    .object blanks_nil (.one hmember) hbehind hnodup, blanks_nil⟩, hgives⟩
  rw [toList_onlyPolicy, htext]
  simp

/-- Settings that give a policy in the given words have the name of a policy there. -/
theorem exists_name_of_onlyPolicy {text : String} {x : Settings} (h : Named text s)
    (hread : ofJson (onlyPolicy text) = .ok x) : ∃ p : Policy, s = p.name := by
  obtain ⟨front, name, behind, htext, hfront, hname, -⟩ := h
  obtain ⟨rest, hsettings, -⟩ := readWhole_eq_ok_iff.mp hread
  rw [toList_onlyPolicy, htext] at hsettings
  have hmember : readMember {} ('"' :: (Field.unreachable.name.toList ++ ['"']) ++ ':' ::
      (front ++ name ++ behind ++ ['\x7d'])) = .ok (x, rest) := hsettings
  obtain ⟨_, y, tail, @⟨field, a, b, value, _, hfield, ha, hb, hvalue⟩, -, htail, -⟩ :=
    readMember_eq_ok_iff.mp hmember
  simp only [List.append_assoc, List.cons_append (a := ':')] at htail
  -- the reader saw the field that is written, and so the value that is
  obtain ⟨hfields, hcolon⟩ := quotes_unique blanks_nil blanks_nil (quotes_field .unreachable) hfield
    htail
  have hvalues := (List.cons.inj (cons_eq_of_blanks blanks_nil ha rfl rfl hcolon)).2
  cases hvalue with
  | policy hp => exact ⟨_, hname.unique hfront hb (policyText_iff.mp hp) hvalues⟩
  | truth b =>
    have hother : Field.unreachable.name = Field.logUnhandled.name := hfields
    exact absurd hother (by decide)

/-- Settings take the name of a policy as a text of its own would. -/
theorem ofJson_onlyPolicy_eq_ok_iff {text : String} {x : Settings} (h : Named text s) :
    ofJson (onlyPolicy text) = .ok x ↔ ∃ p, policyOfJson text = .ok p ∧ x = ⟨p, false⟩ := by
  constructor
  · intro hread
    obtain ⟨p, rfl⟩ := exists_name_of_onlyPolicy h hread
    exact ⟨p, policyOfJson_eq_ok_iff.mpr h,
      Except.ok.inj (hread.symm.trans (ofJson_onlyPolicy_of_named h))⟩
  · rintro ⟨p, hread, rfl⟩
    exact ofJson_onlyPolicy_of_named (policyOfJson_eq_ok_iff.mp hread)

end Settings

open Policy (ofText lowered capitals)
open Settings (Named policyOfJson ofJson onlyPolicy)

/-- How a policy is read from a JSON text and from a plain text. -/
structure Policy.ReadingsAgree (text s : String) : Prop where
  /-- A plain text gives the policy whose name it is in small letters. -/
  ofText_ok_iff (p : Policy) : ofText s = .ok p ↔ lowered s = p.name
  ofText_error_iff : ofText s = .error .unknownName ↔ ∀ p : Policy, lowered s ≠ p.name
  /-- A JSON text gives the policy whose name is written in it. -/
  policyOfJson_ok_iff (p : Policy) : policyOfJson text = .ok p ↔ Named text p.name
  /-- A JSON text that gives a policy is no name as it stands. -/
  ofText_ne_ok (p q : Policy) (hp : policyOfJson text = .ok p) : ofText text ≠ .ok q
  /-- The name in a JSON text that gives a policy gives the same policy. -/
  ofText_name (hnamed : Named text s) (p : Policy) (hp : policyOfJson text = .ok p) :
    ofText s = .ok p ∧ s = p.name
  /-- In JSON a name is refused for its capitals only. -/
  exists_policyOfJson_iff (hnamed : Named text s) (p : Policy) (hp : ofText s = .ok p) :
    (∃ q, policyOfJson text = .ok q) ↔ ∀ c ∈ s.toList, c ∉ capitals
  /-- What both ways take gives one policy. -/
  eq_of_ok (hnamed : Named text s) (p q : Policy) (hp : ofText s = .ok p)
      (hq : policyOfJson text = .ok q) : p = q
  /-- Settings that name nothing but a policy are read with this policy. -/
  ofJson_ok_iff (hnamed : Named text s) (x : Settings) :
    ofJson (onlyPolicy text) = .ok x ↔ ∃ p, policyOfJson text = .ok p ∧ x = ⟨p, false⟩

/-- A plain text gives the policy whose name it is in small letters, and every other one is refused.
A JSON text gives a policy exactly if the name of the policy is written in it, and this name gives
the same policy as a plain text.  A written name that gives a policy as a plain text is taken from
JSON exactly if it has no capitals.  What both ways take gives one policy, also where it stands in
settings; and no text as a whole is taken by both. -/
theorem policy_readings_agree (text s : String) : Policy.ReadingsAgree text s where
  ofText_ok_iff p := Policy.ofText_eq_ok_iff
  ofText_error_iff := Policy.ofText_eq_error_iff
  policyOfJson_ok_iff p := Settings.policyOfJson_eq_ok_iff
  ofText_ne_ok p q hp := Settings.ofText_ne_ok_of_named (Settings.policyOfJson_eq_ok_iff.mp hp)
  ofText_name hnamed p hp := by
    obtain rfl := hnamed.policyOfJson_eq_ok_iff.mp hp
    exact ⟨Policy.ofText_name p, rfl⟩
  exists_policyOfJson_iff hnamed p hp := by
    constructor
    · rintro ⟨q, hq⟩
      rw [hnamed.policyOfJson_eq_ok_iff.mp hq]
      exact Policy.notMem_capitals_of_mem_name
    · intro hsmall
      exact ⟨p, hnamed.policyOfJson_eq_ok_iff.mpr ((Policy.eq_name_iff hp).mpr hsmall)⟩
  eq_of_ok hnamed p q hp hq := by
    rw [hnamed.policyOfJson_eq_ok_iff.mp hq, Policy.ofText_name] at hp
    exact (Except.ok.inj hp).symm
  ofJson_ok_iff hnamed x := Settings.ofJson_onlyPolicy_eq_ok_iff hnamed

namespace Policy.Sample

open Json (Blanks Escape Quotes Plain blanks_nil)

/-- A policy as an object, with a letter of its name escaped. -/
def escaped : String := " \x7b\"w\\u0061rn\" :null\x7d"

/-- The name of the same policy with a capital, as a string. -/
def capital : String := "\"Warn\" "

/-- The first sample names a policy, with one letter escaped. -/
theorem named_escaped : Named escaped "warn" := by
  have hletter : Escape "u0061".toList 'a' :=
    .single (.intro (i := 0) (j := 0) (k := 6) (l := 1) (by decide) (by decide) (by decide)
      (by decide)) (by decide)
  have hrest : Plain "rn".toList := by decide
  have hname : Quotes _ "warn" :=
    .intro (.plain (by decide) (by decide) (by decide) (.escape hletter hrest.spells))
  have hblank : Blanks [' '] := by decide
  exact ⟨[' '], _, [], rfl, hblank, .object blanks_nil hname hblank blanks_nil blanks_nil,
    blanks_nil⟩

/-- The second sample names the same policy with a capital. -/
theorem named_capital : Named capital "Warn" := by
  have hname : Quotes _ "Warn" := .intro (Plain.spells (by decide))
  exact ⟨[], _, [' '], rfl, blanks_nil, .string hname, by decide⟩

end Policy.Sample

open Policy.Sample (escaped capital named_escaped named_capital) in
/-- The escaped name is taken by all ways, and the one with a capital as a plain text only. -/
theorem policy_readings_agree_warn :
    Named escaped "warn" ∧ policyOfJson escaped = .ok .warn ∧ ofText "warn" = .ok .warn
    ∧ ofJson (onlyPolicy escaped) = .ok ⟨.warn, false⟩
    ∧ (∀ q, ofText escaped ≠ .ok q)
    ∧ Named capital "Warn" ∧ ofText "Warn" = .ok .warn ∧ ¬∃ q, policyOfJson capital = .ok q := by
  have hescaped := policy_readings_agree escaped "warn"
  have hcapitals := policy_readings_agree capital "Warn"
  have hread : policyOfJson escaped = .ok .warn :=
    (hescaped.policyOfJson_ok_iff .warn).mpr named_escaped
  have hwarn : ofText "Warn" = .ok .warn := (hcapitals.ofText_ok_iff .warn).mpr (by decide)
  have hcapital : ¬∀ c ∈ "Warn".toList, c ∉ capitals := fun h =>
    h 'W' (by decide) (by simp [capitals])
  obtain ⟨hplain, -⟩ := hescaped.ofText_name named_escaped .warn hread
  exact ⟨named_escaped, hread, hplain,
    (hescaped.ofJson_ok_iff named_escaped _).mpr ⟨.warn, hread, rfl⟩,
    fun q => hescaped.ofText_ne_ok .warn q hread, named_capital, hwarn,
    fun hsome => hcapital ((hcapitals.exists_policyOfJson_iff named_capital .warn hwarn).mp hsome)⟩

end FirstMatch
