/-
# Reading tokens

The readers of tokens against their grammar: a reader answers exactly if the text begins with what
the grammar describes, and then with the value that this denotes and the text behind it.  Each
reader has one statement of this form, made of those of the readers that it calls.
-/
import Mathlib.Data.List.TakeWhile
import Mathlib.Tactic.IntervalCases
import FirstMatch.Json.Token
import FirstMatch.Proofs.Grammar

namespace FirstMatch

/-- A reader that goes on behind another one answers exactly if both do. -/
theorem bind_eq_ok_iff {ε α β : Type} {x : Except ε α} {f : α → Except ε β} {b : β} :
    x >>= f = .ok b ↔ ∃ a, x = .ok a ∧ f a = .ok b := by
  cases x with
  | error e => simp [bind, Except.bind]
  | ok a => simp [bind, Except.bind]

namespace Json

variable {cs rest text : List Char} {c : Char}

/-! ## Blanks -/

/-- The reader knows the blanks of the grammar. -/
theorem isBlank_iff : isBlank c = true ↔ c ∈ [' ', '\t', '\n', '\r'] := by
  simp only [isBlank, Bool.or_eq_true, beq_iff_eq, List.mem_cons, List.not_mem_nil, or_false]
  tauto

/-- A text is blank if the reader finds each of its characters so. -/
theorem blanks_iff : Blanks text ↔ ∀ c ∈ text, isBlank c = true :=
  forall₂_congr fun _ _ => isBlank_iff.symm

/-- No text at all is blank. -/
theorem blanks_nil : Blanks [] := fun _ hc => absurd hc List.not_mem_nil

/-- Blanks are skipped up to the first character that is none. -/
theorem skipBlanks_eq_cons_iff : skipBlanks cs = c :: rest ↔
    isBlank c = false ∧ ∃ blanks, Blanks blanks ∧ cs = blanks ++ c :: rest := by
  constructor
  · intro h
    have hdrop : cs.dropWhile isBlank = c :: rest := h
    have hne : cs.dropWhile isBlank ≠ [] := by
      rw [hdrop]
      exact List.cons_ne_nil c rest
    have hblanks : Blanks (cs.takeWhile isBlank) :=
      blanks_iff.mpr fun _ hc => List.mem_takeWhile_imp hc
    have hhead : isBlank c = false := by
      have hnot := List.head_dropWhile_not isBlank hne
      simpa only [hdrop, List.head_cons] using hnot
    exact ⟨hhead, _, hblanks, by rw [← hdrop, List.takeWhile_append_dropWhile]⟩
  · rintro ⟨hc, blanks, hblanks, rfl⟩
    rw [skipBlanks, List.dropWhile_append_of_pos (blanks_iff.mp hblanks),
      List.dropWhile_cons_of_neg (by simp [hc])]

/-- Nothing is left of a text exactly if it is blank. -/
theorem skipBlanks_eq_nil_iff : skipBlanks cs = [] ↔ Blanks cs := by
  rw [skipBlanks, List.dropWhile_eq_nil_iff, blanks_iff]

/-- Blanks are skipped up to the first character that is none. -/
theorem skipBlanks_append {a : List Char} (ha : Blanks a) (hc : isBlank c = false)
    (cs : List Char) : skipBlanks (a ++ c :: cs) = c :: cs :=
  skipBlanks_eq_cons_iff.mpr ⟨hc, a, ha, rfl⟩

/-- A text is made of blanks and what is left when they are skipped. -/
theorem exists_blanks (cs : List Char) : ∃ a, Blanks a ∧ cs = a ++ skipBlanks cs := by
  cases h : skipBlanks cs with
  | nil => exact ⟨cs, skipBlanks_eq_nil_iff.mp h, (List.append_nil cs).symm⟩
  | cons c rest =>
    obtain ⟨-, a, ha, hcs⟩ := skipBlanks_eq_cons_iff.mp h
    exact ⟨a, ha, hcs⟩

/-- Skipping blanks twice is skipping them once. -/
theorem skipBlanks_skipBlanks (cs : List Char) : skipBlanks (skipBlanks cs) = skipBlanks cs := by
  cases h : skipBlanks cs with
  | nil => rfl
  | cons c rest =>
    obtain ⟨hc, -⟩ := skipBlanks_eq_cons_iff.mp h
    exact skipBlanks_append blanks_nil hc rest

/-! ## Letters -/

/-- A word is read exactly where it stands. -/
theorem letters_eq_ok_iff {word : List Char} : letters word cs = .ok rest ↔ cs = word ++ rest := by
  induction word generalizing cs with
  | nil => simp [letters]
  | cons w word ih =>
    cases cs with
    | nil => simp [letters]
    | cons c cs =>
      rw [letters]
      split
      · next hcw => rw [ih, hcw, List.cons_append, List.cons_inj_right]
      · next hcw => simp [hcw]

/-! ## Code units -/

/-- The reader knows the digits of the grammar. -/
theorem hexDigit?_eq_some_iff {n : Nat} : hexDigit? c = some n ↔ HexDigit c n := by
  constructor
  -- all digits are below `g`, and of so few characters each can be tried
  · intro h
    have hlt : c.toNat < 103 := by
      by_contra hge
      have hlarge : ∀ d : Char, d.toNat < 103 → ¬ c ≤ d := fun d hd hle =>
        hge (Nat.lt_of_le_of_lt (UInt32.le_iff_toNat_le.mp hle) hd)
      rw [hexDigit?, if_neg fun hle => hlarge '9' (by decide) hle.2,
        if_neg fun hle => hlarge 'f' (by decide) hle.2,
        if_neg fun hle => hlarge 'F' (by decide) hle.2] at h
      cases h
    have hall : ∀ m < 103, ∀ n ∈ hexDigit? (Char.ofNat m), HexDigit (Char.ofNat m) n := by decide
    have hdigit := hall c.toNat hlt n
    rw [Char.ofNat_toNat] at hdigit
    exact hdigit h
  · rintro ⟨hn, rfl | rfl⟩
    · interval_cases n <;> rfl
    · interval_cases n <;> rfl

/-- Four digits have at least four bytes, and all of them are looked at. -/
theorem codeUnit_eq_ok_iff {unit : Nat} :
    codeUnit cs = .ok (unit, rest) ↔ ∃ text, CodeUnit text unit ∧ cs = text ++ rest := by
  constructor
  · intro h
    unfold codeUnit at h
    split at h
    · cases h
    · split at h
      · next a b c d rest' _ =>
        split at h
        · next unit' hvalue =>
          obtain ⟨rfl, rfl⟩ : unit' = unit ∧ rest' = rest := by simpa using h
          simp only [hexValue?, Option.bind_eq_bind, Option.bind_eq_some_iff, Option.pure_def,
            Option.some.injEq, hexDigit?_eq_some_iff] at hvalue
          obtain ⟨i, hi, j, hj, k, hk, l, hl, rfl⟩ := hvalue
          exact ⟨[a, b, c, d], .intro hi hj hk hl, rfl⟩
        · cases h
      · cases h
  · rintro ⟨_, @⟨a, b, c, d, i, j, k, l, hi, hj, hk, hl⟩, rfl⟩
    -- a character has a byte at least, so four of them pass the check of the length
    have hbytes : ¬ byteCount ([a, b, c, d] ++ rest) < 4 := by
      have ha := a.utf8Size_pos
      have hb := b.utf8Size_pos
      have hc := c.utf8Size_pos
      have hd := d.utf8Size_pos
      simp only [List.cons_append, List.nil_append, byteCount_cons]
      omega
    have hvalue : hexValue? a b c d = some (0x1000 * i + 0x100 * j + 0x10 * k + l) := by
      simp only [hexValue?, hexDigit?_eq_some_iff.mpr hi, hexDigit?_eq_some_iff.mpr hj,
        hexDigit?_eq_some_iff.mpr hk, hexDigit?_eq_some_iff.mpr hl]
      rfl
    unfold codeUnit
    rw [if_neg hbytes]
    simp only [List.cons_append, List.nil_append, hvalue]

/-! ## Escapes -/

/-- A letter of a pair is read exactly where it stands. -/
theorem pairLetter_eq_ok_iff {letter : Char} :
    pairLetter letter cs = .ok rest ↔ cs = letter :: rest := by
  cases cs with
  | nil => simp [pairLetter]
  | cons c cs =>
    rw [pairLetter]
    split
    · next hc => simp [hc]
    · next hc => simp [hc]

/-- The code units of low surrogates, in numbers. -/
theorem isLowSurrogate_iff {unit : Nat} :
    isLowSurrogate unit = true ↔ 0xDC00 ≤ unit ∧ unit < 0xE000 := by
  rw [isLowSurrogate, Bool.and_eq_true, decide_eq_true_iff, decide_eq_true_iff]
  omega

/-- The code units of high surrogates, in numbers. -/
theorem isHighSurrogate_iff {unit : Nat} :
    isHighSurrogate unit = true ↔ 0xD800 ≤ unit ∧ unit < 0xDC00 := by
  rw [isHighSurrogate, Bool.and_eq_true, decide_eq_true_iff, decide_eq_true_iff]
  omega

/-- The letter of code units stands for no character itself. -/
theorem notMem_letterEscapes : ('u', c) ∉ letterEscapes := by simp [letterEscapes]

/-- A code unit that is no surrogate is read by itself. -/
theorem unicodeEscape_of_single {text : List Char} {unit : Nat} (htext : CodeUnit text unit)
    (hunit : unit < 0xD800 ∨ 0xE000 ≤ unit) :
    unicodeEscape (text ++ rest) = .ok (Char.ofNat unit, rest) := by
  have hread : codeUnit (text ++ rest) = .ok (unit, rest) :=
    codeUnit_eq_ok_iff.mpr ⟨text, htext, rfl⟩
  have hlow : ¬ isLowSurrogate unit = true := by
    rw [isLowSurrogate_iff]
    omega
  have hhigh : ¬ isHighSurrogate unit = true := by
    rw [isHighSurrogate_iff]
    omega
  refine bind_eq_ok_iff.mpr ⟨_, hread, ?_⟩
  dsimp only
  rw [if_neg hlow, if_neg hhigh]

/-- A high and a low surrogate are read as a pair. -/
theorem unicodeEscape_of_pair {front behind : List Char} {high low : Nat}
    (hfront : CodeUnit front high) (hhigh : 0xD800 ≤ high ∧ high < 0xDC00)
    (hbehind : CodeUnit behind low) (hlow : 0xDC00 ≤ low ∧ low < 0xE000) :
    unicodeEscape (front ++ '\\' :: 'u' :: (behind ++ rest)) = .ok (pairedChar high low, rest) := by
  have hnot : ¬ isLowSurrogate high = true := by
    rw [isLowSurrogate_iff]
    omega
  have hread : codeUnit (front ++ '\\' :: 'u' :: (behind ++ rest))
      = .ok (high, '\\' :: 'u' :: (behind ++ rest)) :=
    codeUnit_eq_ok_iff.mpr ⟨front, hfront, rfl⟩
  have hread' : codeUnit (behind ++ rest) = .ok (low, rest) :=
    codeUnit_eq_ok_iff.mpr ⟨behind, hbehind, rfl⟩
  refine bind_eq_ok_iff.mpr ⟨_, hread, ?_⟩
  dsimp only
  rw [if_neg hnot, if_pos (isHighSurrogate_iff.mpr hhigh)]
  refine bind_eq_ok_iff.mpr ⟨_, pairLetter_eq_ok_iff.mpr rfl, ?_⟩
  refine bind_eq_ok_iff.mpr ⟨_, pairLetter_eq_ok_iff.mpr rfl, ?_⟩
  refine bind_eq_ok_iff.mpr ⟨_, hread', ?_⟩
  dsimp only
  rw [if_pos (isLowSurrogate_iff.mpr hlow)]

/-- What is read behind the letter `u` is one code unit or two. -/
theorem exists_of_unicodeEscape (h : unicodeEscape cs = .ok (c, rest)) :
    ∃ text, Escape ('u' :: text) c ∧ cs = text ++ rest := by
  obtain ⟨⟨unit, cs₁⟩, hunit, hrest⟩ := bind_eq_ok_iff.mp h
  obtain ⟨text, htext, rfl⟩ := codeUnit_eq_ok_iff.mp hunit
  dsimp only at hrest
  split at hrest
  · cases hrest
  · next hlow =>
    rw [isLowSurrogate_iff] at hlow
    split at hrest
    -- a high surrogate needs a low one behind it
    · next hhigh =>
      rw [isHighSurrogate_iff] at hhigh
      simp only [bind_eq_ok_iff, pairLetter_eq_ok_iff, codeUnit_eq_ok_iff, Prod.exists] at hrest
      obtain ⟨_, rfl, _, rfl, low, cs₂, ⟨text', htext', rfl⟩, hpair⟩ := hrest
      split at hpair
      · next hlow' =>
        rw [isLowSurrogate_iff] at hlow'
        obtain ⟨rfl, rfl⟩ := Prod.mk.inj (Except.ok.inj hpair)
        exact ⟨_, .pair htext hhigh.1 hhigh.2 htext' hlow'.1 hlow'.2, by simp⟩
      · cases hpair
    · next hhigh =>
      rw [isHighSurrogate_iff] at hhigh
      obtain ⟨rfl, rfl⟩ := Prod.mk.inj (Except.ok.inj hrest)
      exact ⟨text, .single htext (by omega), rfl⟩

/-- Behind the letter `u` stand one code unit or two. -/
theorem unicodeEscape_eq_ok_iff :
    unicodeEscape cs = .ok (c, rest) ↔ ∃ text, Escape ('u' :: text) c ∧ cs = text ++ rest := by
  constructor
  · exact exists_of_unicodeEscape
  · rintro ⟨text, hescape, rfl⟩
    cases hescape with
    | letter hletter => exact absurd hletter notMem_letterEscapes
    | single htext hunit => exact unicodeEscape_of_single htext hunit
    | pair hfront hge hlt hbehind hge' hlt' =>
      rw [List.append_assoc, List.cons_append, List.cons_append]
      exact unicodeEscape_of_pair hfront ⟨hge, hlt⟩ hbehind ⟨hge', hlt'⟩

/-- The reader knows the letters of the grammar that stand behind a backslash. -/
theorem letterEscape?_eq_some_iff {d : Char} :
    letterEscape? c = some d ↔ (c, d) ∈ letterEscapes := by
  constructor
  · intro h
    unfold letterEscape? at h
    split at h <;> cases h <;> decide
  · intro h
    simp only [letterEscapes, List.mem_cons, List.not_mem_nil, or_false, Prod.mk.injEq] at h
    rcases h with ⟨rfl, rfl⟩ | ⟨rfl, rfl⟩ | ⟨rfl, rfl⟩ | ⟨rfl, rfl⟩ | ⟨rfl, rfl⟩ | ⟨rfl, rfl⟩
      | ⟨rfl, rfl⟩ | ⟨rfl, rfl⟩ <;> rfl

/-- An escape is read exactly where one is written, and denotes the character that is read. -/
theorem escape_eq_ok_iff :
    escape cs = .ok (c, rest) ↔ ∃ text, Escape text c ∧ cs = text ++ rest := by
  constructor
  · intro h
    cases cs with
    | nil => cases h
    | cons d cs =>
      rw [escape] at h
      split at h
      · next hd =>
        obtain ⟨text, htext, rfl⟩ := unicodeEscape_eq_ok_iff.mp h
        exact ⟨'u' :: text, htext, by rw [hd, List.cons_append]⟩
      · split at h
        · next hletter =>
          obtain ⟨rfl, rfl⟩ := Prod.mk.inj (Except.ok.inj h)
          exact ⟨[d], .letter (letterEscape?_eq_some_iff.mp hletter), rfl⟩
        · cases h
  · rintro ⟨text, htext, rfl⟩
    have hunicode : ∀ {text}, Escape ('u' :: text) c →
        escape ('u' :: (text ++ rest)) = .ok (c, rest) := fun h =>
      unicodeEscape_eq_ok_iff.mpr ⟨_, h, rfl⟩
    cases htext with
    | @letter d _ hletter =>
      have hd : d ≠ 'u' := by
        rintro rfl
        exact notMem_letterEscapes hletter
      rw [List.cons_append, escape, if_neg hd, letterEscape?_eq_some_iff.mpr hletter]
      rfl
    | single htext hunit => exact hunicode (.single htext hunit)
    | pair hfront hge hlt hbehind hge' hlt' =>
      exact hunicode (.pair hfront hge hlt hbehind hge' hlt')

/-! ## Strings -/

/-- Behind its opening quote a string goes on up to the first quote that is not escaped. -/
theorem stringTail_eq_ok_iff {s : List Char} :
    stringTail cs = .ok (s, rest) ↔ ∃ text, Spells text s ∧ cs = text ++ '"' :: rest := by
  constructor
  · intro h
    fun_induction stringTail cs generalizing s with
    | case1 => cases h
    | case2 cs =>
      obtain ⟨rfl, rfl⟩ := Prod.mk.inj (Except.ok.inj h)
      exact ⟨[], .nil, rfl⟩
    | case3 => cases h
    | case4 cs c behind hescape _ ih =>
      obtain ⟨⟨tail, _⟩, htail, hpure⟩ := bind_eq_ok_iff.mp h
      obtain ⟨rfl, rfl⟩ := Prod.mk.inj (Except.ok.inj hpure)
      obtain ⟨front, hfront, rfl⟩ := escape_eq_ok_iff.mp hescape
      obtain ⟨text, htext, rfl⟩ := ih htail
      exact ⟨_, .escape hfront htext, by rw [List.cons_append, List.append_assoc]⟩
    | case5 => cases h
    | case6 c cs hquote hbackslash hge ih =>
      obtain ⟨⟨tail, _⟩, htail, hpure⟩ := bind_eq_ok_iff.mp h
      obtain ⟨rfl, rfl⟩ := Prod.mk.inj (Except.ok.inj hpure)
      obtain ⟨text, htext, rfl⟩ := ih htail
      exact ⟨c :: text, .plain (Nat.le_of_not_lt hge) hquote hbackslash htext, rfl⟩
  · rintro ⟨text, htext, rfl⟩
    induction htext with
    | nil => rw [List.nil_append, stringTail]
    | plain hge hquote hbackslash _ ih =>
      rw [List.cons_append, stringTail, if_neg (Nat.not_lt_of_le hge), ih]
      · rfl
      -- the character is neither of the two for which the reader has cases of their own
      · exact hquote
      · exact hbackslash
    | @escape c front text s hescape _ ih =>
      have hread : escape (front ++ text ++ '"' :: rest) = .ok (c, text ++ '"' :: rest) :=
        escape_eq_ok_iff.mpr ⟨front, hescape, List.append_assoc ..⟩
      rw [List.cons_append, stringTail]
      split
      · next hfault => cases hread.symm.trans hfault
      · next hread' =>
        obtain ⟨rfl, rfl⟩ := Prod.mk.inj (Except.ok.inj (hread.symm.trans hread'))
        rw [ih]
        rfl

/-- A string is what stands from its opening quote to its closing one. -/
theorem stringTail_eq_ok_iff_quotes {s : List Char} : stringTail cs = .ok (s, rest) ↔
    ∃ text, Quotes ('"' :: text) (String.ofList s) ∧ cs = text ++ rest := by
  rw [stringTail_eq_ok_iff]
  constructor
  · rintro ⟨text, htext, rfl⟩
    rw [← String.toList_ofList (l := s)] at htext
    exact ⟨text ++ ['"'], .intro htext, by rw [List.append_assoc, List.singleton_append]⟩
  · rintro ⟨_, @⟨text, _, htext⟩, rfl⟩
    rw [String.toList_ofList] at htext
    exact ⟨text, htext, by rw [List.append_assoc, List.singleton_append]⟩

/-- Characters that need no escape. -/
def Plain (text : List Char) : Prop := ∀ c ∈ text, 0x20 ≤ c.toNat ∧ c ≠ '"' ∧ c ≠ '\\'

/-- Whether a text is plain can be decided. -/
instance (text : List Char) : Decidable (Plain text) := List.decidableBAll _ text

/-- A plain text spells itself. -/
theorem Plain.spells (h : Plain text) : Spells text text := by
  induction text with
  | nil => exact .nil
  | cons c text ih =>
    obtain ⟨⟨hcontrol, hquote, hbackslash⟩, htext⟩ := List.forall_mem_cons.mp h
    exact .plain hcontrol hquote hbackslash (ih htext)

/-- A string begins with a quote. -/
theorem Quotes.exists_cons {text : List Char} {s : String} (h : Quotes text s) :
    ∃ tail, text = '"' :: tail := by
  cases h
  exact ⟨_, rfl⟩

end Json

end FirstMatch
