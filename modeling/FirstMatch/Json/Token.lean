/-
# The tokens of JSON

Readers for blanks, words and strings.  A reader takes the characters that are left and answers a
value and what is left behind it, or a fault.  A string is read one element at a time:
a plain character, or an escape of one or two code units.
-/
import FirstMatch.Json.Fault

namespace FirstMatch.Json

/-- A value with the rest of the text behind it. -/
abbrev Read (α : Type) := α × List Char

/-- Blanks may stand around every token. -/
def isBlank (c : Char) : Bool := c == ' ' || c == '\n' || c == '\t' || c == '\r'

/-- The text behind the blanks it begins with. -/
def skipBlanks (cs : List Char) : List Char := cs.dropWhile isBlank

/-- Reads the given letters. -/
def letters : List Char → List Char → Except Fault (List Char)
  | [], cs => .ok cs
  | _ :: _, [] => .error (.before (.ended .value) [])
  | w :: ws, c :: cs => if c = w then letters ws cs else .error (.within .expectedLetter (c :: cs))

/-! ## Strings -/

/-- The value of a digit in base sixteen. -/
def hexDigit? (c : Char) : Option Nat :=
  if '0' ≤ c ∧ c ≤ '9' then some (c.toNat - '0'.toNat)
  else if 'a' ≤ c ∧ c ≤ 'f' then some (c.toNat - 'a'.toNat + 10)
  else if 'A' ≤ c ∧ c ≤ 'F' then some (c.toNat - 'A'.toNat + 10)
  else none

/-- The number that four digits in base sixteen denote. -/
def hexValue? (a b c d : Char) : Option Nat := do
  return 0x1000 * (← hexDigit? a) + 0x100 * (← hexDigit? b) + 0x10 * (← hexDigit? c)
    + (← hexDigit? d)

/-- Reads a code unit of four digits.  Four bytes are taken before any of them is looked at. -/
def codeUnit (cs : List Char) : Except Fault (Read Nat) :=
  if byteCount cs < 4 then .error (.before (.ended .string) [])
  else match cs with
    | a :: b :: c :: d :: rest =>
      match hexValue? a b c d with
      | some unit => .ok (unit, rest)
      | none => .error ⟨.badEscape, byteCount cs - 4⟩
    | _ => .error ⟨.badEscape, byteCount cs - 4⟩

/-- The first half of a pair of code units. -/
def isHighSurrogate (unit : Nat) : Bool := 0xD800 ≤ unit && unit ≤ 0xDBFF

/-- The second half of a pair of code units. -/
def isLowSurrogate (unit : Nat) : Bool := 0xDC00 ≤ unit && unit ≤ 0xDFFF

/-- The character of a pair of code units. -/
def pairedChar (high low : Nat) : Char :=
  Char.ofNat (0x10000 + (high - 0xD800) * 0x400 + (low - 0xDC00))

/-- Reads the letter in front of the second code unit of a pair. -/
def pairLetter (letter : Char) : List Char → Except Fault (List Char)
  | [] => .error (.before (.ended .string) [])
  | c :: cs => if c = letter then .ok cs else .error (.within .halfSurrogatePair (c :: cs))

/-- Reads the code units of an escape, behind its letter `u`. -/
def unicodeEscape (cs : List Char) : Except Fault (Read Char) := do
  let (unit, cs) ← codeUnit cs
  if isLowSurrogate unit then .error (.before .loneSurrogate cs)
  else if isHighSurrogate unit then
    let cs ← pairLetter '\\' cs
    let cs ← pairLetter 'u' cs
    let (low, cs) ← codeUnit cs
    if isLowSurrogate low then .ok (pairedChar unit low, cs)
    else .error (.before .loneSurrogate cs)
  else .ok (Char.ofNat unit, cs)

/-- The character that an escape of one letter denotes. -/
def letterEscape? : Char → Option Char
  | '"' => some '"'
  | '\\' => some '\\'
  | '/' => some '/'
  | 'b' => some '\x08'
  | 'f' => some '\x0c'
  | 'n' => some '\n'
  | 'r' => some '\r'
  | 't' => some '\t'
  | _ => none

/-- Reads an escape, behind its backslash. -/
def escape : List Char → Except Fault (Read Char)
  | [] => .error (.before (.ended .string) [])
  | c :: cs =>
    if c = 'u' then unicodeEscape cs
    else match letterEscape? c with
      | some d => .ok (d, cs)
      | none => .error (.within .badEscape (c :: cs))

/-- A code unit takes characters away from the text. -/
theorem codeUnit_length {cs rest : List Char} {unit : Nat} (h : codeUnit cs = .ok (unit, rest)) :
    rest.length < cs.length := by
  unfold codeUnit at h
  split at h
  · simp at h
  · split at h
    · split at h
      · simp only [Except.ok.injEq, Prod.mk.injEq] at h
        simp only [List.length_cons, h.2]
        omega
      · simp at h
    · simp at h

/-- The letter in front of the second code unit of a pair takes one character away. -/
theorem pairLetter_length {letter : Char} {cs rest : List Char}
    (h : pairLetter letter cs = .ok rest) : rest.length < cs.length := by
  cases cs with
  | nil => simp [pairLetter] at h
  | cons c cs =>
    simp only [pairLetter] at h
    split at h
    · cases h; simp
    · simp at h

/-- An escape takes characters away, whether it has one code unit or two. -/
theorem unicodeEscape_length {cs rest : List Char} {c : Char}
    (h : unicodeEscape cs = .ok (c, rest)) : rest.length < cs.length := by
  unfold unicodeEscape at h
  obtain hu | ⟨unit, cs₁, hu⟩ : (∃ f, codeUnit cs = .error f) ∨ ∃ u r, codeUnit cs = .ok (u, r) := by
    cases hu : codeUnit cs with
    | error f => exact .inl ⟨f, rfl⟩
    | ok p => exact .inr ⟨p.1, p.2, rfl⟩
  · obtain ⟨f, hu⟩ := hu
    simp [hu, bind, Except.bind] at h
  have h₁ := codeUnit_length hu
  simp only [hu, bind, Except.bind] at h
  split at h
  · simp at h
  split at h
  · cases hb : pairLetter '\\' cs₁ with
    | error f => simp [hb] at h
    | ok cs₂ =>
      simp only [hb] at h
      cases hl : pairLetter 'u' cs₂ with
      | error f => simp [hl] at h
      | ok cs₃ =>
        simp only [hl] at h
        cases hw : codeUnit cs₃ with
        | error f => simp [hw] at h
        | ok p =>
          simp only [hw] at h
          split at h
          · have h₂ := pairLetter_length hb
            have h₃ := pairLetter_length hl
            have h₄ := codeUnit_length (hw : codeUnit cs₃ = .ok (p.1, p.2))
            simp only [Except.ok.injEq, Prod.mk.injEq] at h
            rw [← h.2]
            omega
          · simp at h
  · simp only [Except.ok.injEq, Prod.mk.injEq] at h
    rw [← h.2]
    exact h₁

/-- An escape takes up at least one character. -/
theorem escape_length {cs rest : List Char} {c : Char} (h : escape cs = .ok (c, rest)) :
    rest.length < cs.length := by
  cases cs with
  | nil => simp [escape] at h
  | cons d cs =>
    simp only [escape] at h
    split at h
    · have := unicodeEscape_length h
      simp only [List.length_cons]
      omega
    · split at h
      · simp only [Except.ok.injEq, Prod.mk.injEq] at h
        simp [h.2]
      · simp at h

/-- Reads the rest of a string, behind its opening quote. -/
def stringTail (cs : List Char) : Except Fault (Read (List Char)) :=
  match cs with
  | [] => .error (.before (.ended .string) [])
  | '"' :: cs => .ok ([], cs)
  | '\\' :: cs =>
    match h : escape cs with
    | .error fault => .error fault
    | .ok (c, rest) => do
      have := escape_length h
      let (tail, rest) ← stringTail rest
      return (c :: tail, rest)
  | c :: cs =>
    if c.toNat < 0x20 then .error (.before .controlCharacter cs)
    else do
      let (tail, rest) ← stringTail cs
      return (c :: tail, rest)
termination_by cs.length

end FirstMatch.Json
